import CskySound.Driver.Dai
import CskySound.Driver.Probe
import CskySound.Clock.Refinement

/-!
# Runs of the driver

After `csky_i2s_probe`, the ASoC core calls the DAI callbacks and the interrupt line calls the
handler, in any order.  A run is the list of those calls; it is defined, in C semantics, as long
as no `hw_params` in it asks for rate `0`.  This module states what each call may write, which
the invariants of the other `Lifecycle` modules are built on.
-/

namespace CskySound.Lifecycle

open Foundation Driver Clock

/-- A call the ASoC core or the interrupt line makes on a probed controller. -/
inductive DaiCall
  | daiProbe
  | setFmt (fmt : UInt32)
  | setSysclk (clkId : Int) (freq : UInt32) (dir : Int)
  | hwParams (params : SndPcmHwParams)
  | trigger (stream cmd : Int)
  | startup
  | shutdown
  | irq (val : UInt32)
  deriving DecidableEq, Repr

def DaiCall.writes : DaiCall → List IisReg
  | .daiProbe => [.audioen, .ficr, .cmir, .fssta, .fadtlr, .imr, .rxftlr, .txftlr, .dmardlr,
      .dmatdlr, .mimr, .sccr, .funcmode, .iiscnfOut]
  | .setFmt _ => [.iiscnfOut]
  | .hwParams _ => .fssta :: divLevels
  | .trigger _ _ => [.imr, .dmacr, .audioen]
  | .irq _ => [.ficr]
  | .setSysclk .. | .startup | .shutdown => []

section

variable (hd : CskyI2sHeader) (clk : ClkOps)

/--
One call: what it returns, and the state it leaves; `none` is undefined behaviour.  The `void`
`csky_i2s_shutdown` returns `0` here.
-/
def daiCall (i2s : CskyI2s) : DaiCall → Option (Int × CskyI2s)
  | .daiProbe => some (cskyI2sDaiProbe hd i2s)
  | .setFmt fmt => some (cskyI2sSetFmt hd i2s fmt)
  | .setSysclk clkId freq dir => some (cskyI2sSetDaiSysclk i2s clkId freq dir)
  | .hwParams params => cskyI2sHwParams hd clk i2s params
  | .trigger stream cmd => some (cskyI2sTrigger hd i2s stream cmd)
  | .startup => some (cskyI2sStartup i2s, i2s)
  | .shutdown => some (0, cskyI2sShutdown i2s)
  | .irq val => some (cskyI2sIrqHandler hd i2s val)

def runCalls : CskyI2s → List DaiCall → Option CskyI2s
  | i2s, [] => some i2s
  | i2s, c :: cs =>
    match daiCall hd clk i2s c with
    | some (_, i2s') => runCalls i2s' cs
    | none => none

/--
The calls that are undefined behaviour: `hw_params` that gets past its checks with rate `0` on a
controller without an `audio` clock, where `csky_i2s_calc_mclk_div` takes `mclk % 0`.
-/
def UndefinedCall (i2s : CskyI2s) : DaiCall → Prop
  | .hwParams params => params.channels ≤ 2 ∧ (physicalWidthConfig hd params).isSome ∧
      params.rate = 0 ∧ i2s.i2sClk = false
  | _ => False

end

section

variable {hd : CskyI2sHeader} {clk : ClkOps}

/-! ## One call -/

theorem cskyI2sHwParams_frame {i2s i2s' : CskyI2s} {params : SndPcmHwParams} {r : Int}
    (h : cskyI2sHwParams hd clk i2s params = some (r, i2s')) :
    i2s' = { i2s with
      playbackDmaData := i2s'.playbackDmaData, srcClk := i2s'.srcClk,
      sampleRate := i2s'.sampleRate, sclkFsDivider := i2s'.sclkFsDivider,
      mclkFsDivider := i2s'.mclkFsDivider, regs := i2s'.regs, log := i2s'.log } ∧
    ∀ reg ∉ IisReg.fssta :: divLevels, i2s'.regs reg = i2s.regs reg := by
  unfold cskyI2sHwParams at h
  split_ifs at h
  · cases h
    exact ⟨rfl, fun _ _ => rfl⟩
  split at h
  · cases h
    exact ⟨rfl, fun _ _ => rfl⟩
  obtain ⟨hi, hregs⟩ := cskyI2sSetClkRate_frame h
  refine ⟨by rw [hi]; rfl, fun reg hr => ?_⟩
  rw [List.mem_cons, not_or] at hr
  exact (hregs reg hr.2).trans (CskyI2s.writel_regs_of_ne _ _ hr.1)

/--
A successful `csky_i2s_hw_params` had at most two channels and a physical width of the table;
it leaves that width's resolution in the `RES` field of `IIS_FSSTA`, every other bit of
`IIS_FSSTA` as it was, and that width's DMA bus width.
-/
theorem cskyI2sHwParams_fssta {i2s i2s' : CskyI2s} {params : SndPcmHwParams}
    (h : cskyI2sHwParams hd clk i2s params = some (0, i2s')) :
    params.channels ≤ 2 ∧ ∃ width res, physicalWidthConfig hd params = some (width, res) ∧
      i2s'.playbackDmaData.addrWidth = width ∧
      i2s'.regs .fssta &&& hd.fsstaResMask <<< hd.fsstaResShift = res ∧
      i2s'.regs .fssta &&& ~~~(hd.fsstaResMask <<< hd.fsstaResShift) =
        i2s.regs .fssta &&& ~~~(hd.fsstaResMask <<< hd.fsstaResShift) := by
  have hne : ∀ {s : CskyI2s}, some (-einval, s) ≠ some (0, i2s') := fun h =>
    absurd (Prod.mk.inj (Option.some.inj h)).1 (by decide)
  unfold cskyI2sHwParams at h
  split_ifs at h with hch
  · exact absurd h hne
  split at h
  · exact absurd h hne
  rename_i width res hcfg
  obtain ⟨hi, hregs⟩ := cskyI2sSetClkRate_frame h
  have hfssta : i2s'.regs .fssta =
      i2s.regs .fssta &&& ~~~(hd.fsstaResMask <<< hd.fsstaResShift) ||| res :=
    (hregs .fssta (by decide)).trans (CskyI2s.writel_regs_self ..)
  have hres := physicalWidthConfig_res hd hcfg
  refine ⟨UInt32.not_lt.1 hch, width, res, hcfg, by rw [hi]; rfl, ?_, ?_⟩ <;> rw [hfssta]
  · exact replaced_and hres
  · exact replaced_and_not hres

theorem cskyI2sHwParams_fssta_stereo16 :
    let i2s' := ((cskyI2sHwParams sampleHeader exactClk specExampleI2s ⟨2, 16, 48000, 16⟩).getD
      (0, specExampleI2s)).2
    cskyI2sHwParams sampleHeader exactClk specExampleI2s ⟨2, 16, 48000, 16⟩ = some (0, i2s') ∧
      (2 : UInt32) ≤ 2 ∧ ∃ width res,
        physicalWidthConfig sampleHeader ⟨2, 16, 48000, 16⟩ = some (width, res) ∧
        i2s'.playbackDmaData.addrWidth = width ∧
        i2s'.regs .fssta &&& sampleHeader.fsstaResMask <<< sampleHeader.fsstaResShift = res ∧
        i2s'.regs .fssta &&& ~~~(sampleHeader.fsstaResMask <<< sampleHeader.fsstaResShift) =
          specExampleI2s.regs .fssta &&&
            ~~~(sampleHeader.fsstaResMask <<< sampleHeader.fsstaResShift) := by
  intro i2s'
  have h : cskyI2sHwParams sampleHeader exactClk specExampleI2s ⟨2, 16, 48000, 16⟩ =
      some (0, i2s') := by rfl
  exact ⟨h, @cskyI2sHwParams_fssta sampleHeader exactClk specExampleI2s i2s' ⟨2, 16, 48000, 16⟩ h⟩

theorem cskyI2sHwParams_fssta_outside {i2s i2s' : CskyI2s} {params : SndPcmHwParams} {r : Int}
    (h : cskyI2sHwParams hd clk i2s params = some (r, i2s')) :
    i2s'.regs .fssta &&& ~~~(hd.fsstaResMask <<< hd.fsstaResShift) =
      i2s.regs .fssta &&& ~~~(hd.fsstaResMask <<< hd.fsstaResShift) := by
  unfold cskyI2sHwParams at h
  split_ifs at h
  · cases h
    rfl
  split at h
  · cases h
    rfl
  rename_i width res hcfg
  rw [(cskyI2sSetClkRate_frame h).2 .fssta (by decide), CskyI2s.writel_regs_self]
  exact replaced_and_not (physicalWidthConfig_res hd hcfg)

theorem cskyI2sHwParams_dmaData {i2s i2s' : CskyI2s} {params : SndPcmHwParams} {r : Int}
    (h : cskyI2sHwParams hd clk i2s params = some (r, i2s')) :
    i2s'.playbackDmaData = { i2s.playbackDmaData with addrWidth := i2s'.playbackDmaData.addrWidth } := by
  unfold cskyI2sHwParams at h
  split_ifs at h
  · cases h
    rfl
  split at h
  · cases h
    rfl
  rw [(cskyI2sSetClkRate_frame h).1]
  rfl

theorem daiCall_frame {i2s i2s' : CskyI2s} {c : DaiCall} {r : Int}
    (h : daiCall hd clk i2s c = some (r, i2s')) :
    i2s' = { i2s with
      regs := i2s'.regs, srcClk := i2s'.srcClk, mclk := i2s'.mclk,
      sampleRate := i2s'.sampleRate, sclkFsDivider := i2s'.sclkFsDivider,
      mclkFsDivider := i2s'.mclkFsDivider, audioFmt := i2s'.audioFmt,
      playbackDmaData := i2s'.playbackDmaData, log := i2s'.log,
      pioTxPushes := i2s'.pioTxPushes } := by
  cases c <;> simp only [daiCall] at h
  case hwParams params => rw [(cskyI2sHwParams_frame h).1]
  all_goals obtain ⟨rfl, rfl⟩ := Prod.ext_iff.1 (Option.some.inj h)
  case setFmt fmt =>
    rcases cskyI2sSetFmt_cases hd i2s fmt with ⟨_, _, _, _, _, _, he⟩ | he <;> rw [he]
    rfl
  case daiProbe =>
    simp only [cskyI2sDaiProbe]
    rw [cskyI2sInit_eq]
  case trigger stream cmd =>
    unfold cskyI2sTrigger cskyI2sStartPlayback cskyI2sStopPlayback
    split_ifs <;> rfl
  case irq val => rw [cskyI2sIrqHandler_eq]; rfl
  all_goals rfl

theorem daiCall_regs {i2s i2s' : CskyI2s} {c : DaiCall} {r : Int}
    (h : daiCall hd clk i2s c = some (r, i2s')) : ∀ reg ∉ c.writes, i2s'.regs reg = i2s.regs reg := by
  intro reg hr
  cases c <;> simp only [daiCall] at h
  case hwParams params => exact (cskyI2sHwParams_frame h).2 reg hr
  all_goals obtain ⟨rfl, rfl⟩ := Prod.ext_iff.1 (Option.some.inj h)
  all_goals simp only [DaiCall.writes, List.mem_cons, List.not_mem_nil, or_false, not_or] at hr
  case daiProbe =>
    simp only [cskyI2sDaiProbe, cskyI2sInit, CskyI2s.writel, Function.update_apply, hr, if_false]
  case setFmt fmt => exact (cskyI2sSetFmt_frame hd i2s fmt).2 reg hr
  case trigger stream cmd =>
    unfold cskyI2sTrigger cskyI2sStartPlayback cskyI2sStopPlayback
    split_ifs <;> simp only [CskyI2s.writel_regs_of_ne _ _ hr.1, CskyI2s.writel_regs_of_ne _ _ hr.2.1,
      CskyI2s.writel_regs_of_ne _ _ hr.2.2]
  case irq val => exact (cskyI2sIrqHandler_frame hd i2s val).2.2 reg hr
  all_goals rfl

theorem daiCall_eq_none_iff {i2s : CskyI2s} {c : DaiCall} :
    daiCall hd clk i2s c = none ↔ UndefinedCall hd i2s c := by
  cases c <;> simp only [daiCall, UndefinedCall, reduceCtorEq]
  case hwParams params =>
    unfold cskyI2sHwParams
    split_ifs with hch
    · simp only [reduceCtorEq, false_iff, not_and]
      exact fun h => absurd h (UInt32.not_le.2 hch)
    split
    · rename_i hcfg
      simp [hcfg]
    · rename_i hcfg
      simp [cskyI2sSetClkRate_eq_none_iff, CskyI2s.writel, hcfg, UInt32.not_lt.1 hch]

example : daiCall sampleHeader exactClk specExampleI2s (.hwParams ⟨2, 16, 0, 16⟩) = none := rfl

/-! ## Whole runs -/

theorem runCalls_cons {i2s i2s' : CskyI2s} {c : DaiCall} {cs : List DaiCall}
    (h : runCalls hd clk i2s (c :: cs) = some i2s') :
    ∃ r i2s₁, daiCall hd clk i2s c = some (r, i2s₁) ∧ runCalls hd clk i2s₁ cs = some i2s' := by
  simp only [runCalls] at h
  rcases hc : daiCall hd clk i2s c with _ | ⟨r, i2s₁⟩ <;> rw [hc] at h
  · cases h
  · exact ⟨r, i2s₁, rfl, h⟩

theorem runCalls_append (i2s : CskyI2s) (cs₁ cs₂ : List DaiCall) :
    runCalls hd clk i2s (cs₁ ++ cs₂) = (runCalls hd clk i2s cs₁).bind (runCalls hd clk · cs₂) := by
  induction cs₁ generalizing i2s with
  | nil => rfl
  | cons c cs ih =>
    simp only [List.cons_append, runCalls]
    rcases daiCall hd clk i2s c with _ | ⟨r, i2s'⟩
    · rfl
    · exact ih i2s'

theorem runCalls_eq_none_iff {i2s : CskyI2s} {cs : List DaiCall} :
    runCalls hd clk i2s cs = none ↔ ∃ pre c post i2s₁, cs = pre ++ c :: post ∧
      runCalls hd clk i2s pre = some i2s₁ ∧ UndefinedCall hd i2s₁ c := by
  induction cs generalizing i2s with
  | nil => simp [runCalls]
  | cons c cs ih =>
    rcases hc : daiCall hd clk i2s c with _ | ⟨r, i2s'⟩
    · simp only [runCalls, hc, true_iff]
      exact ⟨[], c, cs, i2s, rfl, rfl, daiCall_eq_none_iff.1 hc⟩
    simp only [runCalls, hc, ih]
    constructor
    · rintro ⟨pre, c', post, i2s₁, rfl, hpre, hu⟩
      exact ⟨c :: pre, c', post, i2s₁, rfl, by simp only [runCalls, hc, hpre], hu⟩
    · rintro ⟨_ | ⟨c₀, pre⟩, c', post, i2s₁, he, hpre, hu⟩ <;>
        obtain ⟨rfl, rfl⟩ := List.cons.inj he
      · cases hpre
        rw [← daiCall_eq_none_iff, hc] at hu
        cases hu
      · simp only [runCalls, hc] at hpre
        exact ⟨pre, c', post, i2s₁, rfl, hpre, hu⟩

/--
A run is undefined exactly when one of its calls is undefined on the state the calls before it
leave; so it is defined as long as no `hw_params` in it asks for rate `0`.
-/
theorem runCalls_isSome {i2s : CskyI2s} {cs : List DaiCall} :
    (runCalls hd clk i2s cs = none ↔ ∃ pre c post i2s₁, cs = pre ++ c :: post ∧
        runCalls hd clk i2s pre = some i2s₁ ∧ UndefinedCall hd i2s₁ c) ∧
      ((∀ params, DaiCall.hwParams params ∈ cs → params.rate ≠ 0) →
        (runCalls hd clk i2s cs).isSome) := by
  refine ⟨runCalls_eq_none_iff, fun hcs => ?_⟩
  rw [Option.isSome_iff_ne_none, Ne, runCalls_eq_none_iff]
  rintro ⟨pre, c, post, i2s₁, rfl, -, hu⟩
  cases c <;> simp only [UndefinedCall] at hu
  case hwParams params => exact hcs params (by simp) hu.2.2.1

theorem runCalls_isSome_stereo16 :
    let cs := [DaiCall.daiProbe, .hwParams ⟨2, 16, 48000, 16⟩,
      .trigger sndrvPcmStreamPlayback SndrvPcmTrigger.start]
    (∀ params, DaiCall.hwParams params ∈ cs → params.rate ≠ 0) ∧
      (runCalls sampleHeader exactClk specExampleI2s cs).isSome := by
  intro cs
  have hcs : ∀ params, DaiCall.hwParams params ∈ cs → params.rate ≠ 0 := by
    intro params hp
    simp only [cs, List.mem_cons, List.mem_singleton, DaiCall.hwParams.injEq, reduceCtorEq,
      or_false, false_or, List.not_mem_nil] at hp
    subst hp
    decide
  exact ⟨hcs, (@runCalls_isSome sampleHeader exactClk specExampleI2s cs).2 hcs⟩

end

/-! ## A sample device -/

/--
A device whose node sets none of the optional properties, whose clocks all run at 24.576 MHz
and on which every call the probe makes succeeds.
-/
def samplePlatformDevice : PlatformDevice where
  kzallocOk := true
  matchData := some paramsCskyI2sV1_1
  ioremap := .ok fun _ => 0
  resStart := 0x1000
  irq := 5
  requestIrq := 0
  propertyU32 := fun _ => none
  hasProperty := fun _ => false
  clkGet := fun _ => .ok 24576000
  clkPrepareEnable := fun _ => 0
  registerComponent := 0
  pcmConfOk := true
  pcmPioRegister := 0
  dmaenginePcmRegister := 0

def sampleProbed : CskyI2s :=
  (cskyI2sProbe sampleHeader samplePlatformDevice).toOption.getD (CskyI2s.kzalloc fun _ => 0)

end CskySound.Lifecycle
