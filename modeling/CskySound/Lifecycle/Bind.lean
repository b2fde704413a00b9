import CskySound.Lifecycle.Runs

/-!
# Binding a device

What `csky_i2s_probe` asks of the platform and what it leaves for the rest of the driver's life.
It returns `0` exactly when every call it makes succeeds, the PCM registration being the one of
the transfer mode the node selects; every failure returns the errno of the failing call, which
is negative as long as the kernel keeps its convention.  A bound controller keeps the FIFO
thresholds of its node, or the driver's defaults, and the DMA data that points the DMA engine at
`IIS_DR`; from the first `csky_i2s_dai_probe` on, the configuration registers hold what
`csky_i2s_init` writes for those thresholds, whatever callbacks follow.
-/

namespace CskySound.Lifecycle

open Foundation Driver Clock

/-! ## What the probe needs -/

def StartOk (pdev : PlatformDevice) : Prop :=
  pdev.kzallocOk = true ∧ pdev.ioremap.isOk = true ∧ 0 ≤ pdev.irq ∧ 0 ≤ pdev.requestIrq

def ClocksOk (pdev : PlatformDevice) : Prop :=
  (pdev.clkGet "audio").isOk = true ∧ pdev.clkPrepareEnable "audio" = 0 ∧
    (pdev.clkGet "gate").isOk = true ∧ pdev.clkPrepareEnable "gate" = 0 ∧
    (pdev.clkGet "clk-for-fs-44k").isOk = true ∧ (pdev.clkGet "clk-for-fs-48k").isOk = true

def RegisterOk (pdev : PlatformDevice) (usePio : Bool) : Prop :=
  pdev.registerComponent = 0 ∧ pdev.pcmConfOk = true ∧
    if usePio then pdev.pcmPioRegister = 0 else pdev.dmaenginePcmRegister = 0

/--
What `csky_i2s_probe` needs to bind the device: no clock is touched when the node gives
`clock-frequency`, and the PCM registered is the PIO one exactly when the node has no `dmas`.
-/
def ProbeSucceeds (pdev : PlatformDevice) : Prop :=
  StartOk pdev ∧ ((pdev.propertyU32 "clock-frequency").isSome = true ∨ ClocksOk pdev) ∧
    RegisterOk pdev !(pdev.hasProperty "dmas")

/--
The kernel's convention for what the probe's calls return: `PTR_ERR` values, `clk_prepare_enable`,
`devm_request_irq` and the registrations fail with negative errnos and succeed with `0`.
-/
structure ErrnoConvention (pdev : PlatformDevice) : Prop where
  ioremap : ∀ ret, pdev.ioremap = .error ret → ret < 0
  requestIrq : pdev.requestIrq ≤ 0
  clkGet : ∀ name ret, pdev.clkGet name = .error ret → ret < 0
  clkPrepareEnable : ∀ name, pdev.clkPrepareEnable name ≤ 0
  registerComponent : pdev.registerComponent ≤ 0
  pcmPioRegister : pdev.pcmPioRegister ≤ 0
  dmaenginePcmRegister : pdev.dmaenginePcmRegister ≤ 0

/-! ## The probe, phase by phase -/

theorem probeStart_ret (pdev : PlatformDevice) :
    match probeStart pdev with
    | .ok _ => StartOk pdev
    | .error e => ¬StartOk pdev ∧ (ErrnoConvention pdev → e.ret < 0) := by
  unfold probeStart StartOk probeFail
  rcases hr : pdev.ioremap with ret | regs <;> dsimp only
  · split_ifs
    · exact And.intro (fun h => by simp_all) (fun _ => by decide)
    · exact And.intro (fun h => nomatch h.2.1) (fun hc => hc.ioremap ret hr)
  · split_ifs with hk hirq hreq
    · exact And.intro (fun h => by simp_all) (fun _ => by decide)
    · exact And.intro (fun h => absurd h.2.2.1 (not_le.2 hirq)) (fun _ => hirq)
    · exact And.intro (fun h => absurd h.2.2.2 (not_le.2 hreq)) (fun _ => hreq)
    · exact ⟨by simpa using hk, rfl, not_lt.1 hirq, not_lt.1 hreq⟩

theorem probeClocks_ret (pdev : PlatformDevice) (i2s : CskyI2s) :
    match probeClocks pdev i2s with
    | .ok _ => ClocksOk pdev
    | .error e => ¬ClocksOk pdev ∧ (ErrnoConvention pdev → e.ret < 0) := by
  have hneg : ∀ {name}, pdev.clkPrepareEnable name ≠ 0 → ErrnoConvention pdev →
      pdev.clkPrepareEnable name < 0 := fun h hc => lt_of_le_of_ne (hc.clkPrepareEnable _) h
  generalize h : probeClocks pdev i2s = r
  unfold probeClocks at h
  split at h
  · subst h
    rename_i ret ha
    exact And.intro (fun hc => nomatch ha ▸ hc.1) (fun hc => hc.clkGet _ _ ha)
  rename_i rate ha
  dsimp only at h
  split at h
  · subst h
    rename_i hae
    exact And.intro (fun hc => hae hc.2.1) (hneg hae)
  rename_i hae
  split at h
  · subst h
    rename_i ret hg
    exact And.intro (fun hc => nomatch hg ▸ hc.2.2.1) (fun hc => hc.clkGet _ _ hg)
  rename_i hg
  split at h
  · subst h
    rename_i hge
    exact And.intro (fun hc => hge hc.2.2.2.1) (hneg hge)
  rename_i hge
  split at h
  · subst h
    rename_i ret h44
    exact And.intro (fun hc => nomatch h44 ▸ hc.2.2.2.2.1) (fun hc => hc.clkGet _ _ h44)
  rename_i h44
  split at h
  · subst h
    rename_i ret h48
    exact And.intro (fun hc => nomatch h48 ▸ hc.2.2.2.2.2) (fun hc => hc.clkGet _ _ h48)
  · subst h
    rename_i h48
    show ClocksOk pdev
    unfold ClocksOk
    exact ⟨by rw [ha]; rfl, not_not.1 hae, by rw [hg]; rfl, not_not.1 hge, by rw [h44]; rfl,
      by rw [h48]; rfl⟩

theorem probeSrcClk_ret (pdev : PlatformDevice) (i2s : CskyI2s) :
    match probeSrcClk pdev i2s with
    | .ok _ => (pdev.propertyU32 "clock-frequency").isSome = true ∨ ClocksOk pdev
    | .error e => ¬((pdev.propertyU32 "clock-frequency").isSome = true ∨ ClocksOk pdev) ∧
        (ErrnoConvention pdev → e.ret < 0) := by
  unfold probeSrcClk
  rcases hf : pdev.propertyU32 "clock-frequency" with _ | src <;> dsimp only
  · have hc := probeClocks_ret pdev i2s
    split at hc <;> simpa using hc
  · exact .inl rfl

theorem probeRegister_ret (pdev : PlatformDevice) (i2s : CskyI2s) :
    match probeRegister pdev i2s with
    | .ok _ => RegisterOk pdev i2s.usePio
    | .error e => ¬RegisterOk pdev i2s.usePio ∧ (ErrnoConvention pdev → e.ret < 0) := by
  have hneg : ∀ {ret : Int}, ret ≠ 0 → ret ≤ 0 → ret < 0 := fun h h' => lt_of_le_of_ne h' h
  unfold probeRegister
  split_ifs with hreg hconf hpio hdma
  · exact And.intro (fun h => hreg h.1) (fun hc => hneg hreg hc.registerComponent)
  · exact And.intro (fun h => by simp [h.2.1] at hconf) (fun _ => (by decide : (-enomem : Int) < 0))
  · exact And.intro (fun h => hpio.2 (by simpa only [hpio.1, if_true] using h.2.2))
      (fun hc => hneg hpio.2 hc.pcmPioRegister)
  · have hdma₁ : i2s.usePio = false := by simpa using hdma.1
    exact And.intro (fun h => hdma.2 (by simpa only [hdma₁] using h.2.2))
      (fun hc => hneg hdma.2 hc.dmaenginePcmRegister)
  · refine ⟨not_not.1 hreg, by simpa using hconf, ?_⟩
    cases hp : i2s.usePio
    · simpa [hp] using hdma
    · simpa [hp] using hpio

@[simp] theorem probeSettings_usePio (hd : CskyI2sHeader) (pdev : PlatformDevice) (i2s : CskyI2s) :
    (probeSettings hd pdev i2s).usePio = !pdev.hasProperty "dmas" := by
  unfold probeSettings
  split_ifs with h <;> simp [h]

/--
`csky_i2s_probe` returns `0` exactly when every call it makes succeeds, and otherwise the errno
of the call that failed, negative under the kernel's convention: it never reports success on a
failure nor `0` after one.
-/
theorem cskyI2sProbe_ret (hd : CskyI2sHeader) (pdev : PlatformDevice) :
    ((cskyI2sProbe hd pdev).isOk ↔ ProbeSucceeds pdev) ∧
      (ErrnoConvention pdev → ∀ e, cskyI2sProbe hd pdev = .error e → e.ret < 0) := by
  have hs := probeStart_ret pdev
  unfold cskyI2sProbe ProbeSucceeds
  rcases hst : probeStart pdev with e | i2s₁ <;> simp only [hst] at hs <;> dsimp only
  · exact ⟨⟨fun h => (nomatch h), fun h => absurd h.1 hs.1⟩, fun hc _ he => Except.error.inj he ▸ hs.2 hc⟩
  have hc := probeSrcClk_ret pdev i2s₁
  rcases hsc : probeSrcClk pdev i2s₁ with e | i2s₂ <;> simp only [hsc] at hc <;> dsimp only
  · exact ⟨⟨fun h => (nomatch h), fun h => absurd h.2.1 hc.1⟩,
      fun hconv _ he => Except.error.inj he ▸ hc.2 hconv⟩
  have hr := probeRegister_ret pdev (probeSettings hd pdev i2s₂)
  rw [probeSettings_usePio] at hr
  rcases hrg : probeRegister pdev (probeSettings hd pdev i2s₂) with e | i2s₃ <;>
    simp only [hrg] at hr
  · exact ⟨⟨fun h => (nomatch h), fun h => absurd h.2.2 hr.1⟩,
      fun hconv _ he => Except.error.inj he ▸ hr.2 hconv⟩
  · exact ⟨⟨fun _ => ⟨hs, hc, hr⟩, fun _ => rfl⟩, fun _ _ he => nomatch he⟩

def no48kDevice : PlatformDevice :=
  { samplePlatformDevice with
    clkGet := fun name => if name = "clk-for-fs-48k" then .error (-2) else .ok 24576000 }

theorem cskyI2sProbe_ret_no48k :
    let e := match cskyI2sProbe sampleHeader no48kDevice with
      | .error e => e
      | .ok _ => ⟨0, [], fun _ => 0⟩
    ErrnoConvention no48kDevice ∧ cskyI2sProbe sampleHeader no48kDevice = .error e ∧
      ¬ProbeSucceeds no48kDevice ∧ e.ret < 0 := by
  intro e
  have hconv : ErrnoConvention no48kDevice :=
    { ioremap := fun _ h => nomatch h
      requestIrq := by decide
      clkGet := fun name ret h => by
        simp only [no48kDevice] at h
        split_ifs at h
        cases h
        decide
      clkPrepareEnable := fun _ => le_rfl
      registerComponent := by decide
      pcmPioRegister := by decide
      dmaenginePcmRegister := by decide }
  have h := cskyI2sProbe_ret sampleHeader no48kDevice
  have he : cskyI2sProbe sampleHeader no48kDevice = .error e := rfl
  refine ⟨hconv, he, fun hs => ?_, h.2 hconv e he⟩
  have hok := h.1.2 hs
  rw [he] at hok
  exact nomatch hok

/-! ## What a bound controller keeps -/

/--
The fields the probe stores from the node: the transfer mode, the FIFO thresholds of the node or
the driver's defaults, and the DMA data, whose `maxburst` is `fifo-depth - dma-tx-threshold` in
`u32` arithmetic, unchecked.
-/
structure ProbedSettings (hd : CskyI2sHeader) (pdev : PlatformDevice) (i2s : CskyI2s) : Prop where
  usePio : i2s.usePio = !pdev.hasProperty "dmas"
  intrTxThreshold : i2s.intrTxThreshold = propertyOr pdev "intr-tx-threshold" defaultIntrTxThreshold
  intrRxThreshold : i2s.intrRxThreshold = propertyOr pdev "intr-rx-threshold" defaultIntrRxThreshold
  dmaTxThreshold : i2s.dmaTxThreshold = propertyOr pdev "dma-tx-threshold" defaultDmaTxThreshold
  dmaRxThreshold : i2s.dmaRxThreshold = propertyOr pdev "dma-rx-threshold" defaultDmaRxThreshold
  dmaAddr : i2s.playbackDmaData.addr = pdev.resStart + hd.iisDr
  maxburst : i2s.playbackDmaData.maxburst =
    propertyOr pdev "fifo-depth" defaultFifoDepth - propertyOr pdev "dma-tx-threshold" defaultDmaTxThreshold

/--
The configuration registers as `csky_i2s_init` writes them for the device `pdev`: transmit mode,
no sample compression, mode interrupts masked, the FS centre counts, the rate set by the driver
outside the `RES` field of `IIS_FSSTA`, and the FIFO thresholds of `ProbedSettings`, the transmit
interrupt threshold only in PIO mode.
-/
structure BoundConfig (hd : CskyI2sHeader) (pdev : PlatformDevice) (i2s : CskyI2s) : Prop where
  funcmode : i2s.regs .funcmode = hd.funcmodeModeWen ||| hd.funcmodeModeTx
  sccr : i2s.regs .sccr = 0
  mimr : i2s.regs .mimr = 0
  fadtlr : i2s.regs .fadtlr =
    hd.fadtlr48ftr 0x40 ||| hd.fadtlr44ftr 0x46 ||| hd.fadtlr32ftr 0x60 ||| hd.fadtlr96ftr 0x20
  fssta : i2s.regs .fssta &&& ~~~(hd.fsstaResMask <<< hd.fsstaResShift) =
    hd.fsstaRateSetByUser &&& ~~~(hd.fsstaResMask <<< hd.fsstaResShift)
  rxftlr : i2s.regs .rxftlr = propertyOr pdev "intr-rx-threshold" defaultIntrRxThreshold
  txftlr : i2s.regs .txftlr =
    if pdev.hasProperty "dmas" then 0 else propertyOr pdev "intr-tx-threshold" defaultIntrTxThreshold
  dmardlr : i2s.regs .dmardlr = propertyOr pdev "dma-rx-threshold" defaultDmaRxThreshold
  dmatdlr : i2s.regs .dmatdlr = propertyOr pdev "dma-tx-threshold" defaultDmaTxThreshold

def configRegs : List IisReg := [.funcmode, .sccr, .mimr, .fadtlr, .rxftlr, .txftlr, .dmardlr, .dmatdlr]

section

variable {hd : CskyI2sHeader} {pdev : PlatformDevice} {clk : ClkOps}

theorem BoundConfig.of_regs {i2s i2s' : CskyI2s} (hb : BoundConfig hd pdev i2s)
    (hregs : ∀ reg ∈ configRegs, i2s'.regs reg = i2s.regs reg)
    (hfssta : i2s'.regs .fssta &&& ~~~(hd.fsstaResMask <<< hd.fsstaResShift) =
      i2s.regs .fssta &&& ~~~(hd.fsstaResMask <<< hd.fsstaResShift)) :
    BoundConfig hd pdev i2s' where
  funcmode := (hregs _ (by decide)).trans hb.funcmode
  sccr := (hregs _ (by decide)).trans hb.sccr
  mimr := (hregs _ (by decide)).trans hb.mimr
  fadtlr := (hregs _ (by decide)).trans hb.fadtlr
  fssta := hfssta.trans hb.fssta
  rxftlr := (hregs _ (by decide)).trans hb.rxftlr
  txftlr := (hregs _ (by decide)).trans hb.txftlr
  dmardlr := (hregs _ (by decide)).trans hb.dmardlr
  dmatdlr := (hregs _ (by decide)).trans hb.dmatdlr

theorem cskyI2sProbe_settings {i2s : CskyI2s} (h : cskyI2sProbe hd pdev = .ok i2s) :
    ProbedSettings hd pdev i2s := by
  unfold cskyI2sProbe at h
  rcases hs : probeStart pdev with e | i2s₁ <;> simp only [hs, reduceCtorEq] at h
  rcases hc : probeSrcClk pdev i2s₁ with e | i2s₂ <;> simp only [hc, reduceCtorEq] at h
  rw [probeRegister_ok h]
  exact ⟨probeSettings_usePio hd pdev i2s₂, rfl, rfl, rfl, rfl, rfl, rfl⟩

theorem cskyI2sInit_boundConfig {i2s : CskyI2s} (hs : ProbedSettings hd pdev i2s) :
    BoundConfig hd pdev (cskyI2sInit hd i2s) := by
  constructor <;> simp (disch := decide) only [cskyI2sInit, CskyI2s.writel_regs_self,
    CskyI2s.writel_regs_of_ne]
  · exact or_and_not_of_and_eq hd.res16Fifo16_mem
  · exact hs.intrRxThreshold
  · rw [hs.usePio, hs.intrTxThreshold]
    cases pdev.hasProperty "dmas" <;> rfl
  · exact hs.dmaRxThreshold
  · exact hs.dmaTxThreshold

theorem daiCall_settings {i2s i2s' : CskyI2s} {c : DaiCall} {r : Int}
    (h : daiCall hd clk i2s c = some (r, i2s')) (hs : ProbedSettings hd pdev i2s) :
    ProbedSettings hd pdev i2s' := by
  have hdma : i2s'.playbackDmaData.addr = i2s.playbackDmaData.addr ∧
      i2s'.playbackDmaData.maxburst = i2s.playbackDmaData.maxburst := by
    cases c <;> simp only [daiCall] at h
    case hwParams => rw [cskyI2sHwParams_dmaData h]; exact ⟨rfl, rfl⟩
    all_goals obtain ⟨rfl, rfl⟩ := Prod.ext_iff.1 (Option.some.inj h)
    case daiProbe => rw [cskyI2sDaiProbe, cskyI2sInit_eq]; exact ⟨rfl, rfl⟩
    case setFmt fmt =>
      rcases cskyI2sSetFmt_cases hd i2s fmt with ⟨_, _, _, _, _, _, he⟩ | he <;> rw [he] <;>
        exact ⟨rfl, rfl⟩
    case trigger stream cmd =>
      unfold cskyI2sTrigger cskyI2sStartPlayback cskyI2sStopPlayback
      split_ifs <;> exact ⟨rfl, rfl⟩
    case irq val => rw [cskyI2sIrqHandler_eq]; exact ⟨rfl, rfl⟩
    all_goals exact ⟨rfl, rfl⟩
  have hf := daiCall_frame h
  exact ⟨hf ▸ hs.usePio, hf ▸ hs.intrTxThreshold, hf ▸ hs.intrRxThreshold, hf ▸ hs.dmaTxThreshold,
    hf ▸ hs.dmaRxThreshold, hdma.1.trans hs.dmaAddr, hdma.2.trans hs.maxburst⟩

theorem daiCall_boundConfig {i2s i2s' : CskyI2s} {c : DaiCall} {r : Int}
    (h : daiCall hd clk i2s c = some (r, i2s')) (hs : ProbedSettings hd pdev i2s)
    (hb : BoundConfig hd pdev i2s) : BoundConfig hd pdev i2s' := by
  by_cases hc : c = .daiProbe
  · subst hc
    obtain ⟨-, rfl⟩ := Prod.ext_iff.1 (Option.some.inj h)
    exact cskyI2sInit_boundConfig hs
  have hregs := daiCall_regs h
  refine hb.of_regs (fun reg hr => hregs reg ?_) ?_
  · revert reg hr
    cases c <;> first | exact absurd rfl hc | (simp only [DaiCall.writes, divLevels]; decide)
  · cases c <;> first | exact absurd rfl hc | exact cskyI2sHwParams_fssta_outside h |
      rw [hregs .fssta (by simp [DaiCall.writes])]

theorem runCalls_boundConfig {i2s i2s' : CskyI2s} {cs : List DaiCall}
    (h : runCalls hd clk i2s cs = some i2s') (hs : ProbedSettings hd pdev i2s)
    (hb : BoundConfig hd pdev i2s) : ProbedSettings hd pdev i2s' ∧ BoundConfig hd pdev i2s' := by
  induction cs generalizing i2s with
  | nil =>
    cases h
    exact ⟨hs, hb⟩
  | cons c cs ih =>
    obtain ⟨_, _, hstep, hrun⟩ := runCalls_cons h
    exact ih hrun (daiCall_settings hstep hs) (daiCall_boundConfig hstep hs hb)

/--
From the first binding of the card on, on every defined run of callbacks and interrupts, the
controller stays configured as its node asks: the stored thresholds and DMA data are those of
the node or the driver's defaults, and the configuration registers hold them.
-/
theorem cskyI2sProbe_runCalls_config {i2s i2s' : CskyI2s} {cs : List DaiCall}
    (hp : cskyI2sProbe hd pdev = .ok i2s) (h : runCalls hd clk i2s (.daiProbe :: cs) = some i2s') :
    ProbedSettings hd pdev i2s' ∧ BoundConfig hd pdev i2s' := by
  obtain ⟨_, _, hc, hrun⟩ := runCalls_cons h
  have hs := cskyI2sProbe_settings hp
  obtain ⟨-, rfl⟩ := Prod.ext_iff.1 (Option.some.inj hc)
  exact runCalls_boundConfig hrun (daiCall_settings hc hs) (cskyI2sInit_boundConfig hs)

end

theorem cskyI2sProbe_runCalls_config_start :
    let cs := [DaiCall.hwParams ⟨2, 16, 48000, 16⟩,
      .trigger sndrvPcmStreamPlayback SndrvPcmTrigger.start, .irq 0x10]
    let i2s' := (runCalls sampleHeader exactClk sampleProbed (.daiProbe :: cs)).getD sampleProbed
    cskyI2sProbe sampleHeader samplePlatformDevice = .ok sampleProbed ∧
      runCalls sampleHeader exactClk sampleProbed (.daiProbe :: cs) = some i2s' ∧
      ProbedSettings sampleHeader samplePlatformDevice i2s' ∧
      BoundConfig sampleHeader samplePlatformDevice i2s' := by
  intro cs i2s'
  have hrun : runCalls sampleHeader exactClk sampleProbed (.daiProbe :: cs) = some i2s' := by rfl
  exact ⟨rfl, hrun, @cskyI2sProbe_runCalls_config sampleHeader samplePlatformDevice exactClk
    sampleProbed i2s' cs rfl hrun⟩

end CskySound.Lifecycle
