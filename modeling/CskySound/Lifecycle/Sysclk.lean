import CskySound.Lifecycle.Runs

/-!
# The master clock

`mclk` is written by `csky_i2s_set_dai_sysclk` alone: the probe leaves it at zero, as
`devm_kzalloc` returned it, and no other call writes it.  So after any run it is the frequency
of the run's last `set_dai_sysclk`.  While that is zero, `csky_i2s_hw_params` refuses every
stream, with or without an `audio` clock: zero is a multiple of every rate, but no mclk/fs ratio
of the table is zero.  The machine driver has to give the DAI its master clock before the first
stream.
-/

namespace CskySound.Lifecycle

open Foundation Driver Clock

def sysclkStep (mclk : UInt32) : DaiCall → UInt32
  | .setSysclk _ freq _ => freq
  | _ => mclk

/-- mclk after a run: the frequency of its last `set_dai_sysclk`, or `mclk` if it has none. -/
def lastSysclk (mclk : UInt32) (cs : List DaiCall) : UInt32 := cs.foldl sysclkStep mclk

/-! ## A zero master clock -/

theorem calcDividers_mclk_zero {st : ClockTreeState} (h : st.mclk = 0) (rate : Nat) :
    calcDividers st rate = .error .invalidRatio := by
  have hv : ¬mclkFsRatioValid st 0 := fun hv => absurd (le_of_mclkFsRatioValid hv) (by decide)
  simp [calcDividers, mclkDiv, h, hv]

theorem clkRateOutcome_mclk_zero (clk : ClkOps) {i2s : CskyI2s} (h : i2s.mclk = 0)
    (rate : UInt32) (d : ClkDividers) : clkRateOutcome clk i2s rate ≠ .ok d := by
  unfold clkRateOutcome
  rcases hsel : cskyI2sSetSrcClk clk i2s rate with ret | i2s₁
  · exact nofun
  have hm : (clockTreeOf i2s₁).mclk = 0 := by
    rw [cskyI2sSetSrcClk_ok hsel, clockTreeOf_mclk, h]
    rfl
  simp only [calcDividers_mclk_zero hm]
  exact nofun

theorem cskyI2sHwParams_mclk_zero {hd : CskyI2sHeader} {clk : ClkOps} {i2s i2s' : CskyI2s}
    {params : SndPcmHwParams} {r : Int} (h : cskyI2sHwParams hd clk i2s params = some (r, i2s'))
    (hm : i2s.mclk = 0) : r ≠ 0 := by
  rintro rfl
  have hne : ∀ {s : CskyI2s}, some (-einval, s) ≠ some (0, i2s') := fun h =>
    absurd (Prod.mk.inj (Option.some.inj h)).1 (by decide)
  unfold cskyI2sHwParams at h
  split_ifs at h
  · exact hne h
  split at h
  · exact hne h
  obtain ⟨d, -, ho, -⟩ := cskyI2sSetClkRate_eq_ok h
  refine clkRateOutcome_mclk_zero clk ?_ params.rate d ho
  exact hm

/-! ## mclk along a run -/

theorem clkPrepareEnable_mclk (i2s : CskyI2s) (c : DrvClk) (ret : Int) :
    (clkPrepareEnable i2s c ret).mclk = i2s.mclk := by
  unfold clkPrepareEnable
  split_ifs <;> rfl

theorem probeClocks_mclk {pdev : PlatformDevice} {i2s i2s' : CskyI2s}
    (h : probeClocks pdev i2s = .ok i2s') : i2s'.mclk = i2s.mclk := by
  unfold probeClocks at h
  split at h
  · exact absurd h probeFail_ne_ok
  dsimp only at h
  split at h
  · exact absurd h probeFail_ne_ok
  split at h
  · exact absurd h probeFail_ne_ok
  split at h
  · exact absurd h probeFail_ne_ok
  split at h
  · exact absurd h probeFail_ne_ok
  split at h
  · exact absurd h probeFail_ne_ok
  cases h
  simp only [clkPrepareEnable_mclk]

theorem cskyI2sProbe_mclk {hd : CskyI2sHeader} {pdev : PlatformDevice} {i2s : CskyI2s}
    (h : cskyI2sProbe hd pdev = .ok i2s) : i2s.mclk = 0 := by
  unfold cskyI2sProbe at h
  rcases hs : probeStart pdev with e | i2s₁ <;> simp only [hs, reduceCtorEq] at h
  rcases hc : probeSrcClk pdev i2s₁ with e | i2s₂ <;> simp only [hc, reduceCtorEq] at h
  have h₁ : i2s₁.mclk = 0 := by
    unfold probeStart at hs
    rcases hr : pdev.ioremap with ret | regs <;> simp only [hr] at hs <;> split_ifs at hs <;>
      cases hs
    rfl
  have h₂ : i2s₂.mclk = i2s₁.mclk := by
    unfold probeSrcClk at hc
    split at hc
    · cases hc
      rfl
    · exact probeClocks_mclk hc
  rw [probeRegister_ok h]
  unfold probeSettings
  split_ifs <;> exact h₂.trans h₁

section

variable {hd : CskyI2sHeader} {clk : ClkOps}

theorem daiCall_mclk {i2s i2s' : CskyI2s} {c : DaiCall} {r : Int}
    (h : daiCall hd clk i2s c = some (r, i2s')) : i2s'.mclk = sysclkStep i2s.mclk c := by
  cases c <;> simp only [daiCall] at h
  case hwParams params => rw [(cskyI2sHwParams_frame h).1]; rfl
  all_goals obtain ⟨rfl, rfl⟩ := Prod.ext_iff.1 (Option.some.inj h)
  case daiProbe => rw [cskyI2sDaiProbe, cskyI2sInit_eq]; rfl
  case setFmt fmt =>
    rcases cskyI2sSetFmt_cases hd i2s fmt with ⟨_, _, _, _, _, _, he⟩ | he <;> rw [he] <;> rfl
  case trigger stream cmd =>
    unfold cskyI2sTrigger cskyI2sStartPlayback cskyI2sStopPlayback
    split_ifs <;> rfl
  case irq val => rw [cskyI2sIrqHandler_eq]; rfl
  all_goals rfl

theorem runCalls_mclk {i2s i2s' : CskyI2s} {cs : List DaiCall}
    (h : runCalls hd clk i2s cs = some i2s') : i2s'.mclk = lastSysclk i2s.mclk cs := by
  induction cs generalizing i2s with
  | nil =>
    cases h
    rfl
  | cons c cs ih =>
    obtain ⟨_, _, hc, hrun⟩ := runCalls_cons h
    rw [ih hrun, daiCall_mclk hc]
    rfl

theorem cskyI2sHwParams_isSome {i2s : CskyI2s} {params : SndPcmHwParams} (h : params.rate ≠ 0) :
    (cskyI2sHwParams hd clk i2s params).isSome :=
  Option.isSome_iff_ne_none.2 fun hn =>
    h ((@daiCall_eq_none_iff hd clk i2s (.hwParams params)).1 hn).2.2.1

/--
On every run after a successful probe, mclk is the frequency the last `csky_i2s_set_dai_sysclk`
gave, and as long as that is zero, in particular before the first one, `csky_i2s_hw_params`
answers every stream with a nonzero rate and refuses every stream.
-/
theorem cskyI2sProbe_runCalls_mclk {pdev : PlatformDevice} {i2s i2s₁ : CskyI2s}
    {cs : List DaiCall} (hp : cskyI2sProbe hd pdev = .ok i2s)
    (hrun : runCalls hd clk i2s cs = some i2s₁) :
    i2s₁.mclk = lastSysclk 0 cs ∧
      (lastSysclk 0 cs = 0 → ∀ params,
        (params.rate ≠ 0 → (cskyI2sHwParams hd clk i2s₁ params).isSome) ∧
        ∀ r i2s₂, cskyI2sHwParams hd clk i2s₁ params = some (r, i2s₂) → r ≠ 0) := by
  have hm := runCalls_mclk hrun
  rw [cskyI2sProbe_mclk hp] at hm
  exact ⟨hm, fun h0 _ => ⟨cskyI2sHwParams_isSome,
    fun _ _ h => cskyI2sHwParams_mclk_zero h (hm.trans h0)⟩⟩

end

theorem cskyI2sProbe_runCalls_mclk_leftJ :
    let cs := [DaiCall.daiProbe, .setFmt SndSocDaifmt.leftJ, .irq 0x10]
    let i2s₁ := (runCalls sampleHeader exactClk sampleProbed cs).getD sampleProbed
    cskyI2sProbe sampleHeader samplePlatformDevice = .ok sampleProbed ∧
      runCalls sampleHeader exactClk sampleProbed cs = some i2s₁ ∧
      i2s₁.mclk = lastSysclk 0 cs ∧ lastSysclk 0 cs = 0 ∧
      ∃ r i2s₂, cskyI2sHwParams sampleHeader exactClk i2s₁ ⟨2, 16, 48000, 16⟩ = some (r, i2s₂) ∧
        r ≠ 0 := by
  intro cs i2s₁
  have hrun : runCalls sampleHeader exactClk sampleProbed cs = some i2s₁ := by rfl
  have h0 : lastSysclk 0 cs = 0 := by decide
  have h := @cskyI2sProbe_runCalls_mclk sampleHeader exactClk samplePlatformDevice sampleProbed
    i2s₁ cs rfl hrun
  obtain ⟨hdef, hrefuse⟩ := h.2 h0 ⟨2, 16, 48000, 16⟩
  obtain ⟨⟨r, i2s₂⟩, hr⟩ := Option.isSome_iff_exists.1 (hdef (by decide))
  exact ⟨rfl, hrun, h.1, h0, r, i2s₂, hr, hrefuse _ _ hr⟩

end CskySound.Lifecycle
