import CskySound.Clock.Refinement

/-!
# What an earlier request leaves behind

`csky_i2s_set_clk_rate` writes `sample_rate`, `sclk_fs_divider` and `mclk_fs_divider` before it
reads them, so what it returns and writes depends only on the clock inputs: the generation,
the upstream clock, mclk and the audio format.  Its refusals are another matter:
`mclk_fs_divider` is written only once the ratio checks pass, so a request refused before that
point leaves the value of an earlier request, or of `probe`, in place.
-/

namespace CskySound.Clock

open Foundation Driver

/--
Two states agree on what `csky_i2s_set_clk_rate` reads before writing.  `src_clk` counts only
without an `audio` clock: with one, it is read back from the clock before any use.
-/
structure ClkInputsAgree (s t : CskyI2s) : Prop where
  params : s.params = t.params
  i2sClk : s.i2sClk = t.i2sClk
  srcClk : s.i2sClk = false → s.srcClk = t.srcClk
  clkFs44k : s.clkFs44k = t.clkFs44k
  clkFs48k : s.clkFs48k = t.clkFs48k
  mclk : s.mclk = t.mclk
  audioFmt : s.audioFmt = t.audioFmt

def CachedClkEqual (s t : CskyI2s) : Prop :=
  s.sampleRate = t.sampleRate ∧ s.sclkFsDivider = t.sclkFsDivider ∧
    s.mclkFsDivider = t.mclkFsDivider

/-- The dividers `csky_i2s_set_clk_rate` writes when it succeeds: `IIS_DIV4_LEVEL` only on v1.1. -/
def writtenDividers (p : CskyI2sParams) : List IisReg :=
  if p.hasMclkSclkDiv then divLevels else [.div0Level, .div1Level, .div2Level, .div3Level]

/--
Two runs of `csky_i2s_set_clk_rate`, from `s` and from `t`, have the same effect: both are
undefined, or they return the same value; on success both leave the same values in the dividers
of the generation, write no other register and cache the same fields, and on a refusal neither
writes a register.
-/
def SameClkEffect (s t : CskyI2s) : Option (Int × CskyI2s) → Option (Int × CskyI2s) → Prop
  | none, none => True
  | some (r, s'), some (r', t') =>
    r = r' ∧
      (r = 0 → CachedClkEqual s' t' ∧ ∀ reg, if reg ∈ writtenDividers s.params
          then s'.regs reg = t'.regs reg
          else s'.regs reg = s.regs reg ∧ t'.regs reg = t.regs reg) ∧
      (r ≠ 0 → s'.regs = s.regs ∧ t'.regs = t.regs)
  | _, _ => False

theorem programmed_isSome_iff {st : ClockTreeState} {rate : Nat} {d : ClkDividers}
    (h : calcDividers st rate = .ok d) (reg : IisReg) :
    (d.programmed reg).isSome ↔ reg ∈ writtenDividers ⟨st.hasMclkSclkDiv⟩ := by
  obtain ⟨_, _, -, -, -, -, -, -, -, hsclk⟩ := calcDividers_eq_ok h
  cases reg <;> cases hh : st.hasMclkSclkDiv <;>
    simp [ClkDividers.programmed, writtenDividers, divLevels, hsclk, hh]

theorem programDividers_written {st : ClockTreeState} {rate : Nat} {d : ClkDividers}
    (h : calcDividers st rate = .ok d) (regs regs' : IisReg → UInt32) (reg : IisReg) :
    if reg ∈ writtenDividers ⟨st.hasMclkSclkDiv⟩
    then programDividers d regs reg = programDividers d regs' reg
    else programDividers d regs reg = regs reg ∧ programDividers d regs' reg = regs' reg := by
  unfold programDividers
  split_ifs with hw <;> rw [← programmed_isSome_iff h] at hw <;>
    rcases hp : d.programmed reg with _ | v <;> simp_all

theorem clkRateOutcome_eq_of_agree (clk : ClkOps) {s t : CskyI2s} (h : ClkInputsAgree s t)
    (rate : UInt32) : clkRateOutcome clk s rate = clkRateOutcome clk t rate := by
  have hfs : s.clkFs = t.clkFs := by
    funext family
    cases family
    · exact h.clkFs48k
    · exact h.clkFs44k
  unfold clkRateOutcome cskyI2sSetSrcClk
  rw [h.i2sClk, hfs]
  rcases hc : t.i2sClk
  · have : clockTreeOf s = clockTreeOf t := by
      simp only [clockTreeOf, h.srcClk (h.i2sClk.trans hc), h.mclk, h.audioFmt, h.params]
    simp only [Bool.false_eq_true, if_false, this]
  · simp only [if_true]
    rcases rateFamily rate with _ | family
    · rfl
    · dsimp only
      split_ifs
      · rfl
      · simp only [clockTreeOf, h.mclk, h.audioFmt, h.params]

theorem clkRateOutcome_error_ne_zero {clk : ClkOps} {i2s : CskyI2s} {rate : UInt32} {ret : Int}
    (h : clkRateOutcome clk i2s rate = .error ret) : ret ≠ 0 := by
  unfold clkRateOutcome at h
  rcases hsel : cskyI2sSetSrcClk clk i2s rate with e | i2s₁ <;> rw [hsel] at h <;>
    dsimp only at h
  · cases h
    exact cskyI2sSetSrcClk_error hsel
  · split at h <;> cases h
    decide

/--
Two states that differ only in the `mclk_fs_divider` an earlier request cached: a request that
`csky_i2s_calc_mclk_div` refuses because mclk is not a multiple of the rate leaves them
different.
-/
theorem cskyI2sSetClkRate_keeps_stale_mclkFsDivider :
    (cskyI2sSetClkRate exactClk { specExampleI2s with mclk := 1000, mclkFsDivider := 1 }
        48000 16).map (fun r => (r.1, r.2.mclkFsDivider)) = some (-einval, 1) ∧
      (cskyI2sSetClkRate exactClk { specExampleI2s with mclk := 1000, mclkFsDivider := 2 }
        48000 16).map (fun r => (r.1, r.2.mclkFsDivider)) = some (-einval, 2) := by
  decide

/--
Whatever an earlier request cached, two states that agree on the clock inputs get the same
return value and the same divider writes from `csky_i2s_set_clk_rate`, and, when it succeeds,
the same cached fields; so the dividers in force after a successful request are those of that
request alone.
-/
theorem cskyI2sSetClkRate_same_effect (clk : ClkOps) {s t : CskyI2s} (h : ClkInputsAgree s t)
    (rate wordSize : UInt32) :
    SameClkEffect s t (cskyI2sSetClkRate clk s rate wordSize)
      (cskyI2sSetClkRate clk t rate wordSize) := by
  rcases eq_or_ne rate 0 with rfl | hrate
  · unfold cskyI2sSetClkRate cskyI2sSetSrcClk
    rw [h.i2sClk]
    cases t.i2sClk
    · simp only [Bool.false_eq_true, if_false, cskyI2sSetClkDividers_zero]
      trivial
    · exact ⟨rfl, fun h0 => absurd h0 (by decide), fun _ => ⟨rfl, rfl⟩⟩
  obtain ⟨s', hs⟩ := cskyI2sSetClkRate_spec clk s rate wordSize hrate
  obtain ⟨t', ht⟩ := cskyI2sSetClkRate_spec clk t rate wordSize hrate
  rw [clkRateOutcome_eq_of_agree clk h] at hs
  rcases ho : clkRateOutcome clk t rate with ret | d <;> rw [ho] at hs ht <;> dsimp only at hs ht
  · rw [hs.1, ht.1]
    exact ⟨rfl, fun h0 => absurd h0 (clkRateOutcome_error_ne_zero ho), fun _ => ⟨hs.2, ht.2⟩⟩
  obtain ⟨d₁, _, ho₁, hc₁, rfl⟩ := cskyI2sSetClkRate_eq_ok hs.1
  obtain ⟨d₂, _, ho₂, -, rfl⟩ := cskyI2sSetClkRate_eq_ok ht.1
  rw [clkRateOutcome_eq_of_agree clk h, ho] at ho₁
  rw [ho] at ho₂
  cases ho₁
  cases ho₂
  rw [hs.1, ht.1]
  exact ⟨rfl, fun _ => ⟨⟨rfl, rfl, by rw [h.mclk]⟩, programDividers_written hc₁ s.regs t.regs⟩,
    fun h0 => absurd rfl h0⟩

theorem cskyI2sSetClkRate_same_effect_at_48k :
    ClkInputsAgree specExampleI2s
        { specExampleI2s with sampleRate := 44100, sclkFsDivider := 32, mclkFsDivider := 7 } ∧
      SameClkEffect specExampleI2s
        { specExampleI2s with sampleRate := 44100, sclkFsDivider := 32, mclkFsDivider := 7 }
        (cskyI2sSetClkRate exactClk specExampleI2s 48000 16)
        (cskyI2sSetClkRate exactClk
          { specExampleI2s with sampleRate := 44100, sclkFsDivider := 32, mclkFsDivider := 7 }
          48000 16) := by
  have hagree : ClkInputsAgree specExampleI2s
      { specExampleI2s with sampleRate := 44100, sclkFsDivider := 32, mclkFsDivider := 7 } :=
    ⟨rfl, rfl, fun _ => rfl, rfl, rfl, rfl, rfl⟩
  exact ⟨hagree, cskyI2sSetClkRate_same_effect exactClk hagree 48000 16⟩

end CskySound.Clock
