import CskySound.Clock.Refinement

/-!
# The programmed clock tree

What a successful `csky_i2s_set_clk_rate` leaves in the divider registers, read through the
clock tree of the driver's heading comment.  From mclk down the tree divides exactly and runs
the frame clock at the requested rate.  Above mclk the two dividers differ: the round trip of
`IIS_DIV0_LEVEL` compares a floor, so it accepts a source clock slightly above an exact multiple
of `2 * mclk`, and `IIS_DIV3_LEVEL` is not checked at all.
-/

namespace CskySound.Clock

open Foundation Driver

def mclkSclkDivisor (i2s : CskyI2s) : Nat :=
  mclkSclkRatio i2s.params.hasMclkSclkDiv i2s.audioFmt (i2s.regs .div4Level).toNat

def sclkFsDivisor (i2s : CskyI2s) : Nat := dividerRatio (i2s.regs .div2Level).toNat

/--
Whatever the state, a `csky_i2s_set_clk_rate` that returns zero was asked for a supported rate
that divides mclk, and the tree it programmed divides mclk exactly into sclk = 64 fs and sclk
exactly into a frame clock at the rate.
-/
theorem cskyI2sSetClkRate_cascade (clk : ClkOps) (i2s i2s' : CskyI2s) (rate wordSize : UInt32)
    (h : cskyI2sSetClkRate clk i2s rate wordSize = some (0, i2s')) :
    rate.toNat ∈ supportedRates ∧ i2s.mclk.toNat % rate.toNat = 0 ∧
      i2s.mclk.toNat % mclkSclkDivisor i2s' = 0 ∧
      i2s.mclk.toNat / mclkSclkDivisor i2s' = 64 * rate.toNat ∧
      i2s.mclk.toNat / mclkSclkDivisor i2s' % sclkFsDivisor i2s' = 0 ∧
      i2s.mclk.toNat / mclkSclkDivisor i2s' / sclkFsDivisor i2s' = rate.toNat := by
  obtain ⟨d, src, -, hc, rfl⟩ := cskyI2sSetClkRate_eq_ok h
  obtain ⟨hsup, hmod, hdvd, hsclk, hfs⟩ := cascade_of_calcDividers hc
  obtain ⟨_, _, -, -, -, -, -, -, -, hsclkDiv⟩ := calcDividers_eq_ok hc
  simp only [clockTreeOf] at hmod hdvd hsclk hsclkDiv
  have h₂ : (programDividers d i2s.regs .div2Level).toNat = d.fsDiv.toNat :=
    toNat_programDividers_eq _ (UInt32.toNat_lt _) (UInt32.toNat_lt _) hc rfl
  have h₄ : mclkSclkRatio i2s.params.hasMclkSclkDiv i2s.audioFmt
      (programDividers d i2s.regs .div4Level).toNat =
      mclkSclkRatio i2s.params.hasMclkSclkDiv i2s.audioFmt (d.sclkDiv.getD 0).toNat := by
    unfold mclkSclkRatio
    split_ifs with hh
    · simp only [hh, if_true] at hsclkDiv
      rw [toNat_programDividers_eq _ (UInt32.toNat_lt _) (UInt32.toNat_lt _) hc
        (by rw [ClkDividers.programmed, hsclkDiv]), hsclkDiv, Option.getD_some]
    · rfl
  simp only [mclkSclkDivisor, sclkFsDivisor, h₂, h₄]
  exact ⟨hsup, hmod, hdvd, hsclk, hsclk ▸ hfs.1, hsclk ▸ hfs.2⟩

theorem cskyI2sSetClkRate_cascade_at_48k :
    let i2s' := ((cskyI2sSetClkRate exactClk specExampleI2s 48000 16).getD (0, specExampleI2s)).2
    (48000 : UInt32).toNat ∈ supportedRates ∧ specExampleI2s.mclk.toNat % (48000 : UInt32).toNat = 0 ∧
      specExampleI2s.mclk.toNat % mclkSclkDivisor i2s' = 0 ∧
      specExampleI2s.mclk.toNat / mclkSclkDivisor i2s' = 64 * (48000 : UInt32).toNat ∧
      specExampleI2s.mclk.toNat / mclkSclkDivisor i2s' % sclkFsDivisor i2s' = 0 ∧
      specExampleI2s.mclk.toNat / mclkSclkDivisor i2s' / sclkFsDivisor i2s' =
        (48000 : UInt32).toNat :=
  cskyI2sSetClkRate_cascade exactClk specExampleI2s _ 48000 16 rfl

/-! ## The round trip of `IIS_DIV0_LEVEL` -/

/--
A source clock 1 Hz above `2 * mclk` passes the round trip: `div = 0`, and DIV0 then runs mclk
at `24576001 / 2` Hz.
-/
theorem cskyI2sCalcMclkDiv_accepts_inexact_source :
    (cskyI2sCalcMclkDiv (cskyI2sCalcFsDiv { specExampleI2s with srcClk := 24576001 } 16).2
        48000 16).map Prod.fst = some 0 ∧
      24576001 % (2 * 12288000) ≠ 0 := by
  decide

/--
Once the ratio checks pass, `csky_i2s_calc_mclk_div` returns, and its `div` is non-negative
exactly when the floor `src_clk / (2 * (div + 1))` reproduces mclk: `2 * mclk ≤ src_clk` and the
remainder of `src_clk` modulo `2 * mclk` is below `2 * (src_clk / (2 * mclk))`.  An accepted
`div` brackets `src_clk` between `2 * (div + 1) * mclk` and `2 * (div + 1) * (mclk + 1)`.
-/
theorem cskyI2sCalcMclkDiv_nonneg_iff (i2s : CskyI2s) (rate wordSize : UInt32) (hrate : rate ≠ 0)
    (hmod : i2s.mclk.toNat % rate.toNat = 0)
    (hratio : mclkFsDivError (cskyI2sCalcFsDiv i2s wordSize).2 (i2s.mclk / rate) = none) :
    ∃ div i2s', cskyI2sCalcMclkDiv (cskyI2sCalcFsDiv i2s wordSize).2 rate wordSize =
        some (div, i2s') ∧
      (0 ≤ div ↔ 2 * i2s.mclk.toNat ≤ i2s.srcClk.toNat ∧
        i2s.srcClk.toNat % (2 * i2s.mclk.toNat) < 2 * (i2s.srcClk.toNat / (2 * i2s.mclk.toNat))) ∧
      (0 ≤ div → 2 * (div + 1) * i2s.mclk.toNat ≤ i2s.srcClk.toNat ∧
        (i2s.srcClk.toNat : Int) < 2 * (div + 1) * (i2s.mclk.toNat + 1)) := by
  have hvalid := (mclkFsDivError_eq_none_iff rfl _).1 hratio
  rw [UInt32.toNat_div] at hvalid
  have hmclk : 0 < i2s.mclk.toNat :=
    lt_of_lt_of_le (by norm_num) ((le_of_mclkFsRatioValid hvalid).trans (Nat.div_le_self _ _))
  have hspec := cskyI2sCalcMclkDiv_spec (cskyI2sCalcFsDiv i2s wordSize).2 rate wordSize
    (mt toNat_eq_zero.2 hrate) rfl
  rw [mclkDiv_of_valid hmod hvalid] at hspec
  have hrt := @roundTrip_iff i2s.srcClk.toNat _ hmclk
  rw [← Nat.div_div_eq_div_mul] at hrt ⊢
  have hsrc : (cskyI2sCalcFsDiv i2s wordSize).2.srcClk = i2s.srcClk := rfl
  have hmc : (cskyI2sCalcFsDiv i2s wordSize).2.mclk = i2s.mclk := rfl
  simp only [clockTreeOf_srcClk, clockTreeOf_mclk, hsrc, hmc] at hspec
  split_ifs at hspec with hmis
  · obtain ⟨_, _, hc⟩ := hspec
    have hneg : ¬(0 : Int) ≤ -einval := by decide
    exact ⟨_, _, hc, iff_of_false hneg fun hr => hmis.2 (hrt.2 hr).2, fun h => absurd h hneg⟩
  · refine ⟨_, _, hspec, ⟨fun h => hrt.1 ⟨by omega, ?_⟩, fun hr => by have := (hrt.2 hr).1; omega⟩,
      fun h => ?_⟩
    · exact not_not.1 (not_and.1 hmis (by omega))
    · have hq : 0 < i2s.srcClk.toNat / 2 / i2s.mclk.toNat := by omega
      have := (div_eq_iff_bounds hq).1 (not_not.1 (not_and.1 hmis hq))
      rw [sub_add_cancel]
      exact ⟨by exact_mod_cast this.1, by exact_mod_cast this.2⟩

theorem cskyI2sCalcMclkDiv_nonneg_iff_at_48k :
    (48000 : UInt32) ≠ 0 ∧ specExampleI2s.mclk.toNat % (48000 : UInt32).toNat = 0 ∧
      mclkFsDivError (cskyI2sCalcFsDiv specExampleI2s 16).2 (specExampleI2s.mclk / 48000) = none ∧
      ∃ div i2s', cskyI2sCalcMclkDiv (cskyI2sCalcFsDiv specExampleI2s 16).2 48000 16 =
          some (div, i2s') ∧
        (0 ≤ div ↔ 2 * specExampleI2s.mclk.toNat ≤ specExampleI2s.srcClk.toNat ∧
          specExampleI2s.srcClk.toNat % (2 * specExampleI2s.mclk.toNat) <
            2 * (specExampleI2s.srcClk.toNat / (2 * specExampleI2s.mclk.toNat))) ∧
        (0 ≤ div → 2 * (div + 1) * specExampleI2s.mclk.toNat ≤ specExampleI2s.srcClk.toNat ∧
          (specExampleI2s.srcClk.toNat : Int) < 2 * (div + 1) * (specExampleI2s.mclk.toNat + 1)) :=
  ⟨by decide, by decide, by decide,
    cskyI2sCalcMclkDiv_nonneg_iff specExampleI2s 48000 16 (by decide) (by decide) (by decide)⟩

/-! ## The unchecked `IIS_DIV3_LEVEL` -/

def source44k1I2s : CskyI2s := { specExampleI2s with srcClk := 22579200, mclk := 11289600 }

/--
From the 22.5792 MHz source of the 44.1 kHz family, a request for 44.1 kHz succeeds and
writes `IIS_DIV3_LEVEL = 4`: a reference clock of 2.25792 MHz, not 2.1168 MHz.
-/
theorem cskyI2sSetClkRate_refclk_inexact_at_44k1 :
    (cskyI2sSetClkRate exactClk source44k1I2s 44100 16).map
        (fun r => (r.1, (r.2.regs .div3Level).toNat)) = some (0, 4) ∧
      22579200 / dividerRatio 4 ≠ 2116800 := by
  decide

theorem refclk_bounds {src refClk : Nat} (hq : 0 < src / (2 * refClk)) :
    refClk * (2 * (src / (2 * refClk))) ≤ src ∧ src < 2 * refClk * (2 * (src / (2 * refClk))) ∧
      (refClk * (2 * (src / (2 * refClk))) = src ↔ src % (2 * refClk) = 0) := by
  have hr : 0 < refClk := Nat.pos_of_ne_zero fun h => by simp [h] at hq
  have hdm := Nat.div_add_mod src (2 * refClk)
  have hlt := Nat.mod_lt src (show 0 < 2 * refClk by omega)
  generalize src / (2 * refClk) = q at hq hdm ⊢
  generalize src % (2 * refClk) = m at hdm hlt ⊢
  have hle : refClk ≤ refClk * q := Nat.le_mul_of_pos_right _ hq
  have e₁ : refClk * (2 * q) = 2 * (refClk * q) := by ring
  have e₂ : 2 * refClk * (2 * q) = 4 * (refClk * q) := by ring
  have e₃ : 2 * refClk * q = 2 * (refClk * q) := by ring
  rw [e₁, e₂]
  rw [e₃] at hdm
  omega

/--
A successful `csky_i2s_set_clk_rate` leaves in `IIS_DIV3_LEVEL` a divisor that runs the
reference clock at `src_clk / dividerRatio DIV3` exactly: at least the nominal clock of the
rate's family, below twice it, and equal to it exactly when `src_clk` is a multiple of twice
the nominal clock.  The driver checks none of this.
-/
theorem cskyI2sSetClkRate_refclk_range {clk : ClkOps} {i2s i2s' : CskyI2s}
    {rate wordSize : UInt32} (h : cskyI2sSetClkRate clk i2s rate wordSize = some (0, i2s')) :
    ∃ refClk, referenceClock rate.toNat = some refClk ∧
      refClk * dividerRatio (i2s'.regs .div3Level).toNat ≤ i2s'.srcClk.toNat ∧
      i2s'.srcClk.toNat < 2 * refClk * dividerRatio (i2s'.regs .div3Level).toNat ∧
      (refClk * dividerRatio (i2s'.regs .div3Level).toNat = i2s'.srcClk.toNat ↔
        i2s'.srcClk.toNat % (2 * refClk) = 0) := by
  obtain ⟨d, src, -, hc, rfl⟩ := cskyI2sSetClkRate_eq_ok h
  obtain ⟨_, refClk, -, -, hrc, hr, hr0, -⟩ := calcDividers_eq_ok hc
  have h₃ : (programDividers d i2s.regs .div3Level).toNat = d.refclkDiv.toNat :=
    toNat_programDividers_eq _ (UInt32.toNat_lt _) (UInt32.toNat_lt _) hc rfl
  simp only [clockTreeOf, Nat.div_div_eq_div_mul] at hr
  have hq : 0 < src.toNat / (2 * refClk) := by omega
  have hdiv : dividerRatio (programDividers d i2s.regs .div3Level).toNat =
      2 * (src.toNat / (2 * refClk)) := by
    rw [h₃, hr, dividerRatio]
    omega
  exact ⟨refClk, hrc, by simpa only [hdiv] using refclk_bounds hq⟩

theorem cskyI2sSetClkRate_refclk_range_at_44k1 :
    cskyI2sSetClkRate exactClk source44k1I2s 44100 16 =
        some (0, ((cskyI2sSetClkRate exactClk source44k1I2s 44100 16).getD (0, source44k1I2s)).2) ∧
      ∃ refClk, referenceClock (44100 : UInt32).toNat = some refClk ∧
        refClk * dividerRatio 4 ≤ 22579200 ∧ 22579200 < 2 * refClk * dividerRatio 4 ∧
        (refClk * dividerRatio 4 = 22579200 ↔ 22579200 % (2 * refClk) = 0) :=
  ⟨rfl, @cskyI2sSetClkRate_refclk_range exactClk source44k1I2s
    ((cskyI2sSetClkRate exactClk source44k1I2s 44100 16).getD (0, source44k1I2s)).2 44100 16 rfl⟩

end CskySound.Clock
