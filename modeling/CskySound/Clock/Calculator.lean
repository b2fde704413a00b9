import CskySound.Foundation.Kernel
import Mathlib.Tactic.Ring

/-!
# The clock-divider calculator

What `csky_i2s_set_clk_rate` computes once the source clock is known, as a pure function over
unbounded integers: from the source clock, the master clock, the audio format and the
controller generation, the value of each divider register, or the reason the rate is refused.
The formulas are the driver's, with every quotient taken on naturals and every `- 1` on
integers.  Below them, the clock tree of the comment heading the driver: a divider register
holding `n` divides its input by `2 * (n + 1)`, and mclk reaches sclk through fixed wiring in
the first generation and through `IIS_DIV4_LEVEL` in v1.1.
-/

namespace CskySound.Clock

open Foundation

structure ClockTreeState where
  srcClk : Nat
  mclk : Nat
  audioFmt : UInt32
  hasMclkSclkDiv : Bool
  deriving DecidableEq, Repr

inductive ClkError
  | unsupportedRate
  | clockRatio
  | invalidRatio
  | clockMismatch
  | negativeDivider
  deriving DecidableEq, Repr

structure ClkDividers where
  mclkDiv : Int
  spdifclkDiv : Int
  fsDiv : Int
  refclkDiv : Int
  sclkDiv : Option Int
  deriving DecidableEq, Repr

def supportedRates : List Nat :=
  [8000, 11025, 16000, 22050, 32000, 44100, 48000, 88200, 96000]

def referenceClock (rate : Nat) : Option Nat :=
  if rate ∈ [8000, 16000, 32000, 48000, 96000] then some 3072000
  else if rate ∈ [11025, 22050, 44100, 88200] then some 2116800
  else none

def sclkFsRatio : Nat := 64

def v1MclkSclkRatio (audioFmt : UInt32) : Nat :=
  if audioFmt = SndSocDaifmt.i2s ∨ audioFmt = SndSocDaifmt.leftJ then 8 else 4

def mclkFsRatioValid (st : ClockTreeState) (ratio : Nat) : Prop :=
  if st.hasMclkSclkDiv then ratio = 256 ∨ ratio = 384 ∨ ratio = 512 ∨ ratio = 768
  else ratio = v1MclkSclkRatio st.audioFmt * sclkFsRatio

instance (st : ClockTreeState) (ratio : Nat) : Decidable (mclkFsRatioValid st ratio) :=
  inferInstanceAs (Decidable (if st.hasMclkSclkDiv then
    ratio = 256 ∨ ratio = 384 ∨ ratio = 512 ∨ ratio = 768
    else ratio = v1MclkSclkRatio st.audioFmt * sclkFsRatio))

def fsDiv : Int := (sclkFsRatio / 2 : Nat) - 1

def mclkDiv (st : ClockTreeState) (rate : Nat) : Except ClkError (Int × Nat) :=
  if st.mclk % rate ≠ 0 then .error .clockRatio
  else if ¬ mclkFsRatioValid st (st.mclk / rate) then .error .invalidRatio
  else
    let div : Int := (st.srcClk / 2 / st.mclk : Nat) - 1
    if 0 ≤ div ∧ (st.srcClk : Int) / (2 * (div + 1)) ≠ st.mclk then .error .clockMismatch
    else .ok (div, st.mclk / rate)

def sclkDiv (mclkFsRatio : Nat) : Int := (mclkFsRatio / sclkFsRatio / 2 : Nat) - 1

def spdifclkDiv : Int := 17

def refclkDiv (st : ClockTreeState) (rate : Nat) : Except ClkError Int :=
  match referenceClock rate with
  | none => .error .unsupportedRate
  | some refClk => .ok ((st.srcClk / 2 / refClk : Nat) - 1)

def calcDividers (st : ClockTreeState) (rate : Nat) : Except ClkError ClkDividers :=
  match mclkDiv st rate with
  | .error e => .error e
  | .ok (m, ratio) =>
    let s := if st.hasMclkSclkDiv then some (sclkDiv ratio) else none
    if m < 0 ∨ s.any (· < 0) then .error .negativeDivider
    else match refclkDiv st rate with
      | .error e => .error e
      | .ok r => if r < 0 then .error .negativeDivider else .ok ⟨m, spdifclkDiv, fsDiv, r, s⟩

/-- A divider register holding `n` divides its input clock by `2 * (n + 1)`. -/
def dividerRatio (n : Nat) : Nat := 2 * (n + 1)

def mclkSclkRatio (hasMclkSclkDiv : Bool) (audioFmt : UInt32) (div4 : Nat) : Nat :=
  if hasMclkSclkDiv then dividerRatio div4 else v1MclkSclkRatio audioFmt

/-! ## Inversion -/

theorem le_of_mclkFsRatioValid {st : ClockTreeState} {ratio : Nat}
    (h : mclkFsRatioValid st ratio) : 256 ≤ ratio := by
  unfold mclkFsRatioValid v1MclkSclkRatio sclkFsRatio at h
  split_ifs at h <;> omega

theorem mem_supportedRates_of_referenceClock {rate refClk : Nat}
    (h : referenceClock rate = some refClk) : rate ∈ supportedRates := by
  simp only [referenceClock, List.mem_cons, List.not_mem_nil, or_false] at h
  simp only [supportedRates, List.mem_cons, List.not_mem_nil, or_false]
  split_ifs at h <;> omega

theorem referenceClock_pos {rate refClk : Nat} (h : referenceClock rate = some refClk) :
    0 < refClk := by
  unfold referenceClock at h
  split_ifs at h <;> cases h <;> decide

theorem mclkDiv_eq_ok {st : ClockTreeState} {rate : Nat} {div : Int} {ratio : Nat}
    (h : mclkDiv st rate = .ok (div, ratio)) :
    st.mclk % rate = 0 ∧ mclkFsRatioValid st (st.mclk / rate) ∧ ratio = st.mclk / rate ∧
      div = (st.srcClk / 2 / st.mclk : Nat) - 1 ∧
      (0 ≤ div → st.srcClk / (2 * (st.srcClk / 2 / st.mclk)) = st.mclk) := by
  unfold mclkDiv at h
  dsimp only at h
  split_ifs at h with h₁ h₂ h₃
  simp only [Except.ok.injEq, Prod.mk.injEq] at h
  obtain ⟨rfl, rfl⟩ := h
  refine ⟨by simpa using h₁, by simpa using h₂, rfl, rfl, fun hd => ?_⟩
  have := not_and.1 h₃ hd
  simp only [sub_add_cancel, ne_eq, not_not] at this
  exact_mod_cast this

theorem mclkDiv_of_valid {st : ClockTreeState} {rate : Nat} (hmod : st.mclk % rate = 0)
    (hvalid : mclkFsRatioValid st (st.mclk / rate)) :
    mclkDiv st rate =
      if 0 < st.srcClk / 2 / st.mclk ∧ st.srcClk / (2 * (st.srcClk / 2 / st.mclk)) ≠ st.mclk
      then .error .clockMismatch
      else .ok ((st.srcClk / 2 / st.mclk : Nat) - 1, st.mclk / rate) := by
  have hcond : (0 ≤ ((st.srcClk / 2 / st.mclk : Nat) : Int) - 1 ∧
      (st.srcClk : Int) / (2 * (((st.srcClk / 2 / st.mclk : Nat) : Int) - 1 + 1)) ≠ st.mclk) ↔
      (0 < st.srcClk / 2 / st.mclk ∧
        st.srcClk / (2 * (st.srcClk / 2 / st.mclk)) ≠ st.mclk) := by
    rw [sub_add_cancel]
    exact and_congr (by omega) (by exact_mod_cast Iff.rfl)
  simp only [mclkDiv, hmod, ne_eq, not_true_eq_false, if_false, hvalid, not_true_eq_false]
  exact if_congr hcond rfl rfl

theorem calcDividers_eq_ok {st : ClockTreeState} {rate : Nat} {d : ClkDividers}
    (h : calcDividers st rate = .ok d) :
    ∃ ratio refClk, mclkDiv st rate = .ok (d.mclkDiv, ratio) ∧ 0 ≤ d.mclkDiv ∧
      referenceClock rate = some refClk ∧
      d.refclkDiv = (st.srcClk / 2 / refClk : Nat) - 1 ∧ 0 ≤ d.refclkDiv ∧
      d.spdifclkDiv = spdifclkDiv ∧ d.fsDiv = fsDiv ∧
      d.sclkDiv = if st.hasMclkSclkDiv then some (sclkDiv ratio) else none := by
  unfold calcDividers at h
  rcases hm : mclkDiv st rate with e | ⟨m, ratio⟩ <;> simp only [hm, reduceCtorEq] at h
  generalize hs : (if st.hasMclkSclkDiv then some (sclkDiv ratio) else none) = s at h
  split_ifs at h with h₁
  rcases hr : refclkDiv st rate with e | r <;> simp only [hr, reduceCtorEq] at h
  split_ifs at h with h₂
  cases h
  unfold refclkDiv at hr
  split at hr <;> simp only [reduceCtorEq, Except.ok.injEq] at hr
  rename_i refClk hrc
  exact ⟨ratio, refClk, rfl, le_of_not_lt (not_or.1 h₁).1, hrc, hr.symm, le_of_not_lt h₂,
    rfl, rfl, hs.symm⟩

/-! ## The programmed clock tree -/

theorem dividerRatio_fsDiv : dividerRatio fsDiv.toNat = 64 := rfl

theorem dividerRatio_sclkDiv {ratio : Nat}
    (h : ratio = 256 ∨ ratio = 384 ∨ ratio = 512 ∨ ratio = 768) :
    dividerRatio (sclkDiv ratio).toNat = ratio / sclkFsRatio := by
  rcases h with rfl | rfl | rfl | rfl <;> rfl

theorem cascade_of_calcDividers {st : ClockTreeState} {rate : Nat} {d : ClkDividers}
    (h : calcDividers st rate = .ok d) :
    rate ∈ supportedRates ∧ st.mclk % rate = 0 ∧
      st.mclk % mclkSclkRatio st.hasMclkSclkDiv st.audioFmt (d.sclkDiv.getD 0).toNat = 0 ∧
      st.mclk / mclkSclkRatio st.hasMclkSclkDiv st.audioFmt (d.sclkDiv.getD 0).toNat =
        sclkFsRatio * rate ∧
      sclkFsRatio * rate % dividerRatio d.fsDiv.toNat = 0 ∧
      sclkFsRatio * rate / dividerRatio d.fsDiv.toNat = rate := by
  obtain ⟨ratio, refClk, hm, -, hrc, -, -, -, hfs, hsclk⟩ := calcDividers_eq_ok h
  obtain ⟨hmod, hvalid, rfl, -, -⟩ := mclkDiv_eq_ok hm
  have hmclk : st.mclk / rate * rate = st.mclk := Nat.div_mul_cancel (Nat.dvd_of_mod_eq_zero hmod)
  refine ⟨mem_supportedRates_of_referenceClock hrc, hmod, ?_⟩
  rw [hfs, hsclk, dividerRatio_fsDiv]
  unfold mclkFsRatioValid at hvalid
  unfold mclkSclkRatio
  rcases hh : st.hasMclkSclkDiv <;> simp only [hh, if_true, Bool.false_eq_true, if_false,
    Option.getD_some, sclkFsRatio] at hvalid ⊢
  · unfold v1MclkSclkRatio at hvalid ⊢
    split_ifs at hvalid ⊢ <;> rw [hvalid] at hmclk <;> omega
  · rw [dividerRatio_sclkDiv hvalid, sclkFsRatio]
    rcases hvalid with hr | hr | hr | hr <;> rw [hr] at hmclk ⊢ <;> omega

/-! ## The round trip of `IIS_DIV0_LEVEL` -/

theorem div_eq_iff_bounds {src mclk q : Nat} (hq : 0 < q) :
    src / (2 * q) = mclk ↔ 2 * q * mclk ≤ src ∧ src < 2 * q * (mclk + 1) := by
  constructor
  · rintro rfl
    exact ⟨Nat.mul_div_le src (2 * q), Nat.lt_mul_div_succ src (by omega)⟩
  · rintro ⟨h₁, h₂⟩
    exact Nat.div_eq_of_lt_le (by rwa [Nat.mul_comm]) (by rwa [Nat.mul_comm])

theorem roundTrip_iff {src mclk : Nat} (hm : 0 < mclk) :
    (0 < src / (2 * mclk) ∧ src / (2 * (src / (2 * mclk))) = mclk) ↔
      2 * mclk ≤ src ∧ src % (2 * mclk) < 2 * (src / (2 * mclk)) := by
  have hpos : 0 < src / (2 * mclk) ↔ 2 * mclk ≤ src := by
    rw [Nat.div_pos_iff]; omega
  have hdm := Nat.div_add_mod src (2 * mclk)
  generalize src / (2 * mclk) = q at hpos hdm ⊢
  constructor
  · rintro ⟨hq, hrt⟩
    have := ((div_eq_iff_bounds hq).1 hrt).2
    have e : 2 * q * (mclk + 1) = 2 * mclk * q + 2 * q := by ring
    exact ⟨hpos.1 hq, by omega⟩
  · rintro ⟨hle, hlt⟩
    have hq := hpos.2 hle
    have e₁ : 2 * q * mclk = 2 * mclk * q := by ring
    have e₂ : 2 * q * (mclk + 1) = 2 * mclk * q + 2 * q := by ring
    exact ⟨hq, (div_eq_iff_bounds hq).2 ⟨by omega, by omega⟩⟩

end CskySound.Clock
