import CskySound.Driver.ClkRate
import CskySound.Clock.Calculator

/-!
# The driver refines the calculator

`csky_i2s_set_clk_rate`, run in C semantics, computes what `calcDividers` computes over
unbounded integers: it never divides by zero nor overflows an `int`, returns zero exactly when
the calculator accepts, and then writes the calculator's dividers, each of which fits its
register.  The calculator reads the driver state through `clockTreeOf`, after
`cskyI2sSetSrcClk` has fixed the source clock.
-/

namespace CskySound.Clock

open Foundation Driver

def clockTreeOf (i2s : CskyI2s) : ClockTreeState :=
  ⟨i2s.srcClk.toNat, i2s.mclk.toNat, i2s.audioFmt, i2s.params.hasMclkSclkDiv⟩

@[simp] theorem clockTreeOf_srcClk (i2s : CskyI2s) :
    (clockTreeOf i2s).srcClk = i2s.srcClk.toNat := rfl

@[simp] theorem clockTreeOf_mclk (i2s : CskyI2s) : (clockTreeOf i2s).mclk = i2s.mclk.toNat := rfl

/-- The value `csky_i2s_set_clk_rate` programs into each register, if it writes it. -/
def ClkDividers.programmed (d : ClkDividers) : IisReg → Option Int
  | .div0Level => some d.mclkDiv
  | .div1Level => some d.spdifclkDiv
  | .div2Level => some d.fsDiv
  | .div3Level => some d.refclkDiv
  | .div4Level => d.sclkDiv
  | _ => none

def programDividers (d : ClkDividers) (regs : IisReg → UInt32) (reg : IisReg) : UInt32 :=
  match d.programmed reg with
  | some v => ofInt v
  | none => regs reg

/-! ## The calculators one by one -/

theorem cskyI2sCalcFsDiv_eq (i2s : CskyI2s) (wordSize : UInt32) :
    cskyI2sCalcFsDiv i2s wordSize = (fsDiv, { i2s with sclkFsDivider := 64 }) := rfl

theorem mclkFsDivError_eq_none_iff {i2s : CskyI2s} (hsclk : i2s.sclkFsDivider = 64)
    (mclkFsDiv : UInt32) :
    mclkFsDivError i2s mclkFsDiv = none ↔
      mclkFsRatioValid (clockTreeOf i2s) mclkFsDiv.toNat := by
  unfold mclkFsDivError mclkFsRatioValid v1MclkSclkRatio
  simp only [clockTreeOf, hsclk, sclkFsRatio]
  split_ifs <;> simp_all [UInt32.ext_iff, UInt32.size]
  all_goals omega

theorem cskyI2sCalcSclkDiv_eq {i2s : CskyI2s} (hsclk : i2s.sclkFsDivider = 64) :
    cskyI2sCalcSclkDiv i2s = some (sclkDiv i2s.mclkFsDivider.toNat) := by
  have h64 : (64 : UInt32).toNat = 64 := rfl
  simp only [cskyI2sCalcSclkDiv, hsclk, udiv_of_ne_zero (by decide : (64 : UInt32).toNat ≠ 0),
    Option.bind_eq_bind, Option.some_bind]
  rw [toInt_sub_one (toNat_div_two_lt _)]
  simp [sclkDiv, sclkFsRatio, UInt32.toNat_div, h64]

theorem referenceClock_toNat (rate : UInt32) :
    referenceClock rate.toNat = (rateFamily rate).map fun family => (refClkOf family).toNat := by
  unfold referenceClock rateFamily
  split_ifs <;> simp_all [UInt32.ext_iff, refClkOf, UInt32.size]

theorem mod_ne_zero_iff {a b : UInt32} : a % b ≠ 0 ↔ a.toNat % b.toNat ≠ 0 := by
  rw [ne_eq, toNat_eq_zero, UInt32.toNat_mod]

theorem toNat_ofInt_two_mul {q : Nat} (h : q < 2 ^ 30) : (ofInt (2 * (q : Int))).toNat = 2 * q := by
  have := toNat_ofInt (i := 2 * (q : Int)) (by omega) (by omega)
  omega

theorem roundTrip_bind {α : Type} {q : UInt32} (h₁ : 1 ≤ q.toNat) (h₂ : q.toNat < 2 ^ 30)
    (src : UInt32) (k : UInt32 → Option α) :
    ((iadd (toInt (q - 1)) 1).bind fun a => (imul 2 a).bind fun b => (udiv src (ofInt b)).bind k) =
      k (src / ofInt (2 * (q.toNat : Int))) := by
  rw [toInt_sub_one (by omega)]
  have hadd : iadd ((q.toNat : Int) - 1) 1 = some (q.toNat : Int) := by
    rw [iadd, sub_add_cancel]
    exact intResult_of_le (by simp [intMin]; omega) (by simp [intMax]; omega)
  have hmul : imul 2 (q.toNat : Int) = some (2 * (q.toNat : Int)) :=
    intResult_of_le (by simp [intMin]; omega) (by simp [intMax]; omega)
  have hdiv := udiv_of_ne_zero (a := src) (b := ofInt (2 * (q.toNat : Int)))
    (by rw [toNat_ofInt_two_mul h₂]; omega)
  simp only [hadd, hmul, hdiv, Option.some_bind]

theorem cskyI2sCalcMclkDiv_spec (i2s : CskyI2s) (rate wordSize : UInt32) (hrate : rate.toNat ≠ 0)
    (hsclk : i2s.sclkFsDivider = 64) :
    match mclkDiv (clockTreeOf i2s) rate.toNat with
    | .ok (div, _) => cskyI2sCalcMclkDiv i2s rate wordSize =
        some (div, { i2s with mclkFsDivider := i2s.mclk / rate })
    | .error _ => ∃ m msg, cskyI2sCalcMclkDiv i2s rate wordSize =
        some (-einval, { i2s with mclkFsDivider := m, log := i2s.log ++ [msg] }) := by
  unfold cskyI2sCalcMclkDiv mclkDiv
  simp only [umod_of_ne_zero hrate, udiv_of_ne_zero hrate, Option.bind_eq_bind, Option.some_bind,
    clockTreeOf_mclk, clockTreeOf_srcClk, mod_ne_zero_iff]
  by_cases h₁ : i2s.mclk.toNat % rate.toNat ≠ 0
  · simp only [if_pos h₁]
    exact ⟨_, _, rfl⟩
  simp only [if_neg h₁]
  by_cases h₂ : mclkFsRatioValid (clockTreeOf i2s) (i2s.mclk.toNat / rate.toNat)
  swap
  · obtain ⟨msg, hmsg⟩ := Option.ne_none_iff_exists'.1
      (mt (mclkFsDivError_eq_none_iff hsclk (i2s.mclk / rate)).1 (by simpa [UInt32.toNat_div]))
    simp only [if_pos h₂, hmsg]
    exact ⟨_, _, rfl⟩
  have hnone := (mclkFsDivError_eq_none_iff hsclk (i2s.mclk / rate)).2 (by simpa [UInt32.toNat_div])
  have h256 := le_of_mclkFsRatioValid h₂
  have hmclk : 256 ≤ i2s.mclk.toNat := le_trans h256 (Nat.div_le_self _ _)
  simp only [if_neg (not_not.2 h₂), hnone, udiv_of_ne_zero (by omega : i2s.mclk.toNat ≠ 0),
    Option.some_bind]
  have hq : (i2s.srcClk / 2 / i2s.mclk).toNat = i2s.srcClk.toNat / 2 / i2s.mclk.toNat := by
    simp only [UInt32.toNat_div]; rfl
  have hqlt : i2s.srcClk.toNat / 2 / i2s.mclk.toNat < 2 ^ 23 := by
    have : i2s.srcClk.toNat / 2 / i2s.mclk.toNat ≤ i2s.srcClk.toNat / 2 / 256 :=
      Nat.div_le_div_left hmclk (by norm_num)
    have := UInt32.toNat_lt i2s.srcClk
    omega
  generalize i2s.srcClk / 2 / i2s.mclk = q at hq ⊢
  rw [← hq]
  by_cases h₃ : 1 ≤ q.toNat
  · rw [roundTrip_bind h₃ (by omega), toInt_sub_one (by omega),
      if_pos (show (0 : Int) ≤ q.toNat - 1 by omega)]
    have htmp : (i2s.srcClk / ofInt (2 * (q.toNat : Int))).toNat =
        i2s.srcClk.toNat / (2 * q.toNat) := by
      rw [UInt32.toNat_div, toNat_ofInt_two_mul (by omega)]
    generalize i2s.srcClk / ofInt (2 * (q.toNat : Int)) = tmp at htmp ⊢
    by_cases h₄ : tmp = i2s.mclk
    · have : (i2s.srcClk.toNat : Int) / (2 * ((q.toNat : Int) - 1 + 1)) = i2s.mclk.toNat := by
        rw [sub_add_cancel]; exact_mod_cast htmp ▸ congrArg UInt32.toNat h₄
      simp only [if_neg (not_not.2 h₄), this, ne_eq, not_true_eq_false, and_false, if_false]
      rfl
    · have : (i2s.srcClk.toNat : Int) / (2 * ((q.toNat : Int) - 1 + 1)) ≠ i2s.mclk.toNat := by
        rw [sub_add_cancel]; exact_mod_cast htmp ▸ (mt UInt32.ext_iff.2 h₄)
      simp only [if_pos h₄, if_pos (And.intro (by omega : (0 : Int) ≤ (q.toNat : Int) - 1) this)]
      exact ⟨_, _, rfl⟩
  · rw [toInt_sub_one (by omega), if_neg (show ¬(0 : Int) ≤ q.toNat - 1 by omega)]
    simp only [show ¬(0 : Int) ≤ (q.toNat : Int) - 1 by omega, false_and, if_false]
    rfl

theorem cskyI2sCalcRefclkDiv_eq (st : ClockTreeState) {i2s : CskyI2s}
    (hsrc : st.srcClk = i2s.srcClk.toNat) (rate : UInt32) :
    cskyI2sCalcRefclkDiv i2s rate = some (match refclkDiv st rate.toNat with
      | .ok div => div
      | .error _ => -einval) := by
  unfold cskyI2sCalcRefclkDiv refclkDiv
  rw [referenceClock_toNat, hsrc]
  rcases rateFamily rate with _ | family
  · rfl
  have hpos : (refClkOf family).toNat ≠ 0 := by cases family <;> decide
  simp only [Option.map_some', udiv_of_ne_zero hpos, Option.bind_eq_bind, Option.some_bind]
  rw [toInt_sub_one]
  · simp [UInt32.toNat_div]
  · exact lt_of_le_of_lt (by simp only [UInt32.toNat_div]; exact Nat.div_le_self _ _) (toNat_div_two_lt _)

theorem cskyI2sSetClkDividers_spec (i2s : CskyI2s) (rate wordSize : UInt32)
    (hrate : rate.toNat ≠ 0) :
    match calcDividers (clockTreeOf i2s) rate.toNat with
    | .ok d => cskyI2sSetClkDividers i2s rate wordSize = some (0, { i2s with
        sampleRate := rate, sclkFsDivider := 64, mclkFsDivider := i2s.mclk / rate,
        regs := programDividers d i2s.regs })
    | .error _ => ∃ m msgs, cskyI2sSetClkDividers i2s rate wordSize = some (-einval, { i2s with
        sampleRate := rate, sclkFsDivider := 64, mclkFsDivider := m, log := i2s.log ++ msgs }) := by
  have hm := cskyI2sCalcMclkDiv_spec { i2s with sampleRate := rate, sclkFsDivider := 64 } rate
    wordSize hrate rfl
  unfold cskyI2sSetClkDividers calcDividers
  simp only [cskyI2sCalcFsDiv_eq, show ¬fsDiv < 0 by decide, if_false]
  rw [show clockTreeOf { i2s with sampleRate := rate, sclkFsDivider := 64 } = clockTreeOf i2s
    from rfl] at hm
  rcases hmd : mclkDiv (clockTreeOf i2s) rate.toNat with e | ⟨m, ratio⟩ <;> rw [hmd] at hm
  · obtain ⟨m', msg, hcalc⟩ := hm
    simp only [hcalc, Option.bind_eq_bind, Option.some_bind, if_pos (by decide : -einval < 0)]
    exact ⟨m', [msg], rfl⟩
  obtain ⟨-, -, rfl, -, -⟩ := mclkDiv_eq_ok hmd
  simp only [hm, Option.bind_eq_bind, Option.some_bind]
  by_cases hneg : m < 0
  · simp only [hneg, true_or, if_true]
    exact ⟨i2s.mclk / rate, [], by simp⟩
  simp only [hneg, false_or, if_false]
  generalize hi :
    { i2s with sampleRate := rate, sclkFsDivider := 64, mclkFsDivider := i2s.mclk / rate } = i2s₂
  have h64 : i2s₂.sclkFsDivider = 64 := hi ▸ rfl
  have hsrc : (clockTreeOf i2s).srcClk = i2s₂.srcClk.toNat := hi ▸ rfl
  have hmfd : i2s₂.mclkFsDivider.toNat = (clockTreeOf i2s).mclk / rate.toNat := by
    rw [← hi]; exact UInt32.toNat_div _ _
  have herr : ∃ m msgs, some (-einval, i2s₂) = some (-einval, { i2s with
      sampleRate := rate, sclkFsDivider := 64, mclkFsDivider := m, log := i2s.log ++ msgs }) :=
    ⟨i2s.mclk / rate, [], by subst hi; simp⟩
  rw [cskyI2sCalcSclkDiv_eq h64, cskyI2sCalcRefclkDiv_eq _ hsrc, hmfd,
    show (clockTreeOf i2s).hasMclkSclkDiv = i2s.params.hasMclkSclkDiv from rfl]
  simp only [cskyI2sCalcSpdifclkDiv, show ¬(17 : Int) < 0 by decide, if_false]
  generalize hs : (if i2s.params.hasMclkSclkDiv then some (sclkDiv ((clockTreeOf i2s).mclk / rate.toNat))
    else none) = s
  have hsC : ∀ {β : Type} (f : Option Int → Option β),
      (if i2s.params.hasMclkSclkDiv then
        (Option.map some (some (sclkDiv ((clockTreeOf i2s).mclk / rate.toNat)))).bind f
      else Option.bind (pure none) f) = f s := by
    intro β f; rw [← hs]; split <;> rfl
  rw [hsC]
  by_cases hneg' : Option.any (fun x => decide (x < 0)) s = true
  · simp only [hneg', if_true]
    exact herr
  simp only [hneg', if_false, Bool.false_eq_true]
  rcases hr : refclkDiv (clockTreeOf i2s) rate.toNat with e | r <;> simp only [Option.some_bind]
  · rw [if_pos (by decide : -einval < 0)]
    exact herr
  by_cases hr0 : r < 0
  · simp only [hr0, if_true]
    exact herr
  simp only [hr0, if_false]
  subst hi
  cases s <;> simp only [Option.pure_def, Option.some.injEq, Prod.mk.injEq, true_and,
    CskyI2s.writel] <;> congr 1 <;> funext reg <;> cases reg <;> rfl

theorem cskyI2sSetClkDividers_zero (i2s : CskyI2s) (wordSize : UInt32) :
    cskyI2sSetClkDividers i2s 0 wordSize = none := rfl

theorem cskyI2sSetSrcClk_ok {clk : ClkOps} {i2s i2s₁ : CskyI2s} {rate : UInt32}
    (h : cskyI2sSetSrcClk clk i2s rate = .ok i2s₁) : i2s₁ = { i2s with srcClk := i2s₁.srcClk } := by
  unfold cskyI2sSetSrcClk at h
  split_ifs at h
  · split at h
    · cases h
    · dsimp only at h
      split_ifs at h
      cases h
      rfl
  · cases h
    rfl

theorem cskyI2sSetSrcClk_error {clk : ClkOps} {i2s : CskyI2s} {rate : UInt32} {ret : Int}
    (h : cskyI2sSetSrcClk clk i2s rate = .error ret) : ret ≠ 0 := by
  unfold cskyI2sSetSrcClk at h
  split_ifs at h
  · split at h
    · cases h
      decide
    · dsimp only at h
      split_ifs at h with hret
      cases h
      exact hret

/-! ## `csky_i2s_set_clk_rate` -/

/--
The outcome the calculator assigns to a request: the errno of the upstream clock, `-EINVAL`
when the calculator refuses on the source clock then in force, or its dividers.
-/
def clkRateOutcome (clk : ClkOps) (i2s : CskyI2s) (rate : UInt32) : Except Int ClkDividers :=
  match cskyI2sSetSrcClk clk i2s rate with
  | .error ret => .error ret
  | .ok i2s₁ =>
    match calcDividers (clockTreeOf i2s₁) rate.toNat with
    | .ok d => .ok d
    | .error _ => .error (-einval)

theorem programmed_range {st : ClockTreeState} {rate : Nat} {d : ClkDividers} {reg : IisReg}
    {v : Int} (hsrc : st.srcClk < 2 ^ 32) (hmclk : st.mclk < 2 ^ 32)
    (h : calcDividers st rate = .ok d) (hv : d.programmed reg = some v) : 0 ≤ v ∧ v < 2 ^ 32 := by
  obtain ⟨ratio, refClk, hm, hm0, -, hr, hr0, hspd, hfs, hsclk⟩ := calcDividers_eq_ok h
  obtain ⟨-, hvalid, rfl, hdiv, -⟩ := mclkDiv_eq_ok hm
  have h256 := le_of_mclkFsRatioValid hvalid
  have hq : st.srcClk / 2 / st.mclk ≤ st.srcClk := (Nat.div_le_self _ _).trans (Nat.div_le_self _ _)
  have hq' : st.srcClk / 2 / refClk ≤ st.srcClk := (Nat.div_le_self _ _).trans (Nat.div_le_self _ _)
  have hratio : st.mclk / rate ≤ st.mclk := Nat.div_le_self _ _
  cases reg <;> simp only [ClkDividers.programmed, reduceCtorEq, Option.some.injEq] at hv
  · subst hv; omega
  · subst hv; simp [hspd, spdifclkDiv]
  · subst hv; simp [hfs, fsDiv, sclkFsRatio]
  · subst hv; omega
  · rw [hsclk] at hv
    split_ifs at hv
    rw [Option.some.injEq] at hv
    subst hv
    unfold sclkDiv sclkFsRatio
    omega

theorem toNat_programDividers {st : ClockTreeState} {rate : Nat} {d : ClkDividers}
    {reg : IisReg} {v : Int} (regs : IisReg → UInt32) (hsrc : st.srcClk < 2 ^ 32)
    (hmclk : st.mclk < 2 ^ 32) (h : calcDividers st rate = .ok d) (hv : d.programmed reg = some v) :
    ((programDividers d regs reg).toNat : Int) = v := by
  have := programmed_range hsrc hmclk h hv
  simp only [programDividers, hv]
  exact toNat_ofInt this.1 this.2

theorem toNat_programDividers_eq {st : ClockTreeState} {rate : Nat} {d : ClkDividers}
    {reg : IisReg} {v : Int} (regs : IisReg → UInt32) (hsrc : st.srcClk < 2 ^ 32)
    (hmclk : st.mclk < 2 ^ 32) (h : calcDividers st rate = .ok d) (hv : d.programmed reg = some v) :
    (programDividers d regs reg).toNat = v.toNat := by
  have := toNat_programDividers regs hsrc hmclk h hv
  omega

def exactClk : ClkOps := ⟨fun _ => 0, id⟩

def specExampleI2s : CskyI2s :=
  { CskyI2s.kzalloc (fun _ => 0) with
    params := paramsCskyI2sV1_1, srcClk := 24576000, mclk := 12288000 }

theorem cskyI2sSetClkRate_zero_ne {clk : ClkOps} {i2s i2s' : CskyI2s} {wordSize : UInt32} :
    cskyI2sSetClkRate clk i2s 0 wordSize ≠ some (0, i2s') := by
  unfold cskyI2sSetClkRate
  rcases hsel : cskyI2sSetSrcClk clk i2s 0 with ret | i2s₁ <;> dsimp only
  · intro h
    simp only [Option.some.injEq, Prod.mk.injEq] at h
    exact cskyI2sSetSrcClk_error hsel h.1
  · simp [cskyI2sSetClkDividers_zero]

theorem cskyI2sSetClkRate_eq_ok {clk : ClkOps} {i2s i2s' : CskyI2s} {rate wordSize : UInt32}
    (h : cskyI2sSetClkRate clk i2s rate wordSize = some (0, i2s')) :
    ∃ d src, clkRateOutcome clk i2s rate = .ok d ∧
      calcDividers (clockTreeOf { i2s with srcClk := src }) rate.toNat = .ok d ∧
      i2s' = { i2s with
        srcClk := src, sampleRate := rate, sclkFsDivider := 64,
        mclkFsDivider := i2s.mclk / rate, regs := programDividers d i2s.regs } := by
  rcases eq_or_ne rate 0 with rfl | hrate
  · exact absurd h cskyI2sSetClkRate_zero_ne
  unfold clkRateOutcome
  unfold cskyI2sSetClkRate at h
  rcases hsel : cskyI2sSetSrcClk clk i2s rate with ret | i2s₁ <;> rw [hsel] at h <;>
    dsimp only at h ⊢
  · simp only [Option.some.injEq, Prod.mk.injEq] at h
    exact absurd h.1 (cskyI2sSetSrcClk_error hsel)
  have h₁ := cskyI2sSetSrcClk_ok hsel
  have hspec := cskyI2sSetClkDividers_spec i2s₁ rate wordSize (mt toNat_eq_zero.2 hrate)
  rcases hc : calcDividers (clockTreeOf i2s₁) rate.toNat with e | d <;> rw [hc] at hspec <;>
    dsimp only
  · obtain ⟨m, msgs, h'⟩ := hspec
    rw [h'] at h
    simp only [Option.some.injEq, Prod.mk.injEq] at h
    exact absurd h.1 (by decide)
  rw [hspec, Option.some.injEq, Prod.mk.injEq] at h
  obtain ⟨-, rfl⟩ := h
  rw [h₁] at hc ⊢
  exact ⟨d, _, rfl, hc, rfl⟩

theorem cskyI2sSetClkRate_spec (clk : ClkOps) (i2s : CskyI2s) (rate wordSize : UInt32)
    (hrate : rate ≠ 0) :
    ∃ i2s', match clkRateOutcome clk i2s rate with
      | .ok d => cskyI2sSetClkRate clk i2s rate wordSize = some (0, i2s') ∧
          i2s'.regs = programDividers d i2s.regs
      | .error ret => cskyI2sSetClkRate clk i2s rate wordSize = some (ret, i2s') ∧
          i2s'.regs = i2s.regs := by
  unfold clkRateOutcome cskyI2sSetClkRate
  rcases hsel : cskyI2sSetSrcClk clk i2s rate with ret | i2s₁ <;> dsimp only
  · exact ⟨i2s, rfl, rfl⟩
  have hregs : i2s₁.regs = i2s.regs := by rw [cskyI2sSetSrcClk_ok hsel]
  have hspec := cskyI2sSetClkDividers_spec i2s₁ rate wordSize (mt toNat_eq_zero.2 hrate)
  rcases hc : calcDividers (clockTreeOf i2s₁) rate.toNat with e | d <;> rw [hc] at hspec <;>
    dsimp only
  · obtain ⟨m, msgs, h⟩ := hspec
    exact ⟨_, h, hregs⟩
  · exact ⟨_, hspec, by rw [hregs]⟩

theorem cskyI2sSetClkRate_eq_none_iff {clk : ClkOps} {i2s : CskyI2s} {rate wordSize : UInt32} :
    cskyI2sSetClkRate clk i2s rate wordSize = none ↔ rate = 0 ∧ i2s.i2sClk = false := by
  constructor
  · intro h
    by_cases hrate : rate = 0
    · refine ⟨hrate, ?_⟩
      subst hrate
      cases hc : i2s.i2sClk
      · rfl
      · have h0 : rateFamily 0 = none := by decide
        simp [cskyI2sSetClkRate, cskyI2sSetSrcClk, hc, h0] at h
    · obtain ⟨i2s', hs⟩ := cskyI2sSetClkRate_spec clk i2s rate wordSize hrate
      split at hs <;> simp [hs.1] at h
  · rintro ⟨rfl, hc⟩
    simp [cskyI2sSetClkRate, cskyI2sSetSrcClk, hc, cskyI2sSetClkDividers_zero]

/--
For every nonzero rate, `csky_i2s_set_clk_rate` in C semantics neither divides by zero nor
overflows an `int`, and it returns and programs what the calculator computes over unbounded
integers: zero and exactly the calculator's value in each divider register it writes, or the
refusal's errno with no register written.
-/
theorem cskyI2sSetClkRate_exact (clk : ClkOps) (i2s : CskyI2s) (rate wordSize : UInt32)
    (hrate : rate ≠ 0) :
    ∃ i2s', match clkRateOutcome clk i2s rate with
      | .ok d => cskyI2sSetClkRate clk i2s rate wordSize = some (0, i2s') ∧
          ∀ reg, match d.programmed reg with
            | some v => ((i2s'.regs reg).toNat : Int) = v
            | none => i2s'.regs reg = i2s.regs reg
      | .error ret => cskyI2sSetClkRate clk i2s rate wordSize = some (ret, i2s') ∧
          i2s'.regs = i2s.regs := by
  obtain ⟨i2s', h⟩ := cskyI2sSetClkRate_spec clk i2s rate wordSize hrate
  rcases ho : clkRateOutcome clk i2s rate with ret | d <;> rw [ho] at h
  · exact ⟨i2s', h⟩
  obtain ⟨d', src, ho', hc, -⟩ := cskyI2sSetClkRate_eq_ok h.1
  rw [ho, Except.ok.injEq] at ho'
  subst ho'
  refine ⟨i2s', h.1, fun reg => ?_⟩
  rcases hv : d.programmed reg with _ | v <;> dsimp only <;> rw [h.2]
  · simp [programDividers, hv]
  · exact toNat_programDividers _ (UInt32.toNat_lt _) (UInt32.toNat_lt _) hc hv

theorem cskyI2sSetClkRate_exact_at_48k :
    (48000 : UInt32) ≠ 0 ∧
      ∃ i2s', match clkRateOutcome exactClk specExampleI2s 48000 with
        | .ok d => cskyI2sSetClkRate exactClk specExampleI2s 48000 16 = some (0, i2s') ∧
            ∀ reg, match d.programmed reg with
              | some v => ((i2s'.regs reg).toNat : Int) = v
              | none => i2s'.regs reg = specExampleI2s.regs reg
        | .error ret => cskyI2sSetClkRate exactClk specExampleI2s 48000 16 = some (ret, i2s') ∧
            i2s'.regs = specExampleI2s.regs :=
  ⟨by decide, cskyI2sSetClkRate_exact exactClk specExampleI2s 48000 16 (by decide)⟩

def divLevels : List IisReg := [.div0Level, .div1Level, .div2Level, .div3Level, .div4Level]

theorem programDividers_of_not_mem {reg : IisReg} (h : reg ∉ divLevels) (d : ClkDividers)
    (regs : IisReg → UInt32) : programDividers d regs reg = regs reg := by
  cases reg <;> simp_all [divLevels, programDividers, ClkDividers.programmed]

theorem cskyI2sSetClkRate_frame {clk : ClkOps} {i2s i2s' : CskyI2s} {rate wordSize : UInt32}
    {r : Int} (h : cskyI2sSetClkRate clk i2s rate wordSize = some (r, i2s')) :
    i2s' = { i2s with
      srcClk := i2s'.srcClk, sampleRate := i2s'.sampleRate, sclkFsDivider := i2s'.sclkFsDivider,
      mclkFsDivider := i2s'.mclkFsDivider, regs := i2s'.regs, log := i2s'.log } ∧
    ∀ reg ∉ divLevels, i2s'.regs reg = i2s.regs reg := by
  unfold cskyI2sSetClkRate at h
  rcases hsel : cskyI2sSetSrcClk clk i2s rate with ret | i2s₁ <;> rw [hsel] at h <;>
    dsimp only at h
  · cases h
    exact ⟨rfl, fun _ _ => rfl⟩
  obtain ⟨src, rfl⟩ : ∃ src, i2s₁ = { i2s with srcClk := src } := ⟨_, cskyI2sSetSrcClk_ok hsel⟩
  rcases eq_or_ne rate 0 with rfl | hrate
  · simp [cskyI2sSetClkDividers_zero] at h
  have hspec := cskyI2sSetClkDividers_spec { i2s with srcClk := src } rate wordSize
    (mt toNat_eq_zero.2 hrate)
  split at hspec
  · rw [hspec] at h
    cases h
    exact ⟨rfl, fun reg hr => programDividers_of_not_mem hr _ _⟩
  · obtain ⟨m, msgs, h'⟩ := hspec
    rw [h'] at h
    cases h
    exact ⟨rfl, fun _ _ => rfl⟩

end CskySound.Clock
