import Mathlib.Algebra.Group.Int
import Mathlib.Data.String.Basic
import Mathlib.Order.Basic

/-!
# C integers on the C-SKY target

The driver computes in `unsigned int` and `int`, both 32 bits wide on C-SKY.  Unsigned
arithmetic wraps, as `UInt32` does.  A zero divisor and a signed overflow are undefined
behaviour: the checked operations below return `none` there, so a model that returns `some`
has been shown free of both.  Division by a nonzero literal cannot fail and is written with
`/` directly.  Converting an `unsigned int` above `INT_MAX` to `int` is implementation-defined;
gcc wraps it modulo `2 ^ 32`, and so does `toInt`.
-/

namespace CskySound.Foundation

def intMin : Int := -2147483648

def intMax : Int := 2147483647

/-- `(int)x` for an `unsigned int` `x`. -/
def toInt (x : UInt32) : Int := x.toBitVec.toInt

/-- `(unsigned int)i` for an `int` `i`, as in a call that takes a `u32`. -/
def ofInt (i : Int) : UInt32 := ⟨BitVec.ofInt 32 i⟩

def udiv (a b : UInt32) : Option UInt32 := if b = 0 then none else some (a / b)

def umod (a b : UInt32) : Option UInt32 := if b = 0 then none else some (a % b)

/-- The value of an `int` expression, `none` when it leaves the range of `int`. -/
def intResult (i : Int) : Option Int := if intMin ≤ i ∧ i ≤ intMax then some i else none

def iadd (a b : Int) : Option Int := intResult (a + b)

def imul (a b : Int) : Option Int := intResult (a * b)

@[simp] theorem toBitVec_toNat (x : UInt32) : x.toBitVec.toNat = x.toNat := rfl

theorem toNat_eq_zero {a : UInt32} : a = 0 ↔ a.toNat = 0 := UInt32.ext_iff

theorem udiv_of_ne_zero {a b : UInt32} (hb : b.toNat ≠ 0) : udiv a b = some (a / b) :=
  if_neg (mt toNat_eq_zero.1 hb)

theorem umod_of_ne_zero {a b : UInt32} (hb : b.toNat ≠ 0) : umod a b = some (a % b) :=
  if_neg (mt toNat_eq_zero.1 hb)

@[simp] theorem udiv_zero (a : UInt32) : udiv a 0 = none := if_pos rfl

@[simp] theorem umod_zero (a : UInt32) : umod a 0 = none := if_pos rfl

theorem intResult_of_le {i : Int} (h₁ : intMin ≤ i) (h₂ : i ≤ intMax) : intResult i = some i :=
  if_pos ⟨h₁, h₂⟩

theorem toInt_of_lt {x : UInt32} (h : x.toNat < 2 ^ 31) : toInt x = x.toNat := by
  simp only [toInt, BitVec.toInt_eq_toNat_cond, toBitVec_toNat]
  rw [if_pos (by omega)]

theorem toInt_sub_one {x : UInt32} (h : x.toNat < 2 ^ 31) : toInt (x - 1) = x.toNat - 1 := by
  rw [toInt, UInt32.sub_def, BitVec.toInt_eq_toNat_cond, BitVec.toNat_sub]
  simp only [toBitVec_toNat, show (1 : UInt32).toNat = 1 from rfl]
  rcases Nat.eq_zero_or_pos x.toNat with h0 | h0
  · rw [h0]; decide
  · split <;> omega

theorem toNat_ofInt {i : Int} (h₀ : 0 ≤ i) (h₁ : i < 2 ^ 32) : ((ofInt i).toNat : Int) = i := by
  change ((BitVec.ofInt 32 i).toNat : Int) = i
  rw [BitVec.toNat_ofInt]
  omega

theorem toNat_div_two_lt (x : UInt32) : (x / 2).toNat < 2 ^ 31 := by
  have := UInt32.toNat_lt x
  rw [UInt32.toNat_div]
  change x.toNat / 2 < _
  omega

/-! ## Bit fields

Register fields are read and written with masks.  Each identity between masked values is
checked bit by bit: `testBit x i` is bit `i` of `x`, and `eq_of_testBit` reduces an identity to
its 32 bits.
-/

def testBit (x : UInt32) (i : Fin 32) : Bool := x.toBitVec.getLsbD i

theorem eq_of_testBit {x y : UInt32} (h : ∀ i, testBit x i = testBit y i) : x = y :=
  UInt32.eq_of_toBitVec_eq (BitVec.eq_of_getLsbD_eq h)

@[simp] theorem testBit_and (x y : UInt32) (i : Fin 32) :
    testBit (x &&& y) i = (testBit x i && testBit y i) := BitVec.getLsbD_and ..

@[simp] theorem testBit_or (x y : UInt32) (i : Fin 32) :
    testBit (x ||| y) i = (testBit x i || testBit y i) := BitVec.getLsbD_or ..

@[simp] theorem testBit_not (x : UInt32) (i : Fin 32) : testBit (~~~x) i = !testBit x i := by
  simp [testBit, show (~~~x).toBitVec = ~~~x.toBitVec from rfl, i.isLt]

@[simp] theorem testBit_zero (i : Fin 32) : testBit 0 i = false := BitVec.getLsbD_zero

theorem testBit_of_and_eq {a F : UInt32} (ha : a &&& F = a) (i : Fin 32) :
    testBit a i = (testBit a i && testBit F i) :=
  (congrArg (testBit · i) ha).symm.trans (testBit_and a F i)

theorem or_and_of_and_eq_zero {x p F : UInt32} (hp : p &&& F = 0) :
    (x ||| p) &&& F = x &&& F :=
  eq_of_testBit fun i => by
    have := congrArg (testBit · i) hp
    simp only [testBit_and, testBit_zero] at this
    cases hF : testBit F i <;> simp_all

theorem cleared_or_and {x F W M a : UInt32} (ha : a &&& F = a) :
    (x &&& ~~~F &&& ~~~W &&& ~~~M ||| a) &&& F = a :=
  eq_of_testBit fun i => by
    have := testBit_of_and_eq ha i
    cases hF : testBit F i <;> simp_all

theorem replaced_and {x F a : UInt32} (ha : a &&& F = a) : (x &&& ~~~F ||| a) &&& F = a :=
  eq_of_testBit fun i => by
    have := testBit_of_and_eq ha i
    cases hF : testBit F i <;> simp_all

theorem or_and_not_of_and_eq {x F a : UInt32} (ha : a &&& F = a) :
    (x ||| a) &&& ~~~F = x &&& ~~~F :=
  eq_of_testBit fun i => by
    have := testBit_of_and_eq ha i
    cases hF : testBit F i <;> simp_all

theorem replaced_and_not {x F a : UInt32} (ha : a &&& F = a) :
    (x &&& ~~~F ||| a) &&& ~~~F = x &&& ~~~F :=
  (or_and_not_of_and_eq ha).trans (eq_of_testBit fun i => by simp)

end CskySound.Foundation
