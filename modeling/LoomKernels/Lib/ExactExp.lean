import Mathlib.Analysis.SpecialFunctions.Log.Base
import Mathlib.Analysis.SpecialFunctions.Pow.Real
import Mathlib.Algebra.Order.Field.Basic

/-!
# Exact exponentials

`ExactExp K` gives an ordered field two exponentials, of base `e` and of base two, with their
logarithms: both are positive homomorphisms from addition to multiplication, `log2e` converts
between the bases, and each logarithm is the inverse of its exponential. The reals are an instance.

`Ext K` adds to `K` the values that exact arithmetic meets at its edges: minus infinity and an
invalid value. `-∞ - -∞`, a division by zero and a product of infinity with a nonpositive number
are invalid, and an invalid operand makes every result invalid, also that of `max`: a computation
whose result is valid has met no invalid value on the way.
-/

namespace LoomKernels

/-- Exponentials of base `e` and two on an ordered field, with their logarithms. -/
class ExactExp (K : Type) [Field K] [LinearOrder K] where
  exp : K → K
  exp2 : K → K
  ln : K → K
  log2 : K → K
  sqrt : K → K
  log2e : K
  exp_pos : ∀ x, 0 < exp x
  exp_add : ∀ x y, exp (x + y) = exp x * exp y
  exp2_pos : ∀ x, 0 < exp2 x
  exp2_add : ∀ x y, exp2 (x + y) = exp2 x * exp2 y
  exp2_mul_log2e : ∀ x, exp2 (x * log2e) = exp x
  exp_ln : ∀ x, 0 < x → exp (ln x) = x
  log2_exp2 : ∀ x, log2 (exp2 x) = x
  exp2_log2 : ∀ x, 0 < x → exp2 (log2 x) = x
  sqrt_mul_self : ∀ x, 0 ≤ x → sqrt x * sqrt x = x

noncomputable instance : ExactExp ℝ where
  exp := Real.exp
  exp2 x := (2 : ℝ) ^ x
  ln := Real.log
  log2 := Real.logb 2
  sqrt := Real.sqrt
  log2e := (Real.log 2)⁻¹
  exp_pos := Real.exp_pos
  exp_add := Real.exp_add
  exp2_pos x := Real.rpow_pos_of_pos two_pos x
  exp2_add x y := Real.rpow_add two_pos x y
  exp2_mul_log2e x := by
    have hlog : Real.log 2 ≠ 0 := (Real.log_pos one_lt_two).ne'
    rw [Real.rpow_def_of_pos two_pos, mul_comm x, mul_inv_cancel_left₀ hlog]
  exp_ln _ hx := Real.exp_log hx
  log2_exp2 _ := Real.logb_rpow two_pos (by norm_num)
  exp2_log2 _ hx := Real.rpow_logb two_pos (by norm_num) hx
  sqrt_mul_self _ hx := Real.mul_self_sqrt hx

/-- What the proofs use of one exponential, of either base. -/
structure ExpLaw {K : Type} [Field K] [LinearOrder K] (e : K → K) : Prop where
  pos : ∀ x, 0 < e x
  add : ∀ x y, e (x + y) = e x * e y

section Laws

variable {K : Type} [Field K] [LinearOrder K]

/-- Rescaling to another reference point. -/
theorem ExpLaw.sub_mul {e : K → K} (law : ExpLaw e) (x y : K) : e (x - y) * e y = e x := by
  rw [← law.add, sub_add_cancel]

theorem ExpLaw.zero {e : K → K} (law : ExpLaw e) : e 0 = 1 := by
  have double : e 0 * e 0 = e 0 * 1 := by rw [← law.add, add_zero, mul_one]
  exact mul_left_cancel₀ (law.pos 0).ne' double

variable [ExactExp K]

theorem expLaw_exp : ExpLaw (ExactExp.exp : K → K) := ⟨ExactExp.exp_pos, ExactExp.exp_add⟩

theorem expLaw_exp2 : ExpLaw (ExactExp.exp2 : K → K) := ⟨ExactExp.exp2_pos, ExactExp.exp2_add⟩

/-- The two logarithms differ by the factor `log2e`. -/
theorem ln_mul_log2e {x : K} (hx : 0 < x) : ExactExp.ln x * ExactExp.log2e = ExactExp.log2 x := by
  calc ExactExp.ln x * ExactExp.log2e
      = ExactExp.log2 (ExactExp.exp2 (ExactExp.ln x * ExactExp.log2e)) :=
        (ExactExp.log2_exp2 _).symm
    _ = ExactExp.log2 x := by rw [ExactExp.exp2_mul_log2e, ExactExp.exp_ln x hx]

theorem ExactExp.exp_neg (x : K) : ExactExp.exp (-x) = (ExactExp.exp x)⁻¹ := by
  refine eq_inv_of_mul_eq_one_left ?_
  rw [← ExactExp.exp_add, neg_add_cancel, expLaw_exp.zero]

variable [IsStrictOrderedRing K]

/-- An exponential that takes the value two takes no value twice. -/
theorem ExactExp.exp_injective {x y : K} (h : ExactExp.exp x = ExactExp.exp y) : x = y := by
  have factor : (ExactExp.log2e : K) ≠ 0 := by
    intro zero
    have two := ExactExp.exp_ln (2 : K) two_pos
    rw [← ExactExp.exp2_mul_log2e, zero, mul_zero, expLaw_exp2.zero] at two
    exact one_lt_two.ne two
  have base : ExactExp.exp2 (x * ExactExp.log2e) = ExactExp.exp2 (y * (ExactExp.log2e : K)) := by
    rw [ExactExp.exp2_mul_log2e, ExactExp.exp2_mul_log2e, h]
  have logs := congrArg ExactExp.log2 base
  rw [ExactExp.log2_exp2, ExactExp.log2_exp2] at logs
  exact mul_right_cancel₀ factor logs

theorem ExactExp.ln_inv {x : K} (hx : 0 < x) : ExactExp.ln x⁻¹ = -ExactExp.ln x := by
  refine ExactExp.exp_injective ?_
  rw [ExactExp.exp_ln _ (inv_pos.mpr hx), ExactExp.exp_neg, ExactExp.exp_ln x hx]

end Laws

/-! ## Minus infinity and the invalid value -/

/-- A value of exact arithmetic with minus infinity; `nan` is the result of an invalid
operation. -/
inductive Ext (K : Type) where
  | negInf
  | fin (x : K)
  | nan

namespace Ext

section Operations

variable {K : Type} [Field K] [LinearOrder K]

def add : Ext K → Ext K → Ext K
  | nan, _ => nan
  | _, nan => nan
  | negInf, _ => negInf
  | _, negInf => negInf
  | fin x, fin y => fin (x + y)

/-- `-∞ - -∞` is invalid. So is `x - -∞`, whose result `+∞` exact arithmetic never needs. -/
def sub : Ext K → Ext K → Ext K
  | nan, _ => nan
  | _, nan => nan
  | _, negInf => nan
  | negInf, fin _ => negInf
  | fin x, fin y => fin (x - y)

def mul : Ext K → Ext K → Ext K
  | nan, _ => nan
  | _, nan => nan
  | negInf, negInf => nan
  | negInf, fin y => if 0 < y then negInf else nan
  | fin x, negInf => if 0 < x then negInf else nan
  | fin x, fin y => fin (x * y)

def div : Ext K → Ext K → Ext K
  | fin x, fin y => if y = 0 then nan else fin (x / y)
  | negInf, fin y => if 0 < y then negInf else nan
  | _, _ => nan

/-- Unlike an IEEE maximum, an invalid operand is kept. -/
def max : Ext K → Ext K → Ext K
  | nan, _ => nan
  | _, nan => nan
  | negInf, y => y
  | x, negInf => x
  | fin x, fin y => fin (Max.max x y)

/-- Whether the value is `0.0`. -/
def isZero : Ext K → Bool
  | fin x => decide (x = 0)
  | _ => false

def isNegInf : Ext K → Bool
  | negInf => true
  | _ => false

def isNan : Ext K → Bool
  | nan => true
  | _ => false

variable [ExactExp K]

/-- The base-two exponential, with `ex2 (-∞) = 0`. -/
def ex2 : Ext K → Ext K
  | negInf => fin 0
  | fin x => fin (ExactExp.exp2 x)
  | nan => nan

/-- The base-two logarithm, with `lg2 0 = -∞`. -/
def lg2 : Ext K → Ext K
  | fin x => if 0 < x then fin (ExactExp.log2 x) else if x = 0 then negInf else nan
  | _ => nan

end Operations

section Sums

variable {K : Type} [Field K]

@[simp] theorem add_fin (x y : K) : add (fin x) (fin y) = fin (x + y) := rfl

@[simp] theorem sub_fin (x y : K) : sub (fin x) (fin y) = fin (x - y) := rfl

@[simp] theorem sub_negInf_fin (y : K) : sub negInf (fin y) = negInf := rfl

theorem add_swap (a b : Ext K) : add a b = add b a := by
  cases a <;> cases b <;> simp [add, add_comm]

theorem add_fin_zero (a : Ext K) : add a (fin 0) = a := by
  cases a <;> simp [add]

/-- Numbers added one after another. -/
theorem fin_add_add (p q : K) (a : Ext K) : add (fin p) (add a (fin q)) = add a (fin (q + p)) := by
  cases a <;> simp [add, add_left_comm, add_comm]

end Sums

section Maxima

variable {K : Type} [LinearOrder K]

@[simp] theorem max_fin (x y : K) : max (fin x) (fin y) = fin (Max.max x y) := rfl

@[simp] theorem max_negInf_fin (y : K) : max negInf (fin y) = fin y := rfl

@[simp] theorem max_fin_negInf (x : K) : max (fin x) negInf = fin x := rfl

@[simp] theorem max_negInf_negInf : max (negInf : Ext K) negInf = negInf := rfl

theorem max_swap (a b : Ext K) : max a b = max b a := by
  cases a <;> cases b <;> simp [max, max_comm]

/-- A maximum is minus infinity when both sides are. -/
theorem max_eq_negInf {a b : Ext K} : max a b = negInf ↔ a = negInf ∧ b = negInf := by
  cases a <;> cases b <;> simp [max]

/-- A maximum is valid when both sides are. -/
theorem max_ne_nan {a b : Ext K} : max a b ≠ nan ↔ a ≠ nan ∧ b ≠ nan := by
  cases a <;> cases b <;> simp [max]

end Maxima

section Products

variable {K : Type} [Field K] [LinearOrder K]

@[simp] theorem mul_fin (x y : K) : mul (fin x) (fin y) = fin (x * y) := rfl

theorem div_fin (x : K) {y : K} (hy : y ≠ 0) : div (fin x) (fin y) = fin (x / y) := if_neg hy

@[simp] theorem isZero_fin (x : K) : isZero (fin x) = decide (x = 0) := rfl

variable [ExactExp K]

@[simp] theorem ex2_negInf : ex2 (negInf : Ext K) = fin 0 := rfl

@[simp] theorem ex2_fin (x : K) : ex2 (fin x) = fin (ExactExp.exp2 x) := rfl

theorem one_mul_ex2 (x : Ext K) : mul (fin 1) (ex2 x) = ex2 x := by
  cases x <;> simp [ex2, mul]

theorem lg2_fin {x : K} (hx : 0 < x) : lg2 (fin x) = fin (ExactExp.log2 x) := if_pos hx

end Products

end Ext

end LoomKernels
