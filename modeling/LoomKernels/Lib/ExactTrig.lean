import Mathlib.Analysis.SpecialFunctions.Trigonometric.Basic
import Mathlib.Tactic.LinearCombination

/-!
# Exact sines and cosines

`ExactTrig K` gives a commutative ring a sine and a cosine that satisfy the addition laws and lie on
the unit circle. The reals are an instance. `rotate` turns the plane by an angle: it keeps the norm
(`rotate_norm`), and the inner product of two turned vectors depends on the difference of the two
angles only (`rotate_inner`).
-/

namespace LoomKernels

/-- A sine and a cosine with their addition laws. -/
class ExactTrig (K : Type) [CommRing K] where
  sin : K → K
  cos : K → K
  sin_zero : sin 0 = 0
  cos_zero : cos 0 = 1
  sin_add : ∀ x y, sin (x + y) = sin x * cos y + cos x * sin y
  cos_add : ∀ x y, cos (x + y) = cos x * cos y - sin x * sin y
  cos_sq_add_sin_sq : ∀ x, cos x ^ 2 + sin x ^ 2 = 1

noncomputable instance : ExactTrig ℝ where
  sin := Real.sin
  cos := Real.cos
  sin_zero := Real.sin_zero
  cos_zero := Real.cos_zero
  sin_add := Real.sin_add
  cos_add := Real.cos_add
  cos_sq_add_sin_sq := Real.cos_sq_add_sin_sq

namespace ExactTrig

variable {K : Type} [CommRing K] [ExactTrig K] (x y : K)

/-! ## Differences -/

/-- `x` and `-x` add up to no angle at all. -/
theorem circle_neg : cos x * cos (-x) - sin x * sin (-x) = 1 ∧
    sin x * cos (-x) + cos x * sin (-x) = 0 := by
  constructor
  · rw [← cos_add, add_neg_cancel, cos_zero]
  · rw [← sin_add, add_neg_cancel, sin_zero]

theorem cos_neg : cos (-x) = cos x := by
  obtain ⟨hcos, hsin⟩ := circle_neg x
  linear_combination cos x * hcos + sin x * hsin - cos (-x) * cos_sq_add_sin_sq x

theorem sin_neg : sin (-x) = -sin x := by
  obtain ⟨hcos, hsin⟩ := circle_neg x
  linear_combination cos x * hsin - sin x * hcos - sin (-x) * cos_sq_add_sin_sq x

theorem cos_sub : cos (x - y) = cos x * cos y + sin x * sin y := by
  rw [sub_eq_add_neg, cos_add, cos_neg, sin_neg]
  ring

theorem sin_sub : sin (x - y) = sin x * cos y - cos x * sin y := by
  rw [sub_eq_add_neg, sin_add, cos_neg, sin_neg]
  ring

/-! ## Rotations of the plane -/

/-- The vector `(x, y)` turned by `angle`. -/
def rotate (angle x y : K) : K × K := (x * cos angle - y * sin angle, y * cos angle + x * sin angle)

@[simp] theorem rotate_zero : rotate 0 x y = (x, y) := by
  simp [rotate, sin_zero, cos_zero]

theorem rotate_norm (angle : K) : (rotate angle x y).1 ^ 2 + (rotate angle x y).2 ^ 2 =
    x ^ 2 + y ^ 2 := by
  unfold rotate
  linear_combination (x ^ 2 + y ^ 2) * cos_sq_add_sin_sq angle

/-- Turning both vectors is turning the first one by the difference. -/
theorem rotate_inner (angle angle' x' y' : K) :
    (rotate angle x y).1 * (rotate angle' x' y').1 + (rotate angle x y).2 * (rotate angle' x' y').2 =
      (rotate (angle - angle') x y).1 * x' + (rotate (angle - angle') x y).2 * y' := by
  simp only [rotate, cos_sub, sin_sub]
  ring

end ExactTrig

end LoomKernels
