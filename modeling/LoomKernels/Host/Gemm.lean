import Mathlib.Data.Matrix.Mul
import LoomKernels.Host.Gather
import LoomKernels.Host.Dense

/-!
# GEMM on the host

The reference of `D[M, N] = A[M, K] * W[N, K]^T`: every element of `D` is a chain of fused
multiply-adds over the reduction dimension, rounded once.

An element depends on its own row of `A` and its own row of `W` only, and on nothing else of the
call: whatever the arithmetic is, the reference on some consecutive rows of `A` and of `W` computes
that block of `D` (`gemmReference_block`). In exact arithmetic `D` is the product of the matrices
(`gemmReference_exact`).
-/

namespace LoomKernels

section Gemm

variable {F B : Type} (ops : FloatOps F B)

/-- `accumulator`, of the rows that start at the two offsets. -/
def gemmDot (a weight : Nat → B) (k aOffset weightOffset : Nat) : F :=
  forRange 0 k
    (fun i sum => ops.mulAdd (ops.toF32 (a (aOffset + i))) (ops.toF32 (weight (weightOffset + i))) sum)
    ops.zero

/-- One row of the output, column after column. -/
def gemmRow (a weight : Nat → B) (n k row : Nat) (output : Nat → B) : Nat → B :=
  writeRange (row * n) n
    (fun column => ops.fromF32 (gemmDot ops a weight k (row * k) (column * k))) output

/-- `bf16_gemm_reference` -/
def bf16GemmReference (a weight output : Slice B) (spec : Bf16GemmSpec) : Host (Nat → B) := do
  requireLen "A" a.len spec.aNumel
  requireLen "W" weight.len spec.weightNumel
  requireLen "D" output.len spec.outputNumel
  return forRange 0 spec.m (gemmRow ops a.get weight.get spec.n spec.k) output.get

variable {ops}

/-- The reference succeeds exactly on the lengths of its contract, and fills the output. -/
theorem bf16GemmReference_eq_ok {a weight output : Slice B} {spec : Bf16GemmSpec} {out : Nat → B} :
    bf16GemmReference ops a weight output spec = .ok out ↔
      (a.len = spec.aNumel ∧ weight.len = spec.weightNumel ∧ output.len = spec.outputNumel) ∧
        out = forRange 0 spec.m (gemmRow ops a.get weight.get spec.n spec.k) output.get := by
  rw [bf16GemmReference, check_bind_eq_ok, check_bind_eq_ok, check_bind_eq_ok, requireLen_eq_ok,
    requireLen_eq_ok, requireLen_eq_ok, and_assoc, and_assoc]
  simp only [pure, Except.pure, Except.ok.injEq, eq_comm]

/-- The element in a row and a column of the output. -/
theorem gemmRows_apply (a weight output : Nat → B) (spec : Bf16GemmSpec) {row column : Nat}
    (hr : row < spec.m) (hc : column < spec.n) :
    forRange 0 spec.m (gemmRow ops a weight spec.n spec.k) output (row * spec.n + column) =
      ops.fromF32 (gemmDot ops a weight spec.k (row * spec.k) (column * spec.k)) := by
  rw [forRange_rows_apply (n := spec.n) (Nat.zero_le spec.m)
    (f := fun row column => ops.fromF32 (gemmDot ops a weight spec.k (row * spec.k)
      (column * spec.k)))
    fun row mem i => writeRow_apply spec.n_pos row _ mem i, row_div hc, row_mod hc,
    if_pos ⟨Nat.zero_le row, hr⟩]

/-- A dot product reads its own two rows. -/
theorem gemmDot_congr {a a' weight weight' : Nat → B} {k aOffset aOffset' offset offset' : Nat}
    (row : ∀ i < k, a (aOffset + i) = a' (aOffset' + i))
    (column : ∀ i < k, weight (offset + i) = weight' (offset' + i)) :
    gemmDot ops a weight k aOffset offset = gemmDot ops a' weight' k aOffset' offset' := by
  refine forRange_congr _ fun i sum _ hi => ?_
  rw [row i hi, column i hi]

/-- `sub` is the contract of the rows from `row` on and the columns from `column` on. -/
structure Bf16GemmSpec.Block (spec sub : Bf16GemmSpec) (row column : Nat) : Prop where
  reduction : sub.k = spec.k
  rows : row + sub.m ≤ spec.m
  columns : column + sub.n ≤ spec.n

/-- Whatever the arithmetic is, the reference on some rows of `A` and some rows of `W` computes the
elements of the whole output that are in these rows and columns. -/
theorem gemmReference_block {spec sub : Bf16GemmSpec} {row column : Nat}
    (block : spec.Block sub row column) {a weight output part : Slice B} {out : Nat → B}
    (whole : bf16GemmReference ops a weight output spec = .ok out)
    (partLen : part.len = sub.outputNumel) :
    ∃ out', bf16GemmReference ops (a.window (row * spec.k) sub.aNumel)
        (weight.window (column * spec.k) sub.weightNumel) part sub = .ok out' ∧
      ∀ r < sub.m, ∀ c < sub.n,
        out' (r * sub.n + c) = out ((row + r) * spec.n + (column + c)) := by
  obtain ⟨-, rfl⟩ := bf16GemmReference_eq_ok.mp whole
  refine ⟨_, bf16GemmReference_eq_ok.mpr ⟨⟨rfl, rfl, partLen⟩, rfl⟩, fun r hr c hc => ?_⟩
  have hrow : row + r < spec.m := (Nat.add_lt_add_left hr row).trans_le block.rows
  have hcolumn : column + c < spec.n := (Nat.add_lt_add_left hc column).trans_le block.columns
  rw [gemmRows_apply _ _ _ sub hr hc, gemmRows_apply _ _ _ spec hrow hcolumn, block.reduction]
  refine congrArg ops.fromF32 (gemmDot_congr (fun i _ => congrArg a.get ?_) fun i _ =>
    congrArg weight.get ?_)
  · ring
  · ring

end Gemm

theorem oneElement_fits : 1 * 1 < usizeSize := by decide

theorem twoElements_fit : 2 * 1 < usizeSize := by decide

theorem fourElements_fit : 2 * 2 < usizeSize := by decide

/-- Two rows and two columns of one product each. -/
def twoByTwoGemmSpec : Bf16GemmSpec :=
  ⟨2, 2, 1, Nat.two_pos, Nat.two_pos, Nat.one_pos, twoElements_fit, twoElements_fit, fourElements_fit⟩

/-- One product. -/
def oneByOneGemmSpec : Bf16GemmSpec :=
  ⟨1, 1, 1, Nat.one_pos, Nat.one_pos, Nat.one_pos, oneElement_fits, oneElement_fits, oneElement_fits⟩

theorem gemmReference_block_lastElement :
    ∃ out, bf16GemmReference (exactOps ℝ) ⟨2, fun i => i⟩ ⟨2, fun i => i⟩ ⟨4, fun _ => 0⟩
        twoByTwoGemmSpec = .ok out ∧
      ∃ out', bf16GemmReference (exactOps ℝ) (Slice.window ⟨2, fun i => i⟩ (1 * 1) 1)
          (Slice.window ⟨2, fun i => i⟩ (1 * 1) 1) ⟨1, fun _ => 0⟩ oneByOneGemmSpec = .ok out' ∧
        out' 0 = out 3 := by
  have whole := (@bf16GemmReference_eq_ok ℝ ℝ (exactOps ℝ) ⟨2, fun i => i⟩ ⟨2, fun i => i⟩
    ⟨4, fun _ => 0⟩ twoByTwoGemmSpec _).mpr ⟨⟨rfl, rfl, rfl⟩, rfl⟩
  obtain ⟨out', part, same⟩ := @gemmReference_block ℝ ℝ (exactOps ℝ) twoByTwoGemmSpec
    oneByOneGemmSpec 1 1 ⟨rfl, le_rfl, le_rfl⟩ ⟨2, fun i => i⟩ ⟨2, fun i => i⟩ ⟨4, fun _ => 0⟩
    ⟨1, fun _ => 0⟩ _ whole rfl
  exact ⟨_, whole, out', part, same 0 Nat.one_pos 0 Nat.one_pos⟩

/-! ## Exact arithmetic -/

section Exact

variable {K : Type} [Field K] [LinearOrder K] [ExactExp K]

theorem gemmDot_exact (a weight : Nat → K) (k aOffset weightOffset : Nat) :
    gemmDot (exactOps K) a weight k aOffset weightOffset =
      ∑ i ∈ Finset.range k, a (aOffset + i) * weight (weightOffset + i) := by
  refine forRange_invariant
    (P := fun n (sum : K) => sum = ∑ i ∈ Finset.range n, a (aOffset + i) * weight (weightOffset + i))
    (Nat.zero_le _) (by simp [exactOps]) ?_
  intro i sum _ _ hsum
  rw [Finset.sum_range_succ, ← hsum]
  exact add_comm _ _

/-- A row-major matrix. -/
def rowMajor (rows columns : Nat) (data : Nat → K) : Matrix (Fin rows) (Fin columns) K :=
  fun r c => data (r * columns + c)

/-- In exact arithmetic the reference computes the product with the transposed weight. -/
theorem gemmReference_exact {spec : Bf16GemmSpec} {a weight output : Slice K} {out : Nat → K}
    (run : bf16GemmReference (exactOps K) a weight output spec = .ok out) :
    rowMajor spec.m spec.n out =
      rowMajor spec.m spec.k a.get * (rowMajor spec.n spec.k weight.get).transpose := by
  obtain ⟨-, rfl⟩ := bf16GemmReference_eq_ok.mp run
  ext r c
  rw [rowMajor, gemmRows_apply _ _ _ spec r.2 c.2, gemmDot_exact, Matrix.mul_apply]
  exact Finset.sum_range fun i => a.get (r * spec.k + i) * weight.get (c * spec.k + i)

end Exact

end LoomKernels
