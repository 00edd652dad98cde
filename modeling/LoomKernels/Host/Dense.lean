import LoomKernels.Host.Rope

/-!
# Dense operators on the host

The shape contracts of the two operators without heads: RMSNorm over the rows of a matrix, and the
product of a matrix with a transposed weight.
-/

namespace LoomKernels

/-! ## RMSNorm -/

/-- An RMSNorm contract that `new` accepts. `epsilon` is a bit pattern. -/
structure RmsNormSpec where
  rows : Nat
  hiddenSize : Nat
  epsilon : UInt32
  dtype : DType
  rows_pos : 0 < rows
  hidden_pos : 0 < hiddenSize
  epsilon_pos : f32IsFinite epsilon ∧ ¬ f32LeNonneg epsilon f32Zero
  numel_fits : rows * hiddenSize < usizeSize

namespace RmsNormSpec

def new (rows hiddenSize : Nat) (epsilon : UInt32) (dtype : DType) : Host RmsNormSpec :=
  if zero : rows = 0 ∨ hiddenSize = 0 then fail .zeroDimension
  else if positive : ¬ f32IsFinite epsilon ∨ f32LeNonneg epsilon f32Zero then
    fail (.invalidEpsilon epsilon)
  else if fits : rows * hiddenSize < usizeSize then
    .ok {
      rows, hiddenSize, epsilon, dtype
      rows_pos := by omega
      hidden_pos := by omega
      epsilon_pos := f32_positive positive
      numel_fits := fits }
  else fail .elementCountOverflow

/-- `new` accepts every specification there is. -/
theorem new_self (spec : RmsNormSpec) :
    new spec.rows spec.hiddenSize spec.epsilon spec.dtype = .ok spec := by
  have h1 := spec.rows_pos
  have h2 := spec.hidden_pos
  rw [new, dif_neg (by omega), dif_neg (by simpa using spec.epsilon_pos), dif_pos spec.numel_fits]

def numel (spec : RmsNormSpec) : Nat := spec.rows * spec.hiddenSize

end RmsNormSpec

/-! ## GEMM -/

/-- Contract for `D[M, N] = A[M, K] * W[N, K]^T` that `new` accepts. -/
structure Bf16GemmSpec where
  m : Nat
  n : Nat
  k : Nat
  m_pos : 0 < m
  n_pos : 0 < n
  k_pos : 0 < k
  a_fits : m * k < usizeSize
  weight_fits : n * k < usizeSize
  output_fits : m * n < usizeSize

namespace Bf16GemmSpec

def new (m n k : Nat) : Host Bf16GemmSpec :=
  if zero : m = 0 ∨ n = 0 ∨ k = 0 then fail .zeroDimension
  else if fits : m * k < usizeSize ∧ n * k < usizeSize ∧ m * n < usizeSize then
    .ok {
      m, n, k
      m_pos := by omega
      n_pos := by omega
      k_pos := by omega
      a_fits := fits.1
      weight_fits := fits.2.1
      output_fits := fits.2.2 }
  else fail .elementCountOverflow

/-- `new` accepts every specification there is. -/
theorem new_self (spec : Bf16GemmSpec) : new spec.m spec.n spec.k = .ok spec := by
  have h1 := spec.m_pos
  have h2 := spec.n_pos
  have h3 := spec.k_pos
  rw [new, dif_neg (by omega), dif_pos ⟨spec.a_fits, spec.weight_fits, spec.output_fits⟩]

variable (spec : Bf16GemmSpec)

def aNumel : Nat := spec.m * spec.k

def weightNumel : Nat := spec.n * spec.k

def outputNumel : Nat := spec.m * spec.n

end Bf16GemmSpec

end LoomKernels
