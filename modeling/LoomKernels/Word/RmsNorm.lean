import LoomKernels.Host.RmsNorm
import LoomKernels.Word.Specs

/-!
# The RMSNorm reference on words of any size

The contract of RMSNorm on words of `w` bits, and its reference as a program over the output. The
reference visits rows with iterators, so it computes no index of its own.
-/

namespace LoomKernels.Word

/-- An RMSNorm contract that `new` accepts. -/
structure RmsNormSpec (w : Nat) where
  rows : Nat
  hiddenSize : Nat
  epsilon : UInt32
  dtype : DType
  rows_pos : 0 < rows
  hidden_pos : 0 < hiddenSize
  epsilon_pos : f32IsFinite epsilon ∧ ¬ f32LeNonneg epsilon f32Zero
  numel_fits : rows * hiddenSize < 2 ^ w

namespace RmsNormSpec

def new (w rows hiddenSize : Nat) (epsilon : UInt32) (dtype : DType) : Host (RmsNormSpec w) :=
  if zero : rows = 0 ∨ hiddenSize = 0 then fail .zeroDimension
  else if positive : ¬ f32IsFinite epsilon ∨ f32LeNonneg epsilon f32Zero then
    fail (.invalidEpsilon epsilon)
  else if fits : rows * hiddenSize < 2 ^ w then
    .ok {
      rows, hiddenSize, epsilon, dtype
      rows_pos := by omega
      hidden_pos := by omega
      epsilon_pos := f32_positive positive
      numel_fits := fits }
  else fail .elementCountOverflow

variable {w : Nat} (spec : RmsNormSpec w)

/-- `new` accepts every specification there is. -/
theorem new_self : new w spec.rows spec.hiddenSize spec.epsilon spec.dtype = .ok spec := by
  have h1 := spec.rows_pos
  have h2 := spec.hidden_pos
  rw [new, dif_neg (by omega), dif_neg (by simpa using spec.epsilon_pos), dif_pos spec.numel_fits]

def numel : Machine HostFailure Nat := mulWord w spec.rows spec.hiddenSize

end RmsNormSpec

section Reference

variable {F B : Type} (ops : FloatOps F B) (ofF32 : UInt32 → F) {w : Nat}

/-- The checks of the reference. -/
def checkRmsNorm (input weight : Slice B) (outputLen : Nat) (spec : RmsNormSpec w)
    (expectedDType : DType) : Machine HostFailure Unit := do
  lift (ensure (spec.dtype = expectedDType) (.unsupportedDType spec.dtype))
  lift (requireLen "input" input.len (← spec.numel))
  lift (requireLen "weight" weight.len spec.hiddenSize)
  lift (requireLen "output" outputLen (← spec.numel))

def rmsNormReference (input weight : Slice B) (outputLen : Nat) (spec : RmsNormSpec w)
    (expectedDType : DType) : Program HostFailure (Nat → B) Unit := do
  compute (checkRmsNorm input weight outputLen spec expectedDType)
  forEach 0 spec.rows fun row =>
    modify (normalizeRow ops ofF32 input.get weight.get spec.hiddenSize spec.epsilon row)

def rmsNormF32Reference (input weight : Slice B) (outputLen : Nat) (spec : RmsNormSpec w) :
    Program HostFailure (Nat → B) Unit :=
  rmsNormReference ops ofF32 input weight outputLen spec .f32

def rmsNormF16Reference (input weight : Slice B) (outputLen : Nat) (spec : RmsNormSpec w) :
    Program HostFailure (Nat → B) Unit :=
  rmsNormReference ops ofF32 input weight outputLen spec .f16

def rmsNormBf16Reference (input weight : Slice B) (outputLen : Nat) (spec : RmsNormSpec w) :
    Program HostFailure (Nat → B) Unit :=
  rmsNormReference ops ofF32 input weight outputLen spec .bf16

end Reference

end LoomKernels.Word
