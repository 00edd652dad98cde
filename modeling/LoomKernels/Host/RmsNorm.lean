import LoomKernels.Host.Dense

/-!
# RMSNorm on the host

The reference of RMSNorm: every row of the input is divided by the root of its mean square, and
scaled by the weight. The three public references are one function at three element types. The
reference computes in `f64`, so here `F` is `f64`, and `ofF32` widens the epsilon of the contract.
-/

namespace LoomKernels

section RmsNorm

variable {F B : Type} (ops : FloatOps F B) (ofF32 : UInt32 → F)

/-- `1.0 / (mean_square + epsilon).sqrt()` of the row at `offset`. -/
def inverseRms (input : Nat → B) (offset hiddenSize : Nat) (epsilon : UInt32) : F :=
  let squareSum := forRange 0 hiddenSize
    (fun column sum =>
      let value := ops.toF32 (input (offset + column))
      ops.add sum (ops.mul value value))
    ops.zero
  let meanSquare := ops.div squareSum (ops.ofUsize hiddenSize)
  ops.div ops.one (ops.sqrt (ops.add meanSquare (ofF32 epsilon)))

/-- One row of the reference, written over the output. -/
def normalizeRow (input weight : Nat → B) (hiddenSize : Nat) (epsilon : UInt32) (row : Nat)
    (output : Nat → B) : Nat → B :=
  let offset := row * hiddenSize
  let inverse := inverseRms ops ofF32 input offset hiddenSize epsilon
  writeRange offset hiddenSize
    (fun column => ops.fromF32
      (ops.mul (ops.mul (ops.toF32 (input (offset + column))) inverse) (ops.toF32 (weight column))))
    output

/-- `rms_norm_reference`: the rows of the input and the output are visited together. -/
def rmsNormReference (input weight output : Slice B) (spec : RmsNormSpec) (expectedDType : DType) :
    Host (Nat → B) := do
  ensure (spec.dtype = expectedDType) (.unsupportedDType spec.dtype)
  requireLen "input" input.len spec.numel
  requireLen "weight" weight.len spec.hiddenSize
  requireLen "output" output.len spec.numel
  return forRange 0 spec.rows
    (normalizeRow ops ofF32 input.get weight.get spec.hiddenSize spec.epsilon) output.get

def rmsNormF32Reference (input weight output : Slice B) (spec : RmsNormSpec) : Host (Nat → B) :=
  rmsNormReference ops ofF32 input weight output spec .f32

def rmsNormF16Reference (input weight output : Slice B) (spec : RmsNormSpec) : Host (Nat → B) :=
  rmsNormReference ops ofF32 input weight output spec .f16

def rmsNormBf16Reference (input weight output : Slice B) (spec : RmsNormSpec) : Host (Nat → B) :=
  rmsNormReference ops ofF32 input weight output spec .bf16

/-- The reference succeeds on its own dtype and exact lengths. -/
theorem rmsNormReference_ok {input weight output : Slice B} {spec : RmsNormSpec}
    {expectedDType : DType} (dtype : spec.dtype = expectedDType) (hi : input.len = spec.numel)
    (hw : weight.len = spec.hiddenSize) (ho : output.len = spec.numel) :
    rmsNormReference ops ofF32 input weight output spec expectedDType =
      .ok (forRange 0 spec.rows
        (normalizeRow ops ofF32 input.get weight.get spec.hiddenSize spec.epsilon) output.get) := by
  rw [rmsNormReference, ensure_eq_ok.mpr dtype, requireLen_eq_ok.mpr hi, requireLen_eq_ok.mpr hw,
    requireLen_eq_ok.mpr ho]
  rfl

end RmsNorm

end LoomKernels
