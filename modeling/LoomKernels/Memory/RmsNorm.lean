import LoomKernels.Device.RmsNorm
import LoomKernels.Memory.Preflight

/-!
# Accesses of the packed RMSNorm kernels

The kernels of both low-precision types make the same accesses: each thread reads the pairs of its
stride, the block reduces through shared memory, and each thread reads its pairs again with the
weights and writes them.
-/

namespace LoomKernels.Memory

/-- The arrays of an RMSNorm kernel, and the shared one of a block. -/
inductive RmsNormBuffer where
  | input
  | weight
  | output
  | warpSums
  deriving DecidableEq, Repr

/-- The code of a thread. -/
abbrev RmsNormM := Traced RmsNormBuffer

/-! ## Kernel code -/

/-- A read of four bytes through a pointer. -/
def loadPair (buffer : RmsNormBuffer) (index : Nat) : RmsNormM Unit := load buffer (4 * index) 4

/-- A write of four bytes through a pointer. -/
def storePair (buffer : RmsNormBuffer) (index : Nat) : RmsNormM Unit := store buffer (4 * index) 4

/-- What only some threads do. -/
def onlyIf (mine : Prop) [Decidable mine] (x : RmsNormM Unit) : RmsNormM Unit :=
  if mine then x else return ()

/-- `reduce_inverse_rms_with_epsilon` -/
def reduceInverseRms (thread : Nat) : RmsNormM Unit := do
  let laneId := thread % warpThreads
  let warpId := thread / warpThreads
  onlyIf (laneId = 0) (storePair .warpSums warpId)
  onlyIf (warpId = 0) do
    onlyIf (thread < warpCount) (loadPair .warpSums thread)
    onlyIf (laneId = 0) (storePair .warpSums 0)
  loadPair .warpSums 0

/-- A loop over the pairs of a row that are a thread's. -/
def forPairs (thread pairsPerRow : Nat) (body : Nat → RmsNormM Unit) : RmsNormM Unit :=
  (strided thread blockThreads pairsPerRow).forM fun pairColumn => do
    body pairColumn
    let _next ← compute (addWord 64 pairColumn blockThreads)

/-- `rms_norm_f16_packed2` and `rms_norm_bf16_packed2` -/
def rmsNormPacked2 (rows hiddenSize block thread : Nat) : RmsNormM Unit := do
  if block ≥ rows then return ()
  else
    let pairsPerRow := hiddenSize / 2
    let rowPairOffset ← compute (mulWord 64 block pairsPerRow)
    forPairs thread pairsPerRow fun pairColumn => do
      loadPair .input (← compute (addWord 64 rowPairOffset pairColumn))
    reduceInverseRms thread
    forPairs thread pairsPerRow fun pairColumn => do
      let pair ← compute (addWord 64 rowPairOffset pairColumn)
      loadPair .input pair
      loadPair .weight pairColumn
      storePair .output pair

/-- The alignment checks of `enqueue_into` of the plans that launch a packed kernel. -/
def rmsNormPacked2Preflight (address : RmsNormBuffer → Nat) : Except EnqueueError Unit := do
  requirePackedAlignment "input" (address .input)
  requirePackedAlignment "weight" (address .weight)
  requirePackedAlignment "output" (address .output)

/-! ## Accesses -/

/-- An access of four bytes at a multiple of four. -/
def IsPair (a : ByteAccess RmsNormBuffer) : Prop := a.width = 4 ∧ 4 ∣ a.offset

theorem loadPair_pairs (buffer : RmsNormBuffer) (index : Nat) : Makes IsPair (loadPair buffer index) :=
  makes_touch ⟨rfl, Nat.dvd_mul_right 4 index⟩

theorem storePair_pairs (buffer : RmsNormBuffer) (index : Nat) :
    Makes IsPair (storePair buffer index) :=
  makes_touch ⟨rfl, Nat.dvd_mul_right 4 index⟩

theorem onlyIf_pairs {mine : Prop} [Decidable mine] {x : RmsNormM Unit} (h : Makes IsPair x) :
    Makes IsPair (onlyIf mine x) :=
  makes_ite h makes_pure

theorem reduceInverseRms_pairs {thread : Nat} : Makes IsPair (reduceInverseRms thread) := by
  refine (onlyIf_pairs (storePair_pairs _ _)).bind fun _ => Makes.bind (onlyIf_pairs ?_) fun _ => ?_
  · exact (onlyIf_pairs (loadPair_pairs _ _)).bind fun _ => onlyIf_pairs (storePair_pairs _ _)
  · exact loadPair_pairs .warpSums 0

theorem forPairs_pairs {thread pairsPerRow : Nat} {body : Nat → RmsNormM Unit}
    (h : ∀ pairColumn, Makes IsPair (body pairColumn)) :
    Makes IsPair (forPairs thread pairsPerRow body) :=
  makes_forM (fun pairColumn => (h pairColumn).bind fun _ => makes_compute.bind fun _ => makes_pure) _

theorem rmsNormPacked2_pairs {rows hiddenSize block thread : Nat} :
    Makes IsPair (rmsNormPacked2 rows hiddenSize block thread) := by
  refine makes_ite makes_pure (makes_compute.bind fun rowPairOffset => ?_)
  refine Makes.bind (forPairs_pairs fun pairColumn => makes_compute.bind (loadPair_pairs .input)) ?_
  refine fun _ => reduceInverseRms_pairs.bind fun _ => forPairs_pairs fun pairColumn => ?_
  refine makes_compute.bind fun pair => (loadPair_pairs .input pair).bind fun _ => ?_
  exact (loadPair_pairs .weight pairColumn).bind fun _ => storePair_pairs .output pair

end LoomKernels.Memory
