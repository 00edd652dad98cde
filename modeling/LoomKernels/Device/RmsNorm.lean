import LoomKernels.Device.Machine
import LoomKernels.Host.RmsNorm
import LoomKernels.Lib.Reduction
import Mathlib.Tactic.Ring

/-!
# RMSNorm kernels

One block of 256 threads computes one row. Every thread adds the squares of the columns of its stride,
each warp adds the sums of its lanes, and warp zero adds the eight sums that the warps have left in
shared memory. The packed kernels do the same with pairs of columns; a plan chooses them when the
hidden size is even.

In exact arithmetic every kernel of a plan, and its scalar sibling, computes the rows of the reference
(`rmsNorm_kernels_compute_reference`).
-/

namespace LoomKernels

/-- `BLOCK_THREADS` -/
abbrev blockThreads : Nat := 256

/-- `WARP_COUNT` -/
abbrev warpCount : Nat := 8

/-- The operations of the kernels. `warpSum` adds the lanes of a warp, in whatever order the hardware
does. -/
structure WarpOps (F B : Type) extends FloatOps F B where
  warpSum : (Fin warpThreads → F) → F

/-- Exact arithmetic, in which the order does not matter. -/
def exactWarpOps (K : Type) [Field K] [LinearOrder K] [ExactExp K] : WarpOps K K where
  toFloatOps := exactOps K
  warpSum lanes := ∑ lane, lanes lane

/-! ## Reduction -/

section Reduction

variable {F B : Type} (ops : WarpOps F B)

/-- `warp::reduce_sum_f32(value)` in warp `warp`. -/
def warpSum (value : Nat → F) (warp : Nat) : F :=
  ops.warpSum fun lane => value (warp * warpThreads + lane)

/-- Shared memory after lane zero of every warp has stored the sum of its warp. -/
def publishWarpSums (squareSum : Nat → F) (warpSums : Nat → F) : Nat → F :=
  applyWrites ((List.range warpCount).map fun warp => (warp, warpSum ops squareSum warp)) warpSums

/-- The second reduction, in warp zero. -/
def blockSum (squareSum : Nat → F) (warpSums : Nat → F) : F :=
  let published := publishWarpSums ops squareSum warpSums
  warpSum ops (fun thread => if thread < warpCount then published thread else ops.zero) 0

/-- `reduce_inverse_rms_with_epsilon`: what every thread of a block reads from slot zero at its end.
`squareSum` is a function of the thread, `warpSums` the shared memory before. -/
def reduceInverseRmsWithEpsilon (squareSum : Nat → F) (hiddenSize : Nat) (epsilon : F)
    (warpSums : Nat → F) : F :=
  let meanSquare := ops.div (blockSum ops squareSum warpSums) (ops.ofUsize hiddenSize)
  let inverseRms := ops.div ops.one (ops.sqrt (ops.add meanSquare epsilon))
  Function.update (publishWarpSums ops squareSum warpSums) 0 inverseRms 0

end Reduction

/-! ## Kernels -/

section Kernels

variable {F B : Type} (ops : WarpOps F B) (rows hiddenSize : Nat) (epsilon : F)
variable (input weight : Nat → B)

/-- The sum of a thread over single columns of the row at `rowOffset`. -/
def squareSumScalar (rowOffset thread : Nat) : F :=
  (strided thread blockThreads hiddenSize).foldl
    (fun squareSum column =>
      let value := ops.toF32 (input (rowOffset + column))
      ops.add squareSum (ops.mul value value))
    ops.zero

/-- `rms_norm_f32`, `rms_norm_f16_scalar` and `rms_norm_bf16_scalar`: what one thread writes. -/
def rmsNormScalar (warpSums : Nat → F) (block thread : Nat) : List (Nat × B) :=
  if block ≥ rows then []
  else
    let rowOffset := block * hiddenSize
    let inverseRms := reduceInverseRmsWithEpsilon ops
      (squareSumScalar ops hiddenSize input rowOffset) hiddenSize epsilon warpSums
    (strided thread blockThreads hiddenSize).map fun column =>
      let value := ops.toF32 (input (rowOffset + column))
      let scale := ops.toF32 (weight column)
      (rowOffset + column, ops.fromF32 (ops.mul (ops.mul value inverseRms) scale))

/-- The two elements of a 32-bit word, the low half first. -/
def loadPair (array : Nat → B) (pair : Nat) : F × F :=
  (ops.toF32 (array (2 * pair)), ops.toF32 (array (2 * pair + 1)))

/-- The sum of a thread over pairs of columns of the row whose pairs start at `rowPairOffset`. -/
def squareSumPacked2 (rowPairOffset thread : Nat) : F :=
  (strided thread blockThreads (hiddenSize / 2)).foldl
    (fun squareSum pairColumn =>
      let (lo, hi) := loadPair ops input (rowPairOffset + pairColumn)
      ops.add squareSum (ops.add (ops.mul lo lo) (ops.mul hi hi)))
    ops.zero

/-- `rms_norm_f16_packed2` and `rms_norm_bf16_packed2`: what one thread writes. -/
def rmsNormPacked2 (warpSums : Nat → F) (block thread : Nat) : List (Nat × B) :=
  if block ≥ rows then []
  else
    let pairsPerRow := hiddenSize / 2
    let rowPairOffset := block * pairsPerRow
    let inverseRms := reduceInverseRmsWithEpsilon ops
      (squareSumPacked2 ops hiddenSize input rowPairOffset) hiddenSize epsilon warpSums
    (strided thread blockThreads pairsPerRow).flatMap fun pairColumn =>
      let (inputLo, inputHi) := loadPair ops input (rowPairOffset + pairColumn)
      let (weightLo, weightHi) := loadPair ops weight pairColumn
      let pair := rowPairOffset + pairColumn
      [(2 * pair, ops.fromF32 (ops.mul (ops.mul inputLo inverseRms) weightLo)),
        (2 * pair + 1, ops.fromF32 (ops.mul (ops.mul inputHi inverseRms) weightHi))]

end Kernels

/-- One element per load and store, or two adjacent elements per 32-bit load and store. -/
inductive RmsNormKernelPath where
  | scalar
  | packed2
  deriving DecidableEq, Repr

namespace RmsNormKernelPath

variable {F B : Type}

/-- The sum of one thread over the squares of row `row`. -/
def squareSum (path : RmsNormKernelPath) (ops : WarpOps F B) (hiddenSize : Nat) (input : Nat → B)
    (row : Nat) : Nat → F :=
  match path with
  | .scalar => squareSumScalar ops hiddenSize input (row * hiddenSize)
  | .packed2 => squareSumPacked2 ops hiddenSize input (row * (hiddenSize / 2))

/-- What one thread writes. -/
def writes (path : RmsNormKernelPath) (ops : WarpOps F B) (rows hiddenSize : Nat) (epsilon : F)
    (input weight : Nat → B) (warpSums : Nat → F) (block thread : Nat) : List (Nat × B) :=
  match path with
  | .scalar => rmsNormScalar ops rows hiddenSize epsilon input weight warpSums block thread
  | .packed2 => rmsNormPacked2 ops rows hiddenSize epsilon input weight warpSums block thread

end RmsNormKernelPath

/-- The kernel entries of the module. -/
inductive RmsNormKernel where
  | f32
  | f16Scalar
  | f16Packed2
  | bf16Scalar
  | bf16Packed2
  deriving DecidableEq, Repr

namespace RmsNormKernel

def path : RmsNormKernel → RmsNormKernelPath
  | .f32 | .f16Scalar | .bf16Scalar => .scalar
  | .f16Packed2 | .bf16Packed2 => .packed2

/-- The kernel for the same element type that handles single elements. -/
def scalar : RmsNormKernel → RmsNormKernel
  | .f32 => .f32
  | .f16Scalar | .f16Packed2 => .f16Scalar
  | .bf16Scalar | .bf16Packed2 => .bf16Scalar

theorem scalar_path (kernel : RmsNormKernel) : kernel.scalar.path = .scalar := by
  cases kernel <;> rfl

/-- The block of the launch contract. -/
def contractBlock : RmsNormKernel → Nat
  | .f32 | .f16Scalar | .f16Packed2 | .bf16Scalar | .bf16Packed2 => 256

/-- The clause `requires` of the launch contract. -/
def Requires (kernel : RmsNormKernel) (rows hiddenSize input weight output : Nat) : Prop :=
  let minHiddenSize := match kernel with
    | .f32 | .f16Scalar | .bf16Scalar => 1
    | .f16Packed2 | .bf16Packed2 => 2
  1 ≤ rows ∧ minHiddenSize ≤ hiddenSize ∧ input = rows * hiddenSize ∧ weight = hiddenSize ∧
    output = rows * hiddenSize

end RmsNormKernel

/-! ## Plans -/

inductive RmsNormPlanError where
  | unsupportedDType (expected actual : DType)
  | rowCountOutOfRange (rows : Nat)
  | launch (configured declared : Nat)
  deriving DecidableEq, Repr

/-- An immutable, prepared launch. -/
structure RmsNormPlan where
  spec : RmsNormSpec
  kernel : RmsNormKernel
  config : LaunchConfig1D

def checkedRows (spec : RmsNormSpec) : Except RmsNormPlanError Nat :=
  if spec.rows < 2 ^ 32 then .ok spec.rows else .error (.rowCountOutOfRange spec.rows)

/-- `prepare_*`, of one kernel entry. -/
def RmsNormKernel.prepare (kernel : RmsNormKernel) (spec : RmsNormSpec) (config : LaunchConfig1D) :
    Except RmsNormPlanError RmsNormPlan :=
  if config.block = kernel.contractBlock then .ok ⟨spec, kernel, config⟩
  else .error (.launch config.block kernel.contractBlock)

/-- The plan functions: they accept one dtype, and choose between two kernels of it. -/
def planRmsNorm (expected : DType) (scalar packed2 : RmsNormKernel) (spec : RmsNormSpec) :
    Except RmsNormPlanError RmsNormPlan :=
  if spec.dtype ≠ expected then .error (.unsupportedDType expected spec.dtype)
  else do
    let rows ← checkedRows spec
    let config : LaunchConfig1D := ⟨rows, blockThreads⟩
    if spec.hiddenSize % 2 = 0 then packed2.prepare spec config else scalar.prepare spec config

/-- `plan_f32`, which has one kernel. -/
def planF32 : RmsNormSpec → Except RmsNormPlanError RmsNormPlan := planRmsNorm .f32 .f32 .f32

def planF16 : RmsNormSpec → Except RmsNormPlanError RmsNormPlan :=
  planRmsNorm .f16 .f16Scalar .f16Packed2

def planBf16 : RmsNormSpec → Except RmsNormPlanError RmsNormPlan :=
  planRmsNorm .bf16 .bf16Scalar .bf16Packed2

theorem checkedRows_eq_ok {spec : RmsNormSpec} {rows : Nat} :
    checkedRows spec = .ok rows ↔ spec.rows < 2 ^ 32 ∧ rows = spec.rows := by
  unfold checkedRows
  split_ifs with fits
  · rw [Except.ok.injEq, and_iff_right fits, eq_comm]
  · exact iff_of_false nofun fun both => fits both.1

/-- What a plan holds: a block for every row, and a packed kernel only for an even hidden size. -/
structure RmsNormPlan.Fits (plan : RmsNormPlan) (spec : RmsNormSpec) : Prop where
  same : plan.spec = spec
  config : plan.config = ⟨spec.rows, blockThreads⟩
  even : plan.kernel.path = .packed2 → spec.hiddenSize % 2 = 0

theorem RmsNormKernel.prepare_fits {kernel : RmsNormKernel} {spec : RmsNormSpec} {plan : RmsNormPlan}
    (prepared : kernel.prepare spec ⟨spec.rows, blockThreads⟩ = .ok plan)
    (even : kernel.path = .packed2 → spec.hiddenSize % 2 = 0) : plan.Fits spec := by
  unfold prepare at prepared
  split_ifs at prepared
  obtain rfl := Except.ok.inj prepared
  exact ⟨rfl, rfl, even⟩

/-- Contract lengths meet the clause of every kernel that a plan may hold. -/
theorem RmsNormKernel.requires (kernel : RmsNormKernel) {spec : RmsNormSpec}
    (even : kernel.path = .packed2 → spec.hiddenSize % 2 = 0) :
    kernel.Requires spec.rows spec.hiddenSize spec.numel spec.hiddenSize spec.numel := by
  have rows := spec.rows_pos
  have columns := spec.hidden_pos
  refine ⟨rows, ?_, rfl, rfl, rfl⟩
  cases kernel with
  | f32 | f16Scalar | bf16Scalar => exact columns
  | f16Packed2 | bf16Packed2 =>
    have := even rfl
    show 2 ≤ spec.hiddenSize
    omega

theorem planRmsNorm_fits {expected : DType} {scalar packed2 : RmsNormKernel} {spec : RmsNormSpec}
    {plan : RmsNormPlan} (single : scalar.path = .scalar)
    (planned : planRmsNorm expected scalar packed2 spec = .ok plan) : plan.Fits spec := by
  unfold planRmsNorm at planned
  split_ifs at planned with other even
  · obtain ⟨rows, checked, planned⟩ := bind_eq_ok.mp planned
    obtain ⟨-, rfl⟩ := checkedRows_eq_ok.mp checked
    exact RmsNormKernel.prepare_fits planned fun _ => even
  · obtain ⟨rows, checked, planned⟩ := bind_eq_ok.mp planned
    obtain ⟨-, rfl⟩ := checkedRows_eq_ok.mp checked
    refine RmsNormKernel.prepare_fits planned fun packed => ?_
    rw [single] at packed
    cases packed

/-! ## Owners -/

namespace RmsNormKernelPath

/-- The thread that has a column in its stride. -/
def owner : RmsNormKernelPath → Nat → Nat
  | .scalar, column => column % blockThreads
  | .packed2, column => column / 2 % blockThreads

theorem owner_lt (path : RmsNormKernelPath) (column : Nat) : path.owner column < blockThreads := by
  cases path <;> exact Nat.mod_lt _ (by decide)

variable {F B : Type} {ops : WarpOps F B} {rows hiddenSize : Nat} {epsilon : F}
variable {input weight : Nat → B} {warpSums : Nat → F} {block thread : Nat}

theorem scalar_writes_fst (hb : block < rows) :
    (rmsNormScalar ops rows hiddenSize epsilon input weight warpSums block thread).map Prod.fst =
      (strided thread blockThreads hiddenSize).map fun column => block * hiddenSize + column := by
  rw [rmsNormScalar, if_neg (Nat.not_le_of_lt hb), List.map_map]
  rfl

theorem packed2_writes_fst (hb : block < rows) :
    (rmsNormPacked2 ops rows hiddenSize epsilon input weight warpSums block thread).map Prod.fst =
      (strided thread blockThreads (hiddenSize / 2)).flatMap fun column =>
        [2 * (block * (hiddenSize / 2) + column), 2 * (block * (hiddenSize / 2) + column) + 1] := by
  rw [rmsNormPacked2, if_neg (Nat.not_le_of_lt hb), List.map_flatMap]
  rfl

/-- A thread writes the columns that it owns in the row of its block. -/
theorem mem_writes_fst {path : RmsNormKernelPath} (positive : 0 < hiddenSize)
    (even : path = .packed2 → hiddenSize % 2 = 0) (hb : block < rows) (ht : thread < blockThreads)
    {i : Nat} :
    i ∈ (path.writes ops rows hiddenSize epsilon input weight warpSums block thread).map Prod.fst ↔
      i / hiddenSize = block ∧ path.owner (i % hiddenSize) = thread := by
  cases path with
  | scalar =>
    rw [writes, scalar_writes_fst hb, List.mem_map]
    constructor
    · rintro ⟨column, mem, rfl⟩
      obtain ⟨lt, mine⟩ := (mem_strided_worker ht).mp mem
      rw [row_div lt, row_mod lt]
      exact ⟨rfl, mine⟩
    · rintro ⟨rfl, mine⟩
      exact ⟨i % hiddenSize, (mem_strided_worker ht).mpr ⟨Nat.mod_lt _ positive, mine⟩,
        Nat.div_add_mod' i hiddenSize⟩
  | packed2 =>
    obtain ⟨half, rfl⟩ : ∃ half, hiddenSize = 2 * half :=
      ⟨hiddenSize / 2, by have := even rfl; omega⟩
    have halves : 2 * half / 2 = half := by omega
    rw [writes, packed2_writes_fst hb, List.mem_flatMap, halves]
    have row : ∀ column bit, 2 * (block * half + column) + bit =
        block * (2 * half) + (2 * column + bit) := fun column bit => by ring
    constructor
    · rintro ⟨column, mem, here⟩
      obtain ⟨lt, mine⟩ := (mem_strided_worker ht).mp mem
      obtain ⟨bit, small, rfl⟩ : ∃ bit < 2, i = 2 * (block * half + column) + bit := by
        simp only [List.mem_cons, List.not_mem_nil, or_false] at here
        exact here.elim (fun h => ⟨0, by omega, h⟩) fun h => ⟨1, by omega, h⟩
      have inside : 2 * column + bit < 2 * half := by omega
      rw [row, row_div inside, row_mod inside]
      refine ⟨rfl, ?_⟩
      rw [owner, show (2 * column + bit) / 2 = column by omega]
      exact mine
    · rintro ⟨rfl, mine⟩
      have inside := Nat.mod_lt i positive
      have whole := Nat.div_add_mod' i (2 * half)
      refine ⟨i % (2 * half) / 2, (mem_strided_worker ht).mpr ⟨by omega, mine⟩, ?_⟩
      have low := row (i % (2 * half) / 2) 0
      rw [Nat.add_zero] at low
      simp only [List.mem_cons, List.not_mem_nil, or_false]
      omega

theorem writes_nodup {path : RmsNormKernelPath} (hb : block < rows) :
    ((path.writes ops rows hiddenSize epsilon input weight warpSums block thread).map
      Prod.fst).Nodup := by
  have stride : ∀ n, (strided thread blockThreads n).Nodup := fun n => strided_nodup (by decide)
  cases path with
  | scalar =>
    rw [writes, scalar_writes_fst hb]
    exact (stride _).map fun c c' => Nat.add_left_cancel
  | packed2 =>
    rw [writes, packed2_writes_fst hb]
    refine List.nodup_flatMap.mpr ⟨fun column _ => by simp, (stride _).imp fun {c c'} ne => ?_⟩
    simp only [Function.onFun, List.disjoint_left, List.mem_cons, List.not_mem_nil, or_false]
    rintro i (rfl | rfl) <;> omega

/-- Every element of the output is written once. -/
theorem writes_once {path : RmsNormKernelPath} (positive : 0 < hiddenSize)
    (even : path = .packed2 → hiddenSize % 2 = 0) {warpSums : Nat → Nat → F} {i : Nat}
    (hi : i < rows * hiddenSize) :
    WrittenOnce rows blockThreads (fun block =>
      path.writes ops rows hiddenSize epsilon input weight (warpSums block) block) i := by
  have row : i / hiddenSize < rows := (lt_rows_iff positive).mpr hi
  refine writtenOnce_of_owner row (path.owner_lt (i % hiddenSize)) (writes_nodup row) ?_
  intro block hb thread ht
  rw [mem_writes_fst positive even hb ht]
  exact and_congr eq_comm eq_comm

end RmsNormKernelPath

/-! ## Exact arithmetic -/

section Exact

variable {K : Type} [Field K] [LinearOrder K] [ExactExp K] (ofF32 : UInt32 → K)

theorem warpSum_exact (value : Nat → K) (warp : Nat) :
    warpSum (exactWarpOps K) value warp =
      ∑ lane ∈ Finset.range warpThreads, value (warp * warpThreads + lane) :=
  (Finset.sum_range fun lane => value (warp * warpThreads + lane)).symm

theorem publishWarpSums_apply (squareSum warpSums : Nat → K) {warp : Nat} (hw : warp < warpCount) :
    publishWarpSums (exactWarpOps K) squareSum warpSums warp =
      warpSum (exactWarpOps K) squareSum warp := by
  refine applyWrites_of_agree (f := warpSum (exactWarpOps K) squareSum) (fun w mem => ?_) ?_
  · obtain ⟨warp, -, rfl⟩ := List.mem_map.mp mem
    rfl
  · rw [List.map_map]
    exact List.mem_map.mpr ⟨warp, List.mem_range.mpr hw, rfl⟩

/-- The two levels add the sums of all 256 threads. -/
theorem blockSum_exact (squareSum warpSums : Nat → K) :
    blockSum (exactWarpOps K) squareSum warpSums =
      ∑ thread ∈ Finset.range blockThreads, squareSum thread := by
  have slots : ∀ lane, (if 0 * warpThreads + lane < warpCount then
        publishWarpSums (exactWarpOps K) squareSum warpSums (0 * warpThreads + lane)
      else (exactWarpOps K).zero) =
      if lane < warpCount then warpSum (exactWarpOps K) squareSum lane else 0 := by
    intro lane
    rw [Nat.zero_mul, Nat.zero_add]
    split_ifs with low
    · exact publishWarpSums_apply squareSum warpSums low
    · rfl
  calc blockSum (exactWarpOps K) squareSum warpSums
      = ∑ lane ∈ Finset.range warpThreads,
          if lane < warpCount then warpSum (exactWarpOps K) squareSum lane else 0 := by
        rw [blockSum, warpSum_exact]
        exact Finset.sum_congr rfl fun lane _ => slots lane
    _ = ∑ warp ∈ Finset.range warpCount, warpSum (exactWarpOps K) squareSum warp :=
        sum_range_ite _ (by decide)
    _ = ∑ warp ∈ Finset.range warpCount, ∑ lane ∈ Finset.range warpThreads,
          squareSum (warp * warpThreads + lane) :=
        Finset.sum_congr rfl fun warp _ => warpSum_exact squareSum warp
    _ = ∑ thread ∈ Finset.range blockThreads, squareSum thread :=
        sum_groups squareSum warpCount warpThreads

/-- The threads of a block add the square of every column once. -/
theorem squareSum_exact {path : RmsNormKernelPath} {hiddenSize : Nat}
    (even : path = .packed2 → hiddenSize % 2 = 0) (input : Nat → K) (row : Nat) :
    ∑ thread ∈ Finset.range blockThreads, path.squareSum (exactWarpOps K) hiddenSize input row thread =
      ∑ column ∈ Finset.range hiddenSize,
        input (row * hiddenSize + column) * input (row * hiddenSize + column) := by
  have positive : 0 < blockThreads := by decide
  cases path with
  | scalar =>
    calc ∑ thread ∈ Finset.range blockThreads,
          squareSumScalar (exactWarpOps K) hiddenSize input (row * hiddenSize) thread
        = ∑ thread ∈ Finset.range blockThreads, ((strided thread blockThreads hiddenSize).map
            fun column => input (row * hiddenSize + column) * input (row * hiddenSize + column)).sum :=
          Finset.sum_congr rfl fun thread _ => (foldl_add _ _ _).trans (zero_add _)
      _ = _ := sum_partition _ (strided_perm positive hiddenSize)
  | packed2 =>
    obtain ⟨half, rfl⟩ : ∃ half, hiddenSize = half * 2 :=
      ⟨hiddenSize / 2, by have := even rfl; omega⟩
    have halves : half * 2 / 2 = half := by omega
    have pair : ∀ column, 2 * (row * half + column) = row * (half * 2) + column * 2 := by
      intro column
      ring
    calc ∑ thread ∈ Finset.range blockThreads,
          squareSumPacked2 (exactWarpOps K) (half * 2) input (row * (half * 2 / 2)) thread
        = ∑ thread ∈ Finset.range blockThreads, ((strided thread blockThreads half).map
            fun column => ∑ i ∈ Finset.range 2, input (row * (half * 2) + (column * 2 + i)) *
              input (row * (half * 2) + (column * 2 + i))).sum := by
          refine Finset.sum_congr rfl fun thread _ => ?_
          rw [squareSumPacked2, halves]
          refine (foldl_add _ _ _).trans ((zero_add _).trans ?_)
          simp only [pair, Finset.sum_range_succ, Finset.sum_range_zero, zero_add, Nat.add_zero,
            Nat.add_assoc]
          rfl
      _ = ∑ column ∈ Finset.range half, ∑ i ∈ Finset.range 2,
            input (row * (half * 2) + (column * 2 + i)) *
              input (row * (half * 2) + (column * 2 + i)) :=
          sum_partition _ (strided_perm positive half)
      _ = _ := sum_groups (fun c => input (row * (half * 2) + c) * input (row * (half * 2) + c)) half 2

theorem reduceInverseRms_exact {path : RmsNormKernelPath} {hiddenSize : Nat}
    (even : path = .packed2 → hiddenSize % 2 = 0) (input : Nat → K) (row : Nat) (epsilon : UInt32)
    (warpSums : Nat → K) :
    reduceInverseRmsWithEpsilon (exactWarpOps K) (path.squareSum (exactWarpOps K) hiddenSize input row)
        hiddenSize (ofF32 epsilon) warpSums =
      inverseRms (exactOps K) ofF32 input (row * hiddenSize) hiddenSize epsilon := by
  have reference : forRange 0 hiddenSize
        (fun column (sum : K) =>
          sum + input (row * hiddenSize + column) * input (row * hiddenSize + column)) 0 =
      blockSum (exactWarpOps K) (path.squareSum (exactWarpOps K) hiddenSize input row) warpSums := by
    rw [forRange_sum, blockSum_exact, squareSum_exact even]
  rw [reduceInverseRmsWithEpsilon, Function.update_self, ← reference]
  rfl

/-- Element `i` of the reference. -/
def normalized (input weight : Nat → K) (hiddenSize : Nat) (epsilon : UInt32) (i : Nat) : K :=
  input i * inverseRms (exactOps K) ofF32 input (i / hiddenSize * hiddenSize) hiddenSize epsilon *
    weight (i % hiddenSize)

theorem normalizeRows_apply {hiddenSize : Nat} (positive : 0 < hiddenSize) (rows : Nat)
    (input weight : Nat → K) (epsilon : UInt32) (output : Nat → K) {i : Nat}
    (hi : i < rows * hiddenSize) :
    forRange 0 rows (normalizeRow (exactOps K) ofF32 input weight hiddenSize epsilon) output i =
      normalized ofF32 input weight hiddenSize epsilon i := by
  rw [forRange_rows_apply (n := hiddenSize) (Nat.zero_le rows)
    (f := fun row c => input (row * hiddenSize + c) *
      inverseRms (exactOps K) ofF32 input (row * hiddenSize) hiddenSize epsilon * weight c),
    if_pos ⟨Nat.zero_le _, (lt_rows_iff positive).mpr hi⟩, normalized, Nat.div_add_mod']
  intro row mem j
  exact writeRow_apply positive row _ mem j

/-- Every write of a kernel is an element of the reference. -/
theorem writes_agree {path : RmsNormKernelPath} {rows hiddenSize : Nat}
    (even : path = .packed2 → hiddenSize % 2 = 0) {input weight : Nat → K} {epsilon : UInt32}
    {warpSums : Nat → K} {block thread : Nat} (hb : block < rows) {w : Nat × K}
    (mem : w ∈ path.writes (exactWarpOps K) rows hiddenSize (ofF32 epsilon) input weight warpSums block
      thread) : w.2 = normalized ofF32 input weight hiddenSize epsilon w.1 := by
  have inverse := reduceInverseRms_exact ofF32 even input block epsilon warpSums
  have positive : 0 < blockThreads := by decide
  cases path with
  | scalar =>
    rw [RmsNormKernelPath.writes, rmsNormScalar, if_neg (Nat.not_le_of_lt hb), List.mem_map] at mem
    obtain ⟨column, stride, rfl⟩ := mem
    have lt := lt_of_mem_strided positive stride
    dsimp only [RmsNormKernelPath.squareSum] at inverse
    rw [normalized, row_div lt, row_mod lt, inverse]
    rfl
  | packed2 =>
    obtain ⟨half, rfl⟩ : ∃ half, hiddenSize = 2 * half :=
      ⟨hiddenSize / 2, by have := even rfl; omega⟩
    have halves : 2 * half / 2 = half := by omega
    rw [RmsNormKernelPath.writes, rmsNormPacked2, if_neg (Nat.not_le_of_lt hb), List.mem_flatMap]
      at mem
    obtain ⟨column, stride, here⟩ := mem
    have lt := lt_of_mem_strided positive stride
    dsimp only [RmsNormKernelPath.squareSum] at inverse
    rw [halves] at here lt inverse
    have element : ∀ bit < 2, normalized ofF32 input weight (2 * half) epsilon
          (2 * (block * half + column) + bit) =
        input (2 * (block * half + column) + bit) *
          inverseRms (exactOps K) ofF32 input (block * (2 * half)) (2 * half) epsilon *
          weight (2 * column + bit) := by
      intro bit small
      have inside : 2 * column + bit < 2 * half := by omega
      have place : 2 * (block * half + column) + bit = block * (2 * half) + (2 * column + bit) := by
        ring
      rw [normalized, place, row_div inside, row_mod inside]
    rw [← inverse] at element
    simp only [List.mem_cons, List.not_mem_nil, or_false] at here
    rcases here with rfl | rfl
    · exact (element 0 two_pos).symm
    · exact (element 1 Nat.one_lt_two).symm

/-- On its grid, the kernel adds the square of every column once in each row, the block of a row
writes the row and nothing else, every element is written once, and in every order of the writes
the output is `result` in the end. The shared memory may hold anything at the start. -/
structure RmsNormKernelPath.Computes (path : RmsNormKernelPath) (spec : RmsNormSpec)
    (config : LaunchConfig1D) (input weight result : Nat → K) : Prop where
  sums : ∀ row < spec.rows, ∀ warpSums,
    blockSum (exactWarpOps K) (path.squareSum (exactWarpOps K) spec.hiddenSize input row) warpSums =
      ∑ column ∈ Finset.range spec.hiddenSize, input (row * spec.hiddenSize + column) ^ 2
  own : ∀ block < config.grid, ∀ thread < config.block, ∀ warpSums,
    ∀ w ∈ path.writes (exactWarpOps K) spec.rows spec.hiddenSize (ofF32 spec.epsilon) input weight
      warpSums block thread, w.1 / spec.hiddenSize = block
  once : ∀ warpSums : Nat → Nat → K, ∀ i < spec.numel, WrittenOnce config.grid config.block
    (fun block => path.writes (exactWarpOps K) spec.rows spec.hiddenSize (ofF32 spec.epsilon) input
      weight (warpSums block) block) i
  final : ∀ warpSums : Nat → Nat → K, ∀ before : Nat → K, ∀ order,
    order.Perm (gridWrites config.grid config.block fun block =>
      path.writes (exactWarpOps K) spec.rows spec.hiddenSize (ofF32 spec.epsilon) input weight
        (warpSums block) block) →
    ∀ i < spec.numel, applyWrites order before i = result i

theorem RmsNormKernelPath.computes {path : RmsNormKernelPath} {spec : RmsNormSpec}
    (even : path = .packed2 → spec.hiddenSize % 2 = 0) {input weight result : Nat → K}
    (reference : ∀ i < spec.numel,
      result i = normalized ofF32 input weight spec.hiddenSize spec.epsilon i) :
    path.Computes ofF32 spec ⟨spec.rows, blockThreads⟩ input weight result := by
  have positive := spec.hidden_pos
  refine ⟨fun row _ warpSums => ?_, fun block hb thread ht warpSums w mem => ?_,
    fun warpSums i hi => writes_once positive even hi, fun warpSums before order perm i hi => ?_⟩
  · rw [blockSum_exact, squareSum_exact even]
    simp only [sq]
  · have named := List.mem_map_of_mem (f := Prod.fst) mem
    exact ((mem_writes_fst positive even hb ht).mp named).1
  · rw [reference i hi]
    refine (writes_once positive even hi).final (fun block hb thread _ w mem => ?_) perm before
    exact writes_agree ofF32 even hb mem

/-- Every plan prepares a launch that is within its contract and computes the rows of the reference,
and the scalar kernel of the same element type computes them as well. -/
theorem rmsNorm_kernels_compute_reference {spec : RmsNormSpec} {plan : RmsNormPlan}
    (planned : planF32 spec = .ok plan ∨ planF16 spec = .ok plan ∨ planBf16 spec = .ok plan)
    (input weight before : Nat → K) :
    ∃ result, rmsNormReference (exactOps K) ofF32 ⟨spec.numel, input⟩ ⟨spec.hiddenSize, weight⟩
        ⟨spec.numel, before⟩ spec spec.dtype = .ok result ∧
      plan.kernel.Requires spec.rows spec.hiddenSize spec.numel spec.hiddenSize spec.numel ∧
      plan.kernel.path.Computes ofF32 spec plan.config input weight result ∧
      plan.kernel.scalar.path.Computes ofF32 spec plan.config input weight result := by
  have fits : plan.Fits spec := by
    rcases planned with planned | planned | planned
    · exact planRmsNorm_fits rfl planned
    · exact planRmsNorm_fits rfl planned
    · exact planRmsNorm_fits rfl planned
  have single : plan.kernel.scalar.path = .packed2 → spec.hiddenSize % 2 = 0 := fun packed => by
    rw [RmsNormKernel.scalar_path] at packed
    cases packed
  have reference := fun i (hi : i < spec.numel) =>
    normalizeRows_apply ofF32 spec.hidden_pos spec.rows input weight spec.epsilon before hi
  refine ⟨_, rmsNormReference_ok (exactOps K) ofF32 rfl rfl rfl rfl, ?_, ?_, ?_⟩
  · exact plan.kernel.requires fits.even
  · rw [fits.config]
    exact RmsNormKernelPath.computes ofF32 fits.even reference
  · rw [fits.config]
    exact RmsNormKernelPath.computes ofF32 single reference

theorem sixColumns_rows : 0 < 3 := by decide

theorem sixColumns_hidden : 0 < 6 := by decide

theorem sixColumns_fit : 3 * 6 < usizeSize := by decide

/-- Three rows of six halves, for which the packed kernel is planned. -/
def sixColumnsSpec : RmsNormSpec where
  rows := 3
  hiddenSize := 6
  epsilon := f32One
  dtype := .f16
  rows_pos := sixColumns_rows
  hidden_pos := sixColumns_hidden
  epsilon_pos := f32One_positive
  numel_fits := sixColumns_fit

theorem rmsNorm_kernels_compute_reference_sixColumns :
    ∃ result, rmsNormReference (exactOps ℝ) (fun _ => 1) ⟨18, fun i => (i : ℝ)⟩ ⟨6, fun _ => 1⟩
        ⟨18, fun _ => 0⟩ sixColumnsSpec .f16 = .ok result ∧
      RmsNormKernelPath.packed2.Computes (fun _ => 1) sixColumnsSpec ⟨3, 256⟩ (fun i => (i : ℝ))
        (fun _ => 1) result := by
  have planned : planF16 sixColumnsSpec = .ok ⟨sixColumnsSpec, .f16Packed2, ⟨3, 256⟩⟩ := by rfl
  obtain ⟨result, reference, -, computes, -⟩ :=
    rmsNorm_kernels_compute_reference (fun _ => 1) (.inr (.inl planned)) (fun i => (i : ℝ))
      (fun _ => 1) fun _ => 0
  exact ⟨result, reference, computes⟩

end Exact

end LoomKernels
