import LoomKernels.Device.PagedServing
import LoomKernels.Device.SplitK
import LoomKernels.Command.Operators

/-!
# Decode plans

The three plans of the decode provider: one warp for each query head, split-K over the tokens, and
paged decode, which takes one warp or eight by the shape alone. A plan exists as soon as its grids
are in range.

The direct plan and the split-K plan leave the memories of the single-pass reference, bit for bit in
exact arithmetic. Of a paged plan more is said: on any metadata of the right lengths, every launch
comes to its end, the requests that are valid by themselves are served, and nothing else changes. So
one broken request of a batch does not disturb the others.
-/

namespace LoomKernels

open Memory (PageRequestValid DecodeRowValid)

/-! ## Plans -/

/-- `prepare_*`, of one kernel entry. -/
def KernelLaunch.prepareOr {ε : Type} (launch : KernelLaunch)
    (error : (configured declared : Nat) → ε) : Except ε PreparedLaunch :=
  if h : launch.config.block = launch.entry.block then .ok ⟨launch, h⟩
  else .error (error launch.config.block launch.entry.block)

/-- `option.ok_or(error)?` -/
def okOrElse {ε α : Type} (option : Option α) (error : ε) : Except ε α :=
  match option with
  | some a => .ok a
  | none => .error error

/-- `u32::try_from(n).map_err(error)?` -/
def gridOr {ε : Type} (n : Nat) (error : ε) : Except ε Nat := if n < 2 ^ 32 then .ok n else .error error

inductive SingleDecodePlanError where
  | queryHeadCountOutOfRange (heads : Nat)
  | partialStateCountOutOfRange (states : Nat)
  | launch (configured declared : Nat)
  deriving DecidableEq, Repr

inductive PagedBatchDecodePlanError where
  | stateCountOutOfRange (states : Nat)
  | launch (configured declared : Nat)
  deriving DecidableEq, Repr

/-- `single_decode_bf16_nhd` -/
def singleDecodeEntry : KernelEntry := ⟨32, 1⟩

/-- `single_decode_bf16_nhd_split_k_partials` -/
def splitKPartialsEntry : KernelEntry := ⟨32, 1⟩

/-- `single_decode_bf16_nhd_split_k_merge` -/
def splitKMergeEntry : KernelEntry := ⟨256, splitKMergeWarpsPerBlock⟩

/-- `paged_batch_decode_bf16_nhd` -/
def pagedBatchDecodeEntry : KernelEntry := ⟨32, 1⟩

/-- `paged_batch_decode_bf16_nhd_token_parallel` -/
def pagedBatchDecodeTokenParallelEntry : KernelEntry := ⟨256, pagedBatchDecodeWarpsPerBlock⟩

def DecodeProvider.planBf16 (spec : Bf16SingleDecodeSpec) :
    Except SingleDecodePlanError (Bf16SingleDecodePlan × PreparedLaunch) := do
  let queryHeads ← gridOr spec.numQueryHeads (.queryHeadCountOutOfRange spec.numQueryHeads)
  let launch ← KernelLaunch.prepareOr ⟨singleDecodeEntry, ⟨queryHeads, warpThreads⟩⟩ .launch
  return (⟨spec⟩, launch)

/-- The plan with the launches of the partials kernel and of the merge kernel. -/
def DecodeProvider.planBf16SplitK (spec : Bf16SingleDecodeSplitKSpec) :
    Except SingleDecodePlanError (Bf16SingleDecodeSplitKPlan × PreparedLaunch × PreparedLaunch) := do
  let queryHeads ← gridOr spec.decode.numQueryHeads
    (.queryHeadCountOutOfRange spec.decode.numQueryHeads)
  let partialStates ← gridOr spec.partialStateCount
    (.partialStateCountOutOfRange spec.partialStateCount)
  let partialLaunch ← KernelLaunch.prepareOr
    ⟨splitKPartialsEntry, ⟨partialStates, warpThreads⟩⟩ .launch
  let mergeLaunch ← KernelLaunch.prepareOr
    ⟨splitKMergeEntry, ⟨queryHeads, warpThreads * splitKMergeWarpsPerBlock⟩⟩ .launch
  return (⟨spec⟩, partialLaunch, mergeLaunch)

def DecodeProvider.planBf16PagedBatch (spec : Bf16PagedBatchDecodeSpec) :
    Except PagedBatchDecodePlanError (Bf16PagedBatchDecodePlan × PreparedLaunch) := do
  let states ← okOrElse (checkedMul spec.batchSize spec.numQueryHeads)
    (.stateCountOutOfRange (usizeSize - 1))
  let states ← gridOr states (.stateCountOutOfRange states)
  let launch ← match pagedBatchDecodeAlgorithm spec with
    | .direct => KernelLaunch.prepareOr ⟨pagedBatchDecodeEntry, ⟨states, warpThreads⟩⟩ .launch
    | .tokenParallel8 =>
      KernelLaunch.prepareOr ⟨pagedBatchDecodeTokenParallelEntry,
        ⟨states, warpThreads * pagedBatchDecodeWarpsPerBlock⟩⟩ .launch
  return (⟨spec⟩, launch)

theorem gridOr_eq_ok {ε : Type} {n grid : Nat} {error : ε} :
    gridOr n error = .ok grid ↔ n < 2 ^ 32 ∧ n = grid := by
  unfold gridOr
  split
  · rename_i small
    simp only [Except.ok.injEq, small, true_and]
  · rename_i large
    simp only [reduceCtorEq, large, false_and]

theorem okOrElse_eq_ok {ε α : Type} {option : Option α} {error : ε} {a : α} :
    okOrElse option error = .ok a ↔ option = some a := by
  cases option <;> simp [okOrElse]

/-- A configuration with the declared block is prepared as it is. -/
theorem KernelLaunch.prepareOr_ok {ε : Type} {launch : KernelLaunch} {error : Nat → Nat → ε}
    (same : launch.config.block = launch.entry.block) :
    launch.prepareOr error = .ok ⟨launch, same⟩ := dif_pos same

/-- What the direct plan launches. -/
theorem DecodeProvider.planBf16_eq_ok {spec : Bf16SingleDecodeSpec} {plan : Bf16SingleDecodePlan}
    {launch : PreparedLaunch} (planned : DecodeProvider.planBf16 spec = .ok (plan, launch)) :
    plan = ⟨spec⟩ ∧ launch.config = ⟨spec.lseNumel, 32⟩ := by
  obtain ⟨_, grid, rest⟩ := bind_eq_ok.mp planned
  obtain ⟨-, rfl⟩ := gridOr_eq_ok.mp grid
  rw [KernelLaunch.prepareOr_ok rfl] at rest
  cases rest
  exact ⟨rfl, rfl⟩

theorem DecodeProvider.planBf16SplitK_eq_ok {spec : Bf16SingleDecodeSplitKSpec} {plan : Bf16SingleDecodeSplitKPlan}
    {partialLaunch mergeLaunch : PreparedLaunch}
    (planned : DecodeProvider.planBf16SplitK spec = .ok (plan, partialLaunch, mergeLaunch)) :
    plan = ⟨spec⟩ ∧ partialLaunch.config = ⟨spec.partialStateCount, 32⟩ ∧
      mergeLaunch.config = ⟨spec.decode.lseNumel, 256⟩ := by
  obtain ⟨_, heads, rest⟩ := bind_eq_ok.mp planned
  obtain ⟨-, rfl⟩ := gridOr_eq_ok.mp heads
  obtain ⟨_, states, rest⟩ := bind_eq_ok.mp rest
  obtain ⟨-, rfl⟩ := gridOr_eq_ok.mp states
  rw [KernelLaunch.prepareOr_ok rfl, ok_bind, KernelLaunch.prepareOr_ok rfl] at rest
  cases rest
  exact ⟨rfl, rfl, rfl⟩

/-- The block of each algorithm. -/
def Bf16PagedBatchDecodeAlgorithm.threads : Bf16PagedBatchDecodeAlgorithm → Nat
  | .direct => 32
  | .tokenParallel8 => 256

theorem DecodeProvider.planBf16PagedBatch_eq_ok {spec : Bf16PagedBatchDecodeSpec}
    {plan : Bf16PagedBatchDecodePlan} {launch : PreparedLaunch}
    (planned : DecodeProvider.planBf16PagedBatch spec = .ok (plan, launch)) :
    plan = ⟨spec⟩ ∧
      launch.config = ⟨spec.lseNumel, (pagedBatchDecodeAlgorithm spec).threads⟩ := by
  obtain ⟨_, states, rest⟩ := bind_eq_ok.mp planned
  obtain ⟨-, rfl⟩ := checkedMul_eq_some.mp (okOrElse_eq_ok.mp states)
  obtain ⟨_, grid, rest⟩ := bind_eq_ok.mp rest
  obtain ⟨-, rfl⟩ := gridOr_eq_ok.mp grid
  cases algorithm : pagedBatchDecodeAlgorithm spec with
  | direct =>
    rw [algorithm, KernelLaunch.prepareOr_ok rfl] at rest
    cases rest
    exact ⟨rfl, rfl⟩
  | tokenParallel8 =>
    rw [algorithm, KernelLaunch.prepareOr_ok rfl] at rest
    cases rest
    exact ⟨rfl, rfl⟩

/-! ## Runs -/

section Runs

variable {F B : Type} (ops : DeviceOps F B)

/-- `single_decode_bf16_nhd` -/
def DeviceOps.singleDecode (kvLen numQueryHeads numKvHeads : Nat) (softmaxScaleLog2 : F)
    (query key value : Nat → B) (queryHead lane : Nat) : DeviceM (AttentionWrites F B) :=
  if queryHead ≥ numQueryHeads ∨ lane ≥ warpThreads then return ⟨[], []⟩
  else do
    let groupSize := numQueryHeads / numKvHeads
    let kvHead := queryHead / groupSize
    let s ← ops.tokenLoop softmaxScaleLog2 ops.zero query key value (queryHead * singleDecodeHeadDim)
      (fun token => .ok ((token * numKvHeads + kvHead) * singleDecodeHeadDim)) 0 kvLen
    return ops.storeResult queryHead s lane

/-- A launch that writes a workspace: every thread returns, and the writes take effect in some order. -/
def WorkspaceLaunch (config : LaunchConfig1D) (kernel : Nat → Nat → DeviceM (List (Nat × F)))
    (before after : Nat → F) : Prop :=
  ∃ writes : Nat → Nat → List (Nat × F),
    (∀ block < config.grid, ∀ thread < config.block,
      kernel block thread = .ok (writes block thread)) ∧
    ∃ order, order.Perm (gridWrites config.grid config.block writes) ∧ after = applyWrites order before

/-- A run of the direct plan. -/
def SingleDecodeRun (spec : Bf16SingleDecodeSpec) (config : LaunchConfig1D) (softmaxScaleLog2 : F)
    (query key value : Nat → B) (before after : AttentionOut F B) : Prop :=
  RowLaunch config (ops.singleDecode spec.kvLen spec.numQueryHeads spec.numKvHeads softmaxScaleLog2
    query key value) before after

/-- A run of the split-K plan over a workspace, whatever the shared memory of its blocks held. -/
def SplitKRun (spec : Bf16SingleDecodeSplitKSpec) (partials merge : LaunchConfig1D)
    (softmaxScaleLog2 : F) (query key value : Nat → B) (workspace : Nat → F)
    (before after : AttentionOut F B) : Prop :=
  ∃ (filled : Nat → F) (mergeStates : Nat → Nat → F),
    WorkspaceLaunch partials (ops.splitKPartials spec.decode.kvLen spec.decode.numQueryHeads
      spec.decode.numKvHeads spec.partitions softmaxScaleLog2 query key value) workspace filled ∧
    RowLaunch merge (fun head => ops.splitKMerge spec.decode.numQueryHeads spec.partitions filled
      (mergeStates head) head) before after

/-- What the kernels of paged decode read. -/
structure PagedDecodeInputs (F B : Type) where
  softmaxScaleLog2 : F
  query : Nat → B
  keyPages : Nat → B
  valuePages : Nat → B
  pageIndptr : Slice Int32
  pageIndices : Slice Int32
  lastPageLen : Slice Int32

/-- A run of the paged plan, whatever the shared memory of its blocks held. -/
def PagedBatchDecodeRun (spec : Bf16PagedBatchDecodeSpec) (config : LaunchConfig1D)
    (inputs : PagedDecodeInputs F B) (before after : AttentionOut F B) : Prop :=
  match pagedBatchDecodeAlgorithm spec with
  | .direct => RowLaunch config (ops.pagedBatchDecodeDirect spec.batchSize spec.maxNumPages
      spec.numQueryHeads spec.numKvHeads inputs.softmaxScaleLog2 inputs.query inputs.keyPages
      inputs.valuePages inputs.pageIndptr inputs.pageIndices inputs.lastPageLen) before after
  | .tokenParallel8 => ∃ partialStates : Nat → Nat → F, RowLaunch config
      (fun block => ops.pagedBatchDecodeTokenParallel spec.batchSize spec.maxNumPages
        spec.numQueryHeads spec.numKvHeads inputs.softmaxScaleLog2 inputs.query inputs.keyPages
        inputs.valuePages inputs.pageIndptr inputs.pageIndices inputs.lastPageLen
        (partialStates block) block) before after

end Runs

/-! ## Single decode -/

section Single

variable {K : Type} [Field K] [LinearOrder K] [ExactExp K] [IsStrictOrderedRing K]

/-- The attention of every head of a decode. -/
def Bf16SingleDecodeSpec.headRows (spec : Bf16SingleDecodeSpec) (query key value : Nat → K)
    (head : Nat) : Option (RowValue (Ext K) (Ext K)) :=
  if head < spec.lseNumel then
    some (attentionRow (spec.headTokens query key value head 0 spec.kvLen))
  else none

variable (spec : Bf16SingleDecodeSpec) (query key value : Nat → K)

theorem singleDecode_serves : ServesRows ⟨spec.lseNumel, 32⟩
    ((extOps K).singleDecode spec.kvLen spec.numQueryHeads spec.numKvHeads (.fin (scaleLog2 K))
      (finArray query) (finArray key) (finArray value)) (spec.headRows query key value) where
  warp := le_rfl
  returns head hh lane hl := by
    have live : ¬ (head ≥ spec.numQueryHeads ∨ lane ≥ warpThreads) :=
      not_or.mpr ⟨Nat.not_le.mpr hh, Nat.not_le.mpr hl⟩
    have some : spec.headRows query key value head =
      .some (attentionRow (spec.headTokens query key value head 0 spec.kvLen)) := if_pos hh
    rw [DeviceOps.singleDecode, if_neg live, some]
    exact directRow_exact query key value head
      (fun token => (token * spec.numKvHeads + head / spec.gqaGroupSize) * 128) spec.kvLen_pos hl
  inside head outside := if_neg (Nat.not_lt.mpr outside)

/-- The split-K plan does the same, whatever the workspace held. -/
theorem splitKMerge_serves (spec : Bf16SingleDecodeSplitKSpec) (query key value : Nat → K)
    {workspace filled : Nat → Ext K}
    (partials : WorkspaceLaunch ⟨spec.partialStateCount, 32⟩ ((extOps K).splitKPartials
      spec.decode.kvLen spec.decode.numQueryHeads spec.decode.numKvHeads spec.partitions
      (.fin (scaleLog2 K)) (finArray query) (finArray key) (finArray value)) workspace filled)
    (mergeStates : Nat → Nat → Ext K) :
    ServesRows ⟨spec.decode.lseNumel, 256⟩
      (fun head => (extOps K).splitKMerge spec.decode.numQueryHeads spec.partitions filled
        (mergeStates head) head) (spec.decode.headRows query key value) := by
  obtain ⟨writes, run, order, perm, rfl⟩ := partials
  obtain ⟨states, hstates⟩ := splitKPartials_exact spec query key value
  have same : ∀ p < spec.partialStateCount, ∀ lane < warpThreads,
      writes p lane = storeState (p * singleDecodePartialStateWidth) (states p) lane :=
    fun p hp lane hl => Except.ok.inj ((run p hp lane hl).symm.trans ((hstates p hp).2 lane hl))
  refine ⟨show 32 ≤ 256 by decide, fun head hh thread _ => ?_,
    fun head outside => if_neg (Nat.not_lt.mpr outside)⟩
  have some : spec.decode.headRows query key value head =
    .some (attentionRow (spec.decode.headTokens query key value head 0 spec.decode.kvLen)) := if_pos hh
  rw [some, rowOrNothing_attention, ← spec.flatMap_stateTokens query key value head]
  exact splitKMerge_exact spec (mergeStates head) hh
    (fun a ha => storeStates_final same perm workspace ha)
    (fun p hp => ⟨(hstates p hp).1, spec.stateTokens_ne_nil _ _ _ p⟩) thread

omit [IsStrictOrderedRing K] in
/-- The partials kernel comes to its end. -/
theorem splitKPartials_launches (spec : Bf16SingleDecodeSplitKSpec) (query key value : Nat → K)
    (workspace : Nat → Ext K) : ∃ filled, WorkspaceLaunch ⟨spec.partialStateCount, 32⟩
      ((extOps K).splitKPartials spec.decode.kvLen spec.decode.numQueryHeads spec.decode.numKvHeads
        spec.partitions (.fin (scaleLog2 K)) (finArray query) (finArray key) (finArray value))
      workspace filled := by
  obtain ⟨states, hstates⟩ := splitKPartials_exact spec query key value
  exact ⟨_, _, fun p hp lane hl => (hstates p hp).2 lane hl, _, List.Perm.refl _, rfl⟩

/-- The direct plan and the split-K plan of a decode both leave the output and the log-sum-exp of the
single-pass reference, and no other, whatever the workspace and the shared memory held. -/
theorem singleDecodePlans_eq_reference (spec : Bf16SingleDecodeSplitKSpec)
    (query key value output lse : Slice K) (hq : query.len = spec.decode.queryNumel)
    (hk : key.len = spec.decode.kvNumel) (hv : value.len = spec.decode.kvNumel)
    (ho : output.len = spec.decode.outputNumel) (hl : lse.len = spec.decode.lseNumel)
    {plan : Bf16SingleDecodePlan} {launch : PreparedLaunch}
    (planned : DecodeProvider.planBf16 spec.decode = .ok (plan, launch))
    {splitPlan : Bf16SingleDecodeSplitKPlan} {partialLaunch mergeLaunch : PreparedLaunch}
    (splitPlanned : DecodeProvider.planBf16SplitK spec = .ok (splitPlan, partialLaunch, mergeLaunch)) :
    ∃ out, singleDecodeBf16Reference (exactOps K) query key value output lse spec.decode = .ok out ∧
      (∀ after, SingleDecodeRun (extOps K) plan.spec launch.config (.fin (scaleLog2 K))
          (finArray query.get) (finArray key.get) (finArray value.get)
          (AttentionOut.onDevice ⟨output.get, lse.get⟩) after ↔ after = out.onDevice) ∧
      ∀ workspace after, SplitKRun (extOps K) splitPlan.spec partialLaunch.config mergeLaunch.config
          (.fin (scaleLog2 K)) (finArray query.get) (finArray key.get) (finArray value.get) workspace
          (AttentionOut.onDevice ⟨output.get, lse.get⟩) after ↔ after = out.onDevice := by
  obtain ⟨rfl, config⟩ := DecodeProvider.planBf16_eq_ok planned
  obtain ⟨rfl, partials, merge⟩ := DecodeProvider.planBf16SplitK_eq_ok splitPlanned
  obtain ⟨out, reference, filled⟩ := singleDecodeBf16Reference_exact spec.decode hq hk hv ho hl
  have served : servedOut (spec.decode.headRows query.get key.get value.get)
      (AttentionOut.onDevice ⟨output.get, lse.get⟩) = out.onDevice :=
    servedOut_filled filled (fun head hh => if_pos hh)
      fun head outside => if_neg (Nat.not_lt.mpr outside)
  refine ⟨out, reference, fun after => ?_, fun workspace after => ?_⟩
  · rw [config, SingleDecodeRun, (singleDecode_serves spec.decode _ _ _).rowLaunch_iff, served]
  · rw [partials, merge, SplitKRun]
    constructor
    · rintro ⟨filled, mergeStates, partials, launch⟩
      rw [(splitKMerge_serves spec _ _ _ partials mergeStates).rowLaunch_iff, served] at launch
      exact launch
    · rintro rfl
      obtain ⟨filled, partials⟩ :=
        splitKPartials_launches spec query.get key.get value.get workspace
      refine ⟨filled, fun _ _ => .nan, partials, ?_⟩
      rw [(splitKMerge_serves spec _ _ _ partials _).rowLaunch_iff, served]

end Single

theorem singleDecodePlans_eq_reference_twoPartition :
    ∃ out : AttentionOut ℝ ℝ,
      SingleDecodeRun (extOps ℝ) twoPartitionSpec.decode ⟨1, 32⟩ (.fin (scaleLog2 ℝ))
        (finArray fun i => i) (finArray fun i => i + 1) (finArray fun i => 2 * i)
        (AttentionOut.onDevice ⟨fun _ => 7, fun _ => 7⟩) out.onDevice ∧
      SplitKRun (extOps ℝ) twoPartitionSpec ⟨2, 32⟩ ⟨1, 256⟩ (.fin (scaleLog2 ℝ))
        (finArray fun i => i) (finArray fun i => i + 1) (finArray fun i => 2 * i) (fun _ => .nan)
        (AttentionOut.onDevice ⟨fun _ => 7, fun _ => 7⟩) out.onDevice := by
  obtain ⟨out, -, direct, splitK⟩ := singleDecodePlans_eq_reference twoPartitionSpec
    ⟨128, fun i => (i : ℝ)⟩ ⟨256, fun i => i + 1⟩ ⟨256, fun i => 2 * i⟩ ⟨128, fun _ => 7⟩
    ⟨1, fun _ => 7⟩ rfl rfl rfl rfl rfl
    rfl
    rfl
  exact ⟨out, (direct _).mpr rfl, (splitK _ _).mpr rfl⟩

/-! ## Paged decode -/

section Paged

variable {K : Type} [Field K] [LinearOrder K] [ExactExp K]

/-- Inputs of the host, as the device holds them. -/
def PagedDecodeInputs.exact (query keyPages valuePages : Nat → K)
    (pageIndptr pageIndices lastPageLen : Slice Int32) : PagedDecodeInputs (Ext K) (Ext K) where
  softmaxScaleLog2 := .fin (scaleLog2 K)
  query := finArray query
  keyPages := finArray keyPages
  valuePages := finArray valuePages
  pageIndptr
  pageIndices
  lastPageLen

open Classical in
/-- The attention of the rows whose requests are valid. -/
noncomputable def Bf16PagedBatchDecodeSpec.servedRows (spec : Bf16PagedBatchDecodeSpec)
    (query keyPages valuePages : Nat → K) (pageIndptr pageIndices lastPageLen : Slice Int32)
    (row : Nat) : Option (RowValue (Ext K) (Ext K)) :=
  if DecodeRowValid spec pageIndptr pageIndices lastPageLen row then
    some (attentionRow (spec.tokensOfRow query keyPages valuePages pageIndptr pageIndices lastPageLen
      row))
  else none

variable [IsStrictOrderedRing K] {spec : Bf16PagedBatchDecodeSpec}
  {pageIndptr pageIndices lastPageLen : Slice Int32}
  (indptrLen_eq : pageIndptr.len = spec.batchSize + 1) (tailLen_eq : lastPageLen.len = spec.batchSize)
  (query keyPages valuePages : Nat → K)
include indptrLen_eq tailLen_eq

theorem pagedBatchDecodeDirect_serves : ServesRows ⟨spec.lseNumel, 32⟩
    ((extOps K).pagedBatchDecodeDirect spec.batchSize spec.maxNumPages spec.numQueryHeads
      spec.numKvHeads (.fin (scaleLog2 K)) (finArray query) (finArray keyPages) (finArray valuePages)
      pageIndptr pageIndices lastPageLen)
    (spec.servedRows query keyPages valuePages pageIndptr pageIndices lastPageLen) where
  warp := le_rfl
  returns row h lane hl := by
    have loops := loopsReturn_exact query keyPages valuePages
    by_cases valid : PageRequestValid spec.batchSize spec.maxNumPages pageIndptr pageIndices
      lastPageLen (row / spec.numQueryHeads)
    · rw [pagedBatchDecodeDirect_served indptrLen_eq tailLen_eq h loops hl valid,
        Bf16PagedBatchDecodeSpec.servedRows, if_pos ⟨h, valid⟩]
      exact directRow_exact query keyPages valuePages row _ valid.kvLen_pos hl
    · rw [pagedBatchDecodeDirect_unserved indptrLen_eq tailLen_eq h loops hl valid,
        Bf16PagedBatchDecodeSpec.servedRows, if_neg fun live => valid live.2]
      rfl
  inside row outside := if_neg fun live => absurd live.1 (Nat.not_lt.mpr outside)

theorem pagedBatchDecodeTokenParallel_serves (pageIndices : Slice Int32)
    (partialStates : Nat → Nat → Ext K) :
    ServesRows ⟨spec.lseNumel, 256⟩
      (fun block => (extOps K).pagedBatchDecodeTokenParallel spec.batchSize spec.maxNumPages
        spec.numQueryHeads spec.numKvHeads (.fin (scaleLog2 K)) (finArray query) (finArray keyPages)
        (finArray valuePages) pageIndptr pageIndices lastPageLen (partialStates block) block)
      (spec.servedRows query keyPages valuePages pageIndptr pageIndices lastPageLen) where
  warp := show 32 ≤ 256 by decide
  returns row h thread _ := by
    by_cases valid : PageRequestValid spec.batchSize spec.maxNumPages pageIndptr pageIndices
      lastPageLen (row / spec.numQueryHeads)
    · rw [pagedBatchDecodeTokenParallel_served indptrLen_eq tailLen_eq h _ _ valid,
        Bf16PagedBatchDecodeSpec.servedRows, if_pos ⟨h, valid⟩]
      have block := tokenParallelRow_exact (show 0 < pagedBatchDecodeWarpsPerBlock by decide)
        (mergeAfterFirst_appends (by decide) ⟨.fin 0, .fin 0, fun _ => .fin 0⟩) query keyPages
        valuePages row (spec.rowOffset pageIndptr pageIndices row) 0 valid.kvLen_pos
        (partialStates row) thread
      rw [Nat.zero_add] at block
      exact block
    · rw [pagedBatchDecodeTokenParallel_unserved indptrLen_eq tailLen_eq h _ _ valid,
        Bf16PagedBatchDecodeSpec.servedRows, if_neg fun live => valid live.2]
      rfl
  inside row outside := if_neg fun live => absurd live.1 (Nat.not_lt.mpr outside)

/-- A paged launch has one outcome, whichever algorithm the shape asks for. -/
theorem pagedBatchDecodeRun_iff {before after : AttentionOut (Ext K) (Ext K)} :
    PagedBatchDecodeRun (extOps K) spec ⟨spec.lseNumel, (pagedBatchDecodeAlgorithm spec).threads⟩
        (.exact query keyPages valuePages pageIndptr pageIndices lastPageLen) before after ↔
      after = servedOut
        (spec.servedRows query keyPages valuePages pageIndptr pageIndices lastPageLen) before := by
  unfold PagedBatchDecodeRun
  cases pagedBatchDecodeAlgorithm spec with
  | direct =>
    exact (pagedBatchDecodeDirect_serves indptrLen_eq tailLen_eq query keyPages
      valuePages).rowLaunch_iff
  | tokenParallel8 =>
    have serves := pagedBatchDecodeTokenParallel_serves indptrLen_eq tailLen_eq query keyPages
      valuePages pageIndices
    constructor
    · rintro ⟨partialStates, launch⟩
      exact (serves partialStates).rowLaunch_iff.mp launch
    · intro eq
      exact ⟨fun _ _ => .nan, (serves _).rowLaunch_iff.mpr eq⟩

variable (spec pageIndptr pageIndices lastPageLen) {plan : Bf16PagedBatchDecodePlan}
  {launch : PreparedLaunch} (planned : DecodeProvider.planBf16PagedBatch spec = .ok (plan, launch))
include planned

/-- Whatever the page table holds, a paged plan has one outcome: a request that is valid by itself gets
the attention of its own tokens, and all results of the other requests are as before. -/
theorem pagedBatchDecodePlan_isolates (before : AttentionOut (Ext K) (Ext K)) :
    ∃ after, (∀ other, PagedBatchDecodeRun (extOps K) plan.spec launch.config
        (.exact query keyPages valuePages pageIndptr pageIndices lastPageLen) before other ↔
          other = after) ∧
      (∀ request < spec.batchSize, ∀ head < spec.numQueryHeads,
        (PageRequestValid spec.batchSize spec.maxNumPages pageIndptr pageIndices lastPageLen request →
          let tokens := pagedTokens query keyPages valuePages pageIndptr pageIndices spec.numKvHeads
            request (request * spec.numQueryHeads + head) (head / spec.gqaGroupSize) 0
            (pagedKvLen pageIndptr lastPageLen request)
          after.lse (request * spec.numQueryHeads + head) = .fin (attentionLse tokens) ∧
            ∀ c : Fin 128, after.output ((request * spec.numQueryHeads + head) * 128 + c) =
              .fin (attentionMean tokens c)) ∧
        (¬ PageRequestValid spec.batchSize spec.maxNumPages pageIndptr pageIndices lastPageLen
            request →
          after.lse (request * spec.numQueryHeads + head) =
              before.lse (request * spec.numQueryHeads + head) ∧
            ∀ c : Fin 128, after.output ((request * spec.numQueryHeads + head) * 128 + c) =
              before.output ((request * spec.numQueryHeads + head) * 128 + c))) ∧
      ∀ row, spec.lseNumel ≤ row → after.lse row = before.lse row ∧
        ∀ i, i / 128 = row → after.output i = before.output i := by
  obtain ⟨rfl, config⟩ := DecodeProvider.planBf16PagedBatch_eq_ok planned
  let rows := spec.servedRows query keyPages valuePages pageIndptr pageIndices lastPageLen
  refine ⟨servedOut rows before, fun other => ?_, fun request hr head hh => ⟨fun valid => ?_,
    fun other => ?_⟩, fun row outside => servedOut_none (if_neg fun live => ?_) before⟩
  · rw [config]
    exact pagedBatchDecodeRun_iff indptrLen_eq tailLen_eq query keyPages valuePages
  · have live : DecodeRowValid spec pageIndptr pageIndices lastPageLen
        (request * spec.numQueryHeads + head) :=
      ⟨rowMajor_lt hr hh, by rwa [row_div hh]⟩
    have value : rows (request * spec.numQueryHeads + head) = some (attentionRow (spec.tokensOfRow
      query keyPages valuePages pageIndptr pageIndices lastPageLen
      (request * spec.numQueryHeads + head))) := if_pos live
    rw [Bf16PagedBatchDecodeSpec.tokensOfRow, row_div hh, row_mod hh] at value
    obtain ⟨lse, output⟩ := servedOut_some value before
    refine ⟨lse, fun c => (output c c.isLt).trans ?_⟩
    simp only [attentionRow, Fin.ofNat_val_eq_self]
  · have dead : ¬ DecodeRowValid spec pageIndptr pageIndices lastPageLen
        (request * spec.numQueryHeads + head) := fun live => other (by
      have := live.2
      rwa [row_div hh] at this)
    have untouched : rows (request * spec.numQueryHeads + head) = none := if_neg dead
    obtain ⟨lse, output⟩ := servedOut_none untouched before
    exact ⟨lse, fun c => output _ (row_div c.isLt)⟩
  · exact absurd live.1 (Nat.not_lt.mpr outside)

omit indptrLen_eq tailLen_eq in
/-- On a table that the host accepts, a paged plan leaves the memories of the reference. -/
theorem pagedBatchDecodePlan_eq_reference (query keyPages valuePages output lse : Slice K)
    (hq : query.len = spec.queryNumel) (hk : keyPages.len = spec.kvPagesNumel)
    (hv : valuePages.len = spec.kvPagesNumel) (ho : output.len = spec.outputNumel)
    (hl : lse.len = spec.lseNumel) {table : Bf16PagedBatchDecodePageTable}
    (accepted : spec.validatePageTable pageIndptr pageIndices lastPageLen = .ok table) :
    ∃ out, pagedBatchDecodeBf16Reference (exactOps K) query keyPages valuePages pageIndptr
        pageIndices lastPageLen output lse spec = .ok out ∧
      ∀ after, PagedBatchDecodeRun (extOps K) plan.spec launch.config
          (.exact query.get keyPages.get valuePages.get pageIndptr pageIndices lastPageLen)
          (AttentionOut.onDevice ⟨output.get, lse.get⟩) after ↔ after = out.onDevice := by
  obtain ⟨rfl, config⟩ := DecodeProvider.planBf16PagedBatch_eq_ok planned
  obtain ⟨valid, -⟩ := spec.validatePageTable_eq_ok.mp accepted
  obtain ⟨out, reference, filled⟩ := pagedBatchDecodeBf16Reference_exact spec hq hk hv ho hl valid
  refine ⟨out, reference, fun after => ?_⟩
  rw [config, pagedBatchDecodeRun_iff valid.indptr_len valid.tail_len, servedOut_filled filled]
  · intro row h
    exact if_pos ⟨h, Memory.requestValid_of_table valid ((lt_rows_iff spec.queryHeads_pos).mpr h)⟩
  · exact fun row outside => if_neg fun live => absurd live.1 (Nat.not_lt.mpr outside)

end Paged

/-- The second request names a page that does not exist: its row stays, and the first is served. -/
theorem pagedBatchDecodePlan_isolates_twoRequest :
    ∃ (after : AttentionOut (Ext ℝ) (Ext ℝ)) (tokens : List (Token ℝ (Fin 128))),
      PagedBatchDecodeRun (extOps ℝ) twoRequestSpec ⟨2, 32⟩
        (.exact (fun i => i) (fun i => i + 1) (fun i => 2 * i) (.ofList [0, 1, 2]) (.ofList [0, 7])
          (.ofList [1, 1])) ⟨fun _ => .nan, fun _ => .nan⟩ after ∧
      after.lse 0 = .fin (attentionLse tokens) ∧ after.lse 1 = .nan := by
  obtain ⟨after, run, rows, -⟩ := pagedBatchDecodePlan_isolates twoRequestSpec
    (.ofList [0, 1, 2]) (.ofList [0, 7]) (.ofList [1, 1]) rfl rfl (fun i => (i : ℝ))
    (fun i => i + 1) (fun i => 2 * i) rfl ⟨fun _ => .nan, fun _ => .nan⟩
  have first : PageRequestValid 2 1 (.ofList [0, 1, 2]) (.ofList [0, 7]) (.ofList [1, 1]) 0 := {
    start := rfl
    total := rfl
    pageStart := by decide
    pageEnd := by decide
    inside := by decide
    tail_pos := by decide
    tail_le := by decide
    pages := fun i _ h => by
      obtain rfl : i = 0 := Nat.lt_one_iff.mp h
      decide }
  have second : ¬ PageRequestValid 2 1 (.ofList [0, 1, 2]) (.ofList [0, 7]) (.ofList [1, 1]) 1 :=
    fun valid => absurd (valid.pages 1 (by decide) (by decide)).2 (by decide)
  exact ⟨after, _, (run after).mpr rfl,
    ((rows 0 Nat.two_pos 0 Nat.one_pos).1 first).1,
    ((rows 1 Nat.one_lt_two 0 Nat.one_pos).2 second).1⟩

/-- Two requests that share a page. -/
theorem pagedBatchDecodePlan_eq_reference_sharedPage :
    ∃ out, pagedBatchDecodeBf16Reference (exactOps ℝ) ⟨256, fun i => i⟩ ⟨2048, fun i => i + 1⟩
        ⟨2048, fun i => 2 * i⟩ (.ofList [0, 1, 2]) (.ofList [0, 0]) (.ofList [1, 2])
        ⟨256, fun _ => 0⟩ ⟨2, fun _ => 0⟩ twoRequestSpec = .ok out ∧
      PagedBatchDecodeRun (extOps ℝ) twoRequestSpec ⟨2, 32⟩
        (.exact (fun i => i) (fun i => i + 1) (fun i => 2 * i) (.ofList [0, 1, 2]) (.ofList [0, 0])
          (.ofList [1, 2])) (AttentionOut.onDevice ⟨fun _ => 0, fun _ => 0⟩) out.onDevice := by
  obtain ⟨out, reference, run⟩ := pagedBatchDecodePlan_eq_reference twoRequestSpec
    (.ofList [0, 1, 2]) (.ofList [0, 0]) (.ofList [1, 2]) rfl ⟨256, fun i => (i : ℝ)⟩
    ⟨2048, fun i => i + 1⟩ ⟨2048, fun i => 2 * i⟩ ⟨256, fun _ => 0⟩ ⟨2, fun _ => 0⟩ rfl rfl rfl rfl rfl
    (twoRequestSpec.validatePageTable_ok sharedPage_wellFormed)
  exact ⟨out, reference, (run _).mpr rfl⟩

end LoomKernels
