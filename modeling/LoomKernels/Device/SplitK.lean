import LoomKernels.Device.PagedTokenParallel
import LoomKernels.Host.SingleDecode

/-!
# Split-K kernels

The partials kernel leaves one state for each query head and partition in the workspace. The merge
kernel has two levels: each active warp merges a contiguous group of a head's partitions, and warp
zero merges the states of the warps. There are never more partitions than tokens, and never more
active warps than partitions, so every state that is merged has tokens.
-/

namespace LoomKernels

/-- `SPLIT_K_MERGE_WARPS_PER_BLOCK` -/
abbrev splitKMergeWarpsPerBlock : Nat := 8

/-! ## Kernels -/

section Kernels

variable {F B : Type} (ops : DeviceOps F B)

/-- `single_decode_bf16_nhd_split_k_partials` -/
def DeviceOps.splitKPartials (kvLen numQueryHeads numKvHeads partitions : Nat) (softmaxScaleLog2 : F)
    (query key value : Nat → B) (state lane : Nat) : DeviceM (List (Nat × F)) :=
  if state ≥ numQueryHeads * partitions ∨ lane ≥ warpThreads then return []
  else do
    let queryHead := state / partitions
    let part := state % partitions
    let groupSize := numQueryHeads / numKvHeads
    let kvHead := queryHead / groupSize
    let baseTokens := kvLen / partitions
    let remainder := kvLen % partitions
    let extraBefore := if part < remainder then part else remainder
    let tokenStart := part * baseTokens + extraBefore
    let tokenEnd := tokenStart + baseTokens + if part < remainder then 1 else 0
    let s ← ops.tokenLoop softmaxScaleLog2 ops.zero query key value
      (queryHead * singleDecodeHeadDim)
      (fun token => .ok ((token * numKvHeads + kvHead) * singleDecodeHeadDim)) tokenStart tokenEnd
    return storeState (state * singleDecodePartialStateWidth) s lane

/-- The loop of one warp of the merge kernel over its group of partitions. -/
def DeviceOps.splitKMergeGroup (partitions activeWarps : Nat) (workspace : Nat → F)
    (queryHead warp : Nat) : DeviceM (SoftmaxState F Nat) :=
  let partitionStart := warp * partitions / activeWarps
  let partitionEnd := (warp + 1) * partitions / activeWarps
  mergeShared partitionStart (if warp < activeWarps then partitionEnd else partitionStart)
    (fun part => ops.mergeEvery (part == partitionStart)) ⟨ops.zero, ops.zero, fun _ => ops.zero⟩
    fun part =>
      loadState workspace ((queryHead * partitions + part) * singleDecodePartialStateWidth)

/-- `single_decode_bf16_nhd_split_k_merge`. The second level starts from the registers of warp zero,
which its first pass overwrites. -/
def DeviceOps.splitKMerge (numQueryHeads partitions : Nat) (workspace mergeStates : Nat → F)
    (queryHead thread : Nat) : DeviceM (AttentionWrites F B) :=
  if queryHead ≥ numQueryHeads then return ⟨[], []⟩
  else do
    let activeWarps := min partitions splitKMergeWarpsPerBlock
    let group := ops.splitKMergeGroup partitions activeWarps workspace queryHead
    let registers ← group (thread / warpThreads)
    ops.tokenParallelBlock activeWarps (fun warp => ops.mergeEvery (warp == 0)) registers group
      mergeStates queryHead thread

end Kernels

/-! ## Exact results -/

section Exact

variable {K : Type} [Field K] [LinearOrder K] [ExactExp K] (spec : Bf16SingleDecodeSplitKSpec)

/-- Every block of the partials kernel stores a state of its partition's tokens. -/
theorem splitKPartials_exact (query key value : Nat → K) :
    ∃ states : Nat → SoftmaxState (Ext K) Nat, ∀ state < spec.partialStateCount,
      ExtSummarises (states state).restrict (spec.stateTokens query key value state) ∧
      ∀ lane < warpThreads,
        (extOps K).splitKPartials spec.decode.kvLen spec.decode.numQueryHeads
            spec.decode.numKvHeads spec.partitions (.fin (scaleLog2 K)) (finArray query)
            (finArray key) (finArray value) state lane =
          .ok (storeState (state * singleDecodePartialStateWidth) (states state) lane) := by
  have : Nonempty (SoftmaxState (Ext K) Nat) := ⟨SoftmaxState.empty⟩
  have loops : ∀ state, ∃ s, (extOps K).tokenLoop (.fin (scaleLog2 K)) (.fin 0) (finArray query)
      (finArray key) (finArray value) (state / spec.partitions * singleDecodeHeadDim)
      (fun token => .ok ((token * spec.decode.numKvHeads +
        state / spec.partitions / spec.decode.gqaGroupSize) * singleDecodeHeadDim))
      (balancedCut spec.decode.kvLen spec.partitions (state % spec.partitions))
      (balancedCut spec.decode.kvLen spec.partitions (state % spec.partitions + 1)) = .ok s ∧
      ExtSummarises s.restrict (spec.stateTokens query key value state) := by
    intro state
    have hlt := balancedCut_lt spec.partitions_pos spec.partitions_le (state % spec.partitions)
    obtain ⟨s, hs, -, sum⟩ := tokenLoop_exact query key value
      (state / spec.partitions * singleDecodeHeadDim) (.fin 0) hlt.le fun _ _ _ => rfl
    exact ⟨s, hs, sum hlt⟩
  choose states hstates sums using loops
  refine ⟨states, fun state hs => ⟨sums state, fun lane hl => ?_⟩⟩
  have start : balancedCut spec.decode.kvLen spec.partitions (state % spec.partitions) =
      state % spec.partitions * (spec.decode.kvLen / spec.partitions) +
        if state % spec.partitions < spec.decode.kvLen % spec.partitions
          then state % spec.partitions else spec.decode.kvLen % spec.partitions := by
    unfold balancedCut
    split <;> omega
  have run := hstates state
  rw [balancedCut_succ, ← Nat.add_assoc, start] at run
  rw [DeviceOps.splitKPartials, if_neg (by
    have hs : state < spec.decode.numQueryHeads * spec.partitions := hs
    omega)]
  exact congrArg (· >>= _) run

variable {workspace : Nat → Ext K} {states : Nat → SoftmaxState (Ext K) Nat}
  {tokens : Nat → List (Token K (Fin 128))}

/-- The tokens of a warp's group of partitions. -/
def groupTokens (tokens : Nat → List (Token K (Fin 128))) (partitions activeWarps queryHead warp : Nat) :
    List (Token K (Fin 128)) :=
  (List.range' (floorCut partitions activeWarps warp)
      (floorCut partitions activeWarps (warp + 1) - floorCut partitions activeWarps warp)).flatMap
    fun part => tokens (queryHead * partitions + part)

omit [Field K] [LinearOrder K] [ExactExp K] in
/-- The groups in order are all partitions of the head. -/
theorem flatMap_groupTokens (tokens : Nat → List (Token K (Fin 128))) (partitions queryHead : Nat)
    {activeWarps : Nat} (hactive : 0 < activeWarps) :
    (List.range activeWarps).flatMap (groupTokens tokens partitions activeWarps queryHead) =
      (List.range partitions).flatMap fun part => tokens (queryHead * partitions + part) := by
  have cells := flatMap_cells fun i (_ : i < activeWarps) => floorCut_mono partitions activeWarps i
  rw [floorCut_zero, floorCut_last hactive, Nat.sub_zero, ← List.range_eq_range'] at cells
  rw [← cells, List.flatMap_assoc]
  rfl

/-- A warp of the merge kernel merges its group of partitions, which is not empty. -/
theorem splitKMergeGroup_exact {activeWarps queryHead : Nat} (hactive : 0 < activeWarps)
    (hle : activeWarps ≤ spec.partitions) (hh : queryHead < spec.decode.numQueryHeads)
    (image : ∀ a < spec.partialStateCount * singleDecodePartialStateWidth,
      workspace a = stateImage states a)
    (sums : ∀ state < spec.partialStateCount,
      ExtSummarises (states state).restrict (tokens state) ∧ tokens state ≠ []) {warp : Nat}
    (hw : warp < activeWarps) :
    (∃ m, (extOps K).splitKMergeGroup spec.partitions activeWarps workspace queryHead warp = .ok m ∧
      ExtSummarises m.restrict (groupTokens tokens spec.partitions activeWarps queryHead warp)) ∧
    groupTokens tokens spec.partitions activeWarps queryHead warp ≠ [] := by
  have hlt : floorCut spec.partitions activeWarps warp <
      floorCut spec.partitions activeWarps (warp + 1) := floorCut_lt hactive hle
  have last := cut_le_cut (fun i _ => floorCut_mono spec.partitions activeWarps i)
    (show warp + 1 ≤ activeWarps from hw) le_rfl
  rw [floorCut_last hactive] at last
  have inside : ∀ part, part < floorCut spec.partitions activeWarps (warp + 1) →
      queryHead * spec.partitions + part < spec.partialStateCount := fun part hp =>
    rowMajor_lt hh (by omega)
  refine ⟨?_, fun nil => ?_⟩
  · rw [DeviceOps.splitKMergeGroup, if_pos hw]
    refine mergeEvery_states hlt _ (fun part _ hp => ?_) fun part _ hp => (sums _ (inside part hp)).2
    rw [loadState_image image (inside part hp)]
    exact (sums _ (inside part hp)).1
  · exact (sums _ (inside _ hlt)).2
      (List.flatMap_eq_nil_iff.mp nil _ (List.mem_range'_1.mpr (by omega)))

variable [IsStrictOrderedRing K]

/-- Every block of the merge kernel computes the attention of its head's tokens. -/
theorem splitKMerge_exact (mergeStates : Nat → Ext K) {queryHead : Nat}
    (hh : queryHead < spec.decode.numQueryHeads)
    (image : ∀ a < spec.partialStateCount * singleDecodePartialStateWidth,
      workspace a = stateImage states a)
    (sums : ∀ state < spec.partialStateCount,
      ExtSummarises (states state).restrict (tokens state) ∧ tokens state ≠ []) (thread : Nat) :
    (extOps K).splitKMerge spec.decode.numQueryHeads spec.partitions workspace mergeStates queryHead
        thread =
      .ok (if thread < warpThreads then resultWrites queryHead
        ((List.range spec.partitions).flatMap fun part =>
          tokens (queryHead * spec.partitions + part)) thread
        else ⟨[], []⟩) := by
  let activeWarps := min spec.partitions splitKMergeWarpsPerBlock
  have hactive : 0 < activeWarps := Nat.lt_min.mpr ⟨spec.partitions_pos, by decide⟩
  have groups := fun (warp : Nat) (hw : warp < activeWarps) =>
    splitKMergeGroup_exact spec hactive (Nat.min_le_left _ _) hh image sums hw
  obtain ⟨registers, hregisters⟩ : ∃ m, (extOps K).splitKMergeGroup spec.partitions activeWarps
      workspace queryHead (thread / warpThreads) = .ok m := by
    by_cases hw : thread / warpThreads < activeWarps
    · exact (groups _ hw).1.imp fun _ h => h.1
    · -- an inactive warp runs no pass
      rw [DeviceOps.splitKMergeGroup, if_neg hw]
      exact ⟨_, by rw [mergeShared, forRangeM, Nat.sub_self]; rfl⟩
  have cells := flatMap_groupTokens tokens spec.partitions queryHead hactive
  have nonempty : (List.range activeWarps).flatMap
      (groupTokens tokens spec.partitions activeWarps queryHead) ≠ [] := fun nil =>
    (groups 0 hactive).2 (List.flatMap_eq_nil_iff.mp nil 0 (List.mem_range.mpr hactive))
  have merges : ∀ load : Nat → SoftmaxState (Ext K) Nat,
      (∀ p < activeWarps, ExtSummarises (load p).restrict
        (groupTokens tokens spec.partitions activeWarps queryHead p)) →
      ∃ m, mergeShared 0 activeWarps (fun warp => (extOps K).mergeEvery (warp == 0)) registers load =
          .ok m ∧
        ExtSummarises m.restrict ((List.range activeWarps).flatMap
          (groupTokens tokens spec.partitions activeWarps queryHead)) := fun load loads => by
    rw [List.range_eq_range']
    exact mergeEvery_states hactive registers (fun p _ hp => loads p hp)
      fun p _ hp => (groups p hp).2
  have block := tokenParallelBlock_exact nonempty (fun warp hw => (groups warp hw).1) merges
    mergeStates queryHead thread
  rw [cells] at block
  rw [DeviceOps.splitKMerge, if_neg (Nat.not_le.mpr hh)]
  exact (congrArg (· >>= _) hregisters).trans block

end Exact

end LoomKernels
