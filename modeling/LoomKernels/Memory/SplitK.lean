import LoomKernels.Device.SplitK
import LoomKernels.Host.Gather
import LoomKernels.Memory.Preflight
import LoomKernels.Word.Specs

/-!
# Accesses of the single-decode kernels

The direct kernel and the two kernels of split-K. The partials kernel computes the range of its
partition in a formula of its own, and the merge kernel groups the partitions of a head over its
warps in another. On words of any size in which the host's specification is accepted, the first is
the host's balanced cut and the second is a proportional cut without empty groups
(`partitions_agree`).
-/

namespace LoomKernels.Memory

/-! ## Partitions -/

section Partitions

variable (w : Nat)

/-- `token_start` and `token_end` of a partition. -/
def partialTokenRange (kvLen partitions part : Nat) : Machine Empty (Nat × Nat) := do
  let baseTokens ← divWord kvLen partitions
  let remainder ← modWord kvLen partitions
  let extraBefore := if part < remainder then part else remainder
  let tokenStart ← addWord w (← mulWord w part baseTokens) extraBefore
  let tokenEnd ← addWord w (← addWord w tokenStart baseTokens) (if part < remainder then 1 else 0)
  return (tokenStart, tokenEnd)

/-- `partition_start` and `partition_end` of a warp of the merge kernel. -/
def mergeGroup (partitions warp : Nat) : Machine Empty (Nat × Nat) := do
  let activeWarps := min partitions splitKMergeWarpsPerBlock
  let partitionStart ← divWord (← mulWord w warp partitions) activeWarps
  let partitionEnd ← divWord (← mulWord w (← addWord w warp 1) partitions) activeWarps
  return (partitionStart, partitionEnd)

variable {w}

/-- The range of a partition is a cell of the balanced cut. -/
theorem partialTokenRange_ok {kvLen partitions part : Nat} (h : part < partitions)
    (fits : kvLen < 2 ^ w) : partialTokenRange w kvLen partitions part =
      .ok (balancedCut kvLen partitions part, balancedCut kvLen partitions (part + 1)) := by
  have pos : 0 < partitions := Nat.zero_lt_of_lt h
  have stop := cut_le_cut (fun i _ => balancedCut_mono kvLen partitions i)
    (show part + 1 ≤ partitions from h) le_rfl
  rw [balancedCut_last pos] at stop
  have step := balancedCut_succ kvLen partitions part
  have start : part * (kvLen / partitions) +
      (if part < kvLen % partitions then part else kvLen % partitions) =
        balancedCut kvLen partitions part := by
    unfold balancedCut
    split <;> omega
  unfold partialTokenRange
  rw [divWord_ok pos, ok_bind, modWord_ok pos, ok_bind]
  generalize kvLen / partitions = base at *
  rw [mulWord_ok (by omega), ok_bind, addWord_ok (by omega), ok_bind, start, addWord_ok (by omega),
    ok_bind, addWord_ok (by omega), ok_bind, Nat.add_assoc, ← step]
  rfl

/-- The group of a warp is a cell of the proportional cut. -/
theorem mergeGroup_ok {partitions warp : Nat} (pos : 0 < partitions) (hw : warp < 8)
    (fits : partitions * 8 < 2 ^ w) : mergeGroup w partitions warp =
      .ok (floorCut partitions (min partitions 8) warp,
        floorCut partitions (min partitions 8) (warp + 1)) := by
  have active : 0 < min partitions 8 := Nat.lt_min.mpr ⟨pos, by decide⟩
  have start : warp * partitions ≤ 8 * partitions := Nat.mul_le_mul_right _ hw.le
  have stop : (warp + 1) * partitions ≤ 8 * partitions := Nat.mul_le_mul_right _ hw
  unfold mergeGroup splitKMergeWarpsPerBlock
  rw [mulWord_ok (by omega), ok_bind, divWord_ok active, ok_bind, addWord_ok (by omega), ok_bind,
    mulWord_ok (by omega), ok_bind, divWord_ok active]
  rfl

/-- Host and device cut the tokens into the same balanced partitions, and the merge kernel groups the
partitions without leaving one out; no operation of either side wraps. -/
theorem partitions_agree (spec : Word.Bf16SingleDecodeSplitKSpec w) :
    (∃ range : Nat → Nat × Nat,
      (∀ part, spec.partitionTokenRange part =
        .ok (if part < spec.partitions then some (range part) else none)) ∧
      (∀ part < spec.partitions,
        partialTokenRange w spec.decode.kvLen spec.partitions part = .ok (range part)) ∧
      Tiles range spec.partitions spec.decode.kvLen ∧ Balanced range spec.partitions) ∧
    ∃ group : Nat → Nat × Nat,
      (∀ warp < splitKMergeWarpsPerBlock, mergeGroup w spec.partitions warp = .ok (group warp)) ∧
      Tiles group (min spec.partitions splitKMergeWarpsPerBlock) spec.partitions := by
  have pos := spec.partitions_pos
  have heads : 0 < spec.decode.numQueryHeads := spec.decode.queryHeads_pos
  have kvFits : spec.decode.kvLen < 2 ^ w := by
    refine Nat.lt_of_le_of_lt (Nat.le_mul_of_pos_right _ ?_) spec.decode.kv_fits
    exact Nat.mul_pos spec.decode.kvHeads_pos (by decide)
  have partitionsFit : spec.partitions * 8 < 2 ^ w := by
    have states : spec.partitions ≤ spec.decode.numQueryHeads * spec.partitions :=
      Nat.le_mul_of_pos_left _ heads
    have fits := spec.workspace_fits
    unfold singleDecodePartialStateWidth singleDecodeHeadDim at fits
    omega
  refine ⟨⟨_, spec.partitionTokenRange_ok, fun part hp => partialTokenRange_ok hp kvFits,
    balancedCut_tiles pos spec.partitions_le, balancedCut_balanced _ _⟩, _,
    fun warp hw => mergeGroup_ok pos hw partitionsFit, ?_⟩
  exact floorCut_tiles (Nat.lt_min.mpr ⟨pos, by decide⟩) (Nat.min_le_left _ _)

end Partitions

/-! ## Kernel code -/

section Kernels

variable (kvLen numQueryHeads numKvHeads partitions : Nat)

/-- The key/value head of a query head. -/
def kvHeadOfQuery (queryHead : Nat) : Machine Empty Nat := do
  divWord queryHead (← divWord numQueryHeads numKvHeads)

/-- The loop over the tokens of a row, or of a partition of it. -/
def loadTokens (kvHead lane tokenStart tokenEnd : Nat) : KernelM Unit :=
  forEach tokenStart tokenEnd fun token => do
    loadKeyValue (← compute (kvPairOffset numKvHeads kvHead lane token))

/-- `single_decode_bf16_nhd` -/
def singleDecode (queryHead lane : Nat) : KernelM Unit := do
  if queryHead ≥ numQueryHeads ∨ lane ≥ warpThreads then return ()
  else
    let kvHead ← compute (kvHeadOfQuery numQueryHeads numKvHeads queryHead)
    let pairs ← compute (rowPairs queryHead lane)
    pairs.forM (loadWord .query)
    loadTokens numKvHeads kvHead lane 0 kvLen
    storeResult queryHead lane pairs

/-- `single_decode_bf16_nhd_split_k_partials` -/
def splitKPartials (state lane : Nat) : KernelM Unit := do
  let stateCount ← compute (mulWord 64 numQueryHeads partitions)
  if state ≥ stateCount ∨ lane ≥ warpThreads then return ()
  else
    let queryHead ← compute (divWord state partitions)
    let part ← compute (modWord state partitions)
    let kvHead ← compute (kvHeadOfQuery numQueryHeads numKvHeads queryHead)
    let (tokenStart, tokenEnd) ← compute (partialTokenRange 64 kvLen partitions part)
    let pairs ← compute (rowPairs queryHead lane)
    pairs.forM (loadWord .query)
    loadTokens numKvHeads kvHead lane tokenStart tokenEnd
    let offset ← compute (mulWord 64 state singleDecodePartialStateWidth)
    storePartialState .workspace offset lane

/-- The loop of a warp of the merge kernel over its group. A warp that is not active has no pass. -/
def mergePartitions (workspaceLen queryHead warp lane : Nat) : KernelM Unit := do
  let (partitionStart, partitionEnd) ← compute (mergeGroup 64 partitions warp)
  let active := warp < min partitions splitKMergeWarpsPerBlock
  forEach partitionStart (if active then partitionEnd else partitionStart) fun part => do
    let offset ← compute do
      mulWord 64 (← addWord 64 (← mulWord 64 queryHead partitions) part)
        singleDecodePartialStateWidth
    readWorkspace workspaceLen offset
    readWorkspace workspaceLen (offset + 1)
    (← compute (stateComponents offset lane)).forM (readWorkspace workspaceLen)

/-- `single_decode_bf16_nhd_split_k_merge` -/
def splitKMerge (workspaceLen queryHead thread : Nat) : KernelM Unit := do
  let warp := thread / warpThreads
  let lane := thread % warpThreads
  if queryHead ≥ numQueryHeads then return ()
  else
    let activeWarps := min partitions splitKMergeWarpsPerBlock
    mergePartitions partitions workspaceLen queryHead warp lane
    if warp < activeWarps then
      storePartialState .partialStates (← compute (mulWord 64 warp singleDecodePartialStateWidth))
        lane
    if warp ≠ 0 then return ()
    else
      forEach 0 activeWarps fun warpState => do
        let offset ← compute (mulWord 64 warpState singleDecodePartialStateWidth)
        loadPartialState .partialStates offset lane
      storeResult queryHead lane (← compute (rowPairs queryHead lane))

end Kernels

/-! ## Kernels are contained -/

section Contained

variable {spec : Bf16SingleDecodeSpec} {len : KernelBuffer → Nat} {own : Nat → Prop}

theorem kvHeadOfQuery_ok {queryHead : Nat} (h : queryHead < spec.numQueryHeads) :
    ∃ kvHead < spec.numKvHeads,
      kvHeadOfQuery spec.numQueryHeads spec.numKvHeads queryHead = .ok kvHead := by
  have le : spec.numKvHeads ≤ spec.numQueryHeads :=
    Nat.le_of_dvd spec.queryHeads_pos (Nat.dvd_of_mod_eq_zero spec.group)
  refine ⟨_, kvHead_lt spec.group h, ?_⟩
  rw [kvHeadOfQuery, divWord_ok spec.kvHeads_pos, ok_bind,
    divWord_ok (Nat.div_pos le spec.kvHeads_pos)]

theorem loadTokens_safe {rows slots numKvHeads kvHead lane tokenStart tokenEnd : Nat}
    (lens : AttentionLens len rows slots numKvHeads) (hk : kvHead < numKvHeads) (hl : lane < 32)
    (le : tokenEnd ≤ slots) :
    Safe (Contained len own) (loadTokens numKvHeads kvHead lane tokenStart tokenEnd) (· = ()) := by
  refine safe_forEach fun token _ ht => ?_
  have ht := ht.trans_le le
  refine (safe_compute (kvPairOffset_ok ht hk (by omega) lens.kv_fits)).step ?_
  exact loadKeyValue_safe lens ht hk hl

section Direct

variable (lens : AttentionLens len spec.numQueryHeads spec.kvLen spec.numKvHeads)
  (results : ResultLens len spec.numQueryHeads)
include lens results

theorem singleDecode_safe (queryHead lane : Nat) :
    Safe (Contained len (OwnRow queryHead))
      (singleDecode spec.kvLen spec.numQueryHeads spec.numKvHeads queryHead lane)
      fun _ => True := by
  unfold singleDecode
  split
  · exact safe_pure trivial
  rename_i inside
  rw [not_or, not_le, not_le] at inside
  obtain ⟨hq, hl⟩ : queryHead < spec.numQueryHeads ∧ lane < 32 := inside
  have owned : OwnRow queryHead queryHead := rfl
  obtain ⟨kvHead, hk, head⟩ := kvHeadOfQuery_ok hq
  refine (safe_compute head).step ((safe_compute (rowPairs_ok hq hl lens.query_fits)).step ?_)
  refine (loadQuery_safe lens hq hl).step ((loadTokens_safe lens hk hl le_rfl).step ?_)
  exact (storeResult_safe results hq hl owned).mono fun _ _ => trivial

end Direct

section SplitK

variable {spec : Bf16SingleDecodeSplitKSpec}

/-- A block of the partials kernel writes its own partial state only. -/
theorem splitKPartials_safe
    (lens : AttentionLens len spec.decode.numQueryHeads spec.decode.kvLen spec.decode.numKvHeads)
    (workspace : len .workspace = spec.workspaceNumel) (state lane : Nat) :
    Safe (Contained len (OwnRow state))
      (splitKPartials spec.decode.kvLen spec.decode.numQueryHeads spec.decode.numKvHeads
        spec.partitions state lane) fun _ => True := by
  have pos := spec.partitions_pos
  have fits : spec.partialStateCount * 130 * 4 < 2 ^ 64 := spec.workspace_fits
  refine (safe_compute (mulWord_ok (show spec.partialStateCount < 2 ^ 64 by omega))).step ?_
  split
  · exact safe_pure trivial
  rename_i inside
  rw [not_or, not_le, not_le] at inside
  obtain ⟨hs, hl⟩ : state < spec.partialStateCount ∧ lane < 32 := inside
  have hq : state / spec.partitions < spec.decode.numQueryHeads := (lt_rows_iff pos).mpr hs
  have hp : state % spec.partitions < spec.partitions := Nat.mod_lt _ pos
  have kvFits : spec.decode.kvLen < 2 ^ 64 := by
    refine Nat.lt_of_le_of_lt (Nat.le_mul_of_pos_right _ ?_) spec.decode.kv_fits
    exact Nat.mul_pos spec.decode.kvHeads_pos (by decide)
  have inside := (balancedCut_tiles pos spec.partitions_le).inside _ hp
  obtain ⟨kvHead, hk, head⟩ := kvHeadOfQuery_ok hq
  refine (safe_compute (divWord_ok pos)).step ((safe_compute (modWord_ok pos)).step ?_)
  refine (safe_compute head).step ((safe_compute (partialTokenRange_ok hp kvFits)).step ?_)
  refine (safe_compute (rowPairs_ok hq hl lens.query_fits)).step ((loadQuery_safe lens hq hl).step ?_)
  refine (loadTokens_safe lens hk hl inside).step ?_
  have cell : (state + 1) * 130 ≤ len .workspace := by
    rw [workspace]
    exact Nat.mul_le_mul_right 130 hs
  have workspaceFits : len .workspace < 2 ^ 64 := by
    rw [workspace]
    exact Nat.lt_of_le_of_lt (Nat.le_mul_of_pos_right _ (by decide)) fits
  have owned : OwnRow state state := rfl
  unfold singleDecodePartialStateWidth singleDecodeHeadDim
  refine (safe_compute (mulWord_ok (by omega))).step ?_
  exact (storePartialState_safe hl rfl cell workspaceFits fun _ => ⟨owned, rfl⟩).mono
    fun _ _ => trivial

theorem mergePartitions_safe (workspace : len .workspace = spec.workspaceNumel)
    {queryHead warp lane : Nat} (hq : queryHead < spec.decode.numQueryHeads) (hw : warp < 8)
    (hl : lane < 32) :
    Safe (Contained len own)
      (mergePartitions spec.partitions (len .workspace) queryHead warp lane) (· = ()) := by
  have pos := spec.partitions_pos
  have fits : spec.partialStateCount * 130 * 4 < 2 ^ 64 := spec.workspace_fits
  have states : spec.partitions ≤ spec.partialStateCount :=
    Nat.le_mul_of_pos_left _ spec.decode.queryHeads_pos
  have tiles := floorCut_tiles (n := spec.partitions) (Nat.lt_min.mpr ⟨pos, by decide⟩)
    (Nat.min_le_left spec.partitions 8)
  refine (safe_compute (mergeGroup_ok pos hw (by omega))).step (safe_forEach fun part lo hi => ?_)
  have hp : part < spec.partitions := by
    split at hi
    · rename_i active
      exact hi.trans_le (tiles.inside warp (by simpa using active))
    · exact absurd lo (Nat.not_le.mpr hi)
  have cell : (queryHead * spec.partitions + part + 1) * 130 ≤ len .workspace := by
    rw [workspace]
    exact Nat.mul_le_mul_right 130 (rowMajor_lt hq hp)
  have workspaceFits : len .workspace < 2 ^ 64 := by
    rw [workspace]
    exact Nat.lt_of_le_of_lt (Nat.le_mul_of_pos_right _ (by decide)) fits
  have offset : (do
      mulWord 64 (← addWord 64 (← mulWord 64 queryHead spec.partitions) part)
        singleDecodePartialStateWidth : Machine Empty Nat) =
      .ok ((queryHead * spec.partitions + part) * 130) := by
    unfold singleDecodePartialStateWidth singleDecodeHeadDim
    rw [mulWord_ok (by omega), ok_bind, addWord_ok (by omega), ok_bind, mulWord_ok (by omega)]
  refine (safe_compute offset).step ?_
  refine (readWorkspace_safe (by omega)).step ((readWorkspace_safe (by omega)).step ?_)
  refine (safe_compute (stateComponents_ok hl (by omega))).step (safe_forM fun i mem => ?_)
  obtain ⟨lo, hi⟩ := stateComponents_mem hl mem
  exact readWorkspace_safe (by omega)

theorem splitKMerge_safe (results : ResultLens len spec.decode.numQueryHeads)
    (workspace : len .workspace = spec.workspaceNumel) (shared : len .partialStates = 8 * 130)
    (queryHead : Nat) {thread : Nat} (ht : thread < 256) :
    Safe (Contained len (OwnRow queryHead))
      (splitKMerge spec.decode.numQueryHeads spec.partitions (len .workspace) queryHead thread)
      fun _ => True := by
  have hl : thread % 32 < 32 := Nat.mod_lt _ (by decide)
  have hw : thread / 32 < 8 := by omega
  unfold splitKMerge splitKMergeWarpsPerBlock warpThreads singleDecodePartialStateWidth
    singleDecodeHeadDim
  dsimp only
  split
  · exact safe_pure trivial
  rename_i inside
  have hq : queryHead < spec.decode.numQueryHeads := Nat.lt_of_not_le inside
  have owned : OwnRow queryHead queryHead := rfl
  have finish : Safe (Contained len (OwnRow queryHead))
      (if thread / 32 ≠ 0 then pure ()
      else do
        forEach 0 (min spec.partitions 8) fun warpState => do
          let offset ← compute (mulWord 64 warpState 130)
          loadPartialState .partialStates offset (thread % 32)
        storeResult queryHead (thread % 32) (← compute (rowPairs queryHead (thread % 32))))
      fun _ => True := by
    split
    · exact safe_pure trivial
    refine Safe.step (r := ()) (safe_forEach fun warpState _ hi => ?_) ?_
    · have small := Nat.lt_of_lt_of_le hi (Nat.min_le_right spec.partitions 8)
      refine (safe_compute (mulWord_ok (by omega))).step ?_
      exact loadPartialState_safe hl rfl (by omega) (by omega)
    · refine (safe_compute (rowPairs_ok hq hl spec.decode.query_fits)).step ?_
      exact (storeResult_safe results hq hl owned).mono fun _ _ => trivial
  refine (mergePartitions_safe workspace hq hw hl).step ?_
  split
  · refine (safe_compute (mulWord_ok (by omega))).step ?_
    refine (storePartialState_safe hl rfl (by omega) (by omega) fun results => ?_).step finish
    cases results
  · exact finish

end SplitK

end Contained

end LoomKernels.Memory
