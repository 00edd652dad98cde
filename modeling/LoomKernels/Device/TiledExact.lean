import LoomKernels.Device.TiledSoftmax
import LoomKernels.Device.TiledWorkspace
import LoomKernels.Device.TokenPartition

/-!
# The tiled plan against its reference

The partial kernel leaves in the workspace, for each row and partition, a state that stands for the
tokens of the partition that the row sees (`partialState_summarises`). The eight partitions of a row
cut its tokens without gap or overlap, also where the row ends inside a partition or before it
(`partition_tokens`), so that the merge kernel computes the attention of all tokens of the row, as the
host reference does (`tiledPlan_eq_reference`).
-/

namespace LoomKernels

section Partial

variable {spec : Bf16RaggedPrefillSpec} {qoIndptr kvIndptr : Slice Int32}

/-- The registers of a quad hold the numbers of its state. -/
theorem registerField_quad {F : Type} (regs : Nat → TiledRegisters F) (row i : Nat) :
    registerField (regs (rowThread row (quadLane i))) (rowHalf row) i =
      stateField (rowState regs row) i := by
  unfold registerField stateField quadLane
  split
  · rename_i header
    rw [if_pos (by omega)]
    rfl
  · split
    · rename_i header
      rw [if_pos (by omega)]
      rfl
    · rw [if_neg (by omega)]
      rfl

/-- The work of the block that holds a row of results in one partition. -/
def rowWork (spec : Bf16RaggedPrefillSpec) (qoIndptr kvIndptr : Slice Int32)
    (request state p : Nat) : TiledBlock :=
  workOf qoIndptr kvIndptr request (queryTile qoIndptr request (state / spec.numQueryHeads))
    (state % spec.numQueryHeads / tiledGqaGroupSize) p

/-- The packed row of a row of results. -/
def rowPlace (spec : Bf16RaggedPrefillSpec) (qoIndptr : Slice Int32) (request state : Nat) : Nat :=
  queryPackedRow qoIndptr request (state / spec.numQueryHeads) (state % spec.numQueryHeads)

/-- A block that holds a row of results does so as the work of this row, for the block's partition. -/
theorem rowWork_of_holds (group : spec.gqaGroupSize = tiledGqaGroupSize)
    (qoLen : qoIndptr.len = spec.batchSize + 1) (kvLen : kvIndptr.len = spec.batchSize + 1)
    {block row state : Nat} {work : TiledBlock}
    (hwork : spec.tiledWork qoIndptr kvIndptr block = .ok (some work)) (hrow : row < 64)
    (live : work.queryValid row = true) (number : work.queryState spec.numQueryHeads row = state) :
    spec.EndsMatch qoIndptr kvIndptr ∧ ∃ request < spec.leading qoIndptr kvIndptr,
      indptrStart qoIndptr request ≤ state / spec.numQueryHeads ∧
      state / spec.numQueryHeads < indptrStart qoIndptr (request + 1) ∧
      work = rowWork spec qoIndptr kvIndptr request state (tiledPartition block) ∧
      row = rowPlace spec qoIndptr request state := by
  rcases tiledWork_cases qoLen kvLen block with none | ⟨ends, request, hr, i, -, -, some⟩
  · rw [none] at hwork
    cases hwork
  rw [some] at hwork
  cases hwork
  rw [numQueryHeads_eq group] at number
  obtain ⟨lo, hi, tile, place, head⟩ :=
    stored_owner (Nat.mod_lt _ spec.kvHeads_pos) hrow live number.symm
  rw [← numQueryHeads_eq group] at lo hi tile place head
  refine ⟨ends, request, hr, lo, hi, ?_, place.symm⟩
  rw [rowWork, tile, head]
  rfl

variable (group : spec.gqaGroupSize = tiledGqaGroupSize) {state request p : Nat}
  (lo : indptrStart qoIndptr request ≤ state / spec.numQueryHeads)
  (hi : state / spec.numQueryHeads < indptrStart qoIndptr (request + 1))
  (hp : p < tiledPartitions)
include group lo hi hp

/-- A row of a leading request has one block in each partition. -/
theorem existsUnique_rowWork (qoLen : qoIndptr.len = spec.batchSize + 1)
    (kvLen : kvIndptr.len = spec.batchSize + 1) (ends : spec.EndsMatch qoIndptr kvIndptr)
    (hr : request < spec.leading qoIndptr kvIndptr) :
    ∃! block, block < spec.tiledBlocks ∧ spec.tiledWork qoIndptr kvIndptr block =
      .ok (some (rowWork spec qoIndptr kvIndptr request state p)) := by
  have hh : state % spec.numQueryHeads / tiledGqaGroupSize < spec.numKvHeads := by
    rw [lt_rows_iff (by decide), ← numQueryHeads_eq group]
    exact Nat.mod_lt _ spec.queryHeads_pos
  exact existsUnique_work qoLen kvLen ends hr (queryTile_lt lo hi) hh hp

variable (valid : RaggedValid spec qoIndptr kvIndptr) (hr : request < spec.batchSize)
include valid hr

/-- On validated metadata every row has. -/
theorem RaggedValid.existsUnique_rowWork : ∃! block, block < spec.tiledBlocks ∧
    spec.tiledWork qoIndptr kvIndptr block =
      .ok (some (rowWork spec qoIndptr kvIndptr request state p)) := by
  rw [← valid.leading_eq] at hr
  exact LoomKernels.existsUnique_rowWork group lo hi hp valid.qo.len valid.kv.len valid.endsMatch hr

/-- After the partial kernel the workspace holds the state of the row's quad. -/
theorem workspace_field {F : Type} (hstate : state < spec.lseNumel) (regs : Nat → Nat → TiledRegisters F) {block : Nat}
    (hb : block < spec.tiledBlocks)
    (work : spec.tiledWork qoIndptr kvIndptr block =
      .ok (some (rowWork spec qoIndptr kvIndptr request state p)))
    {order : List (Nat × F)} (perm : order.Perm
      (gridWrites spec.tiledBlocks tiledThreads (spec.tiledWrites qoIndptr kvIndptr regs)))
    (before : Nat → F) {i : Nat} (hi130 : i < singleDecodePartialStateWidth) :
    applyWrites order before
        ((state * tiledPartitions + p) * singleDecodePartialStateWidth + i) =
      stateField (rowState (regs block) (rowPlace spec qoIndptr request state)) i := by
  have number : state * tiledPartitions + p < spec.lseNumel * tiledPartitions :=
    rowMajor_lt hstate hp
  have once := workspace_once group valid regs (rowMajor_lt number hi130)
  refine once.value (fun block' hb' thread ht w hw here => ?_) perm before
  obtain ⟨-, request', hr', lo', hi', work', owner, value⟩ :=
    tiledWrites_source valid.qo.len valid.kv.len group ht hw
  have field : w.1 % singleDecodePartialStateWidth = i := by rw [here, row_mod hi130]
  have row : workspaceState w.1 = state := by
    rw [workspaceState, here, row_div hi130, row_div hp]
  have partition : workspacePartition w.1 = p := by
    rw [workspacePartition, here, row_div hi130, row_mod hp]
  rw [row] at lo' hi' work' owner value
  rw [valid.leading_eq] at hr'
  obtain rfl : request' = request := by
    rw [← valid.qo.requestOf_eq hr' lo' hi', valid.qo.requestOf_eq hr lo hi]
  rw [partition] at work'
  obtain rfl : block' = block :=
    (valid.existsUnique_rowWork group lo hi hp hr).unique ⟨hb', work'⟩ ⟨hb, work⟩
  rw [value, owner, field]
  exact registerField_quad _ _ _

end Partial

/-! ## The tokens of a row -/

section Tokens

variable {K : Type} [Field K] [LinearOrder K] [ExactExp K] {spec : Bf16RaggedPrefillSpec}
  {qoIndptr kvIndptr : Slice Int32} (query key value : Nat → K) {state request : Nat}

/-- The tokens of a row in one partition. -/
def partitionTokens (spec : Bf16RaggedPrefillSpec) (qoIndptr kvIndptr : Slice Int32)
    (query key value : Nat → K) (request state p : Nat) : List (Token K (Fin 128)) :=
  let work := rowWork spec qoIndptr kvIndptr request state p
  raggedTokens query key value spec.numKvHeads state work.kvHead
    (work.tile.kvStart + work.partitionTokenStart)
    (work.tile.kvStart + work.partitionTokenStart +
      (work.causalEnd (rowPlace spec qoIndptr request state) - work.partitionTokenStart))

/-- The tokens that a row sees end in its tile. -/
theorem causalCount_le (lo : indptrStart qoIndptr request ≤ state / spec.numQueryHeads)
    (hi : state / spec.numQueryHeads < indptrStart qoIndptr (request + 1)) (p : Nat) :
    causalCount qoIndptr (indptrLen kvIndptr request) request (state / spec.numQueryHeads) ≤
      (rowWork spec qoIndptr kvIndptr request state p).causalTokenEnd := by
  simp only [causalCount, rowWork, TiledBlock.causalTokenEnd, TiledBlock.queryTileStart, workOf,
    tileOf, queryTile, indptrLen, tiledQueryRows]
  omega

/-- Where the tokens of a row end in a partition. -/
theorem causalEnd_rowPlace (state p : Nat) :
    (rowWork spec qoIndptr kvIndptr request state p).causalEnd
        (rowPlace spec qoIndptr request state) =
      min (causalCount qoIndptr (indptrLen kvIndptr request) request (state / spec.numQueryHeads))
        (floorCut (rowWork spec qoIndptr kvIndptr request state 0).causalTokenEnd tiledPartitions
          (p + 1)) := by
  have place : queryTile qoIndptr request (state / spec.numQueryHeads) * tiledQueryRows +
      rowPlace spec qoIndptr request state / tiledGqaGroupSize =
        state / spec.numQueryHeads - indptrStart qoIndptr request := by
    simp only [queryTile, rowPlace, queryPackedRow, tiledQueryRows, tiledGqaGroupSize]
    omega
  simp only [TiledBlock.causalEnd, TiledBlock.queryInRequest, TiledBlock.queryTileStart, rowWork,
    workOf, tileOf, place, causalCount]
  rfl

/-- Where the tokens of a row in partition `p` start. -/
def rowCut (spec : Bf16RaggedPrefillSpec) (qoIndptr kvIndptr : Slice Int32)
    (request state p : Nat) : Nat :=
  indptrStart kvIndptr request +
    min (floorCut (rowWork spec qoIndptr kvIndptr request state 0).causalTokenEnd tiledPartitions p)
      (causalCount qoIndptr (indptrLen kvIndptr request) request (state / spec.numQueryHeads))

theorem rowCut_mono (state p : Nat) : rowCut spec qoIndptr kvIndptr request state p ≤
    rowCut spec qoIndptr kvIndptr request state (p + 1) := by
  have := floorCut_mono (rowWork spec qoIndptr kvIndptr request state 0).causalTokenEnd
    tiledPartitions p
  unfold rowCut
  omega

theorem rowCut_zero (state : Nat) :
    rowCut spec qoIndptr kvIndptr request state 0 = indptrStart kvIndptr request := by
  simp [rowCut]

theorem rowCut_last (lo : indptrStart qoIndptr request ≤ state / spec.numQueryHeads)
    (hi : state / spec.numQueryHeads < indptrStart qoIndptr (request + 1)) :
    rowCut spec qoIndptr kvIndptr request state tiledPartitions =
      raggedCausalEnd qoIndptr kvIndptr request (state / spec.numQueryHeads) := by
  have le : causalCount qoIndptr (indptrLen kvIndptr request) request (state / spec.numQueryHeads) ≤
      (rowWork spec qoIndptr kvIndptr request state 0).causalTokenEnd := causalCount_le lo hi 0
  simp only [rowCut, floorCut_last (show 0 < tiledPartitions by decide), Nat.min_eq_right le]
  rfl

/-- The tokens of a row in a partition: those of its part of the cut, if the row reaches the
partition, and else none. -/
theorem rowCut_cell (state p : Nat) :
    (rowCut spec qoIndptr kvIndptr request state p =
        (rowWork spec qoIndptr kvIndptr request state p).tile.kvStart +
          (rowWork spec qoIndptr kvIndptr request state p).partitionTokenStart ∧
      rowCut spec qoIndptr kvIndptr request state (p + 1) =
        (rowWork spec qoIndptr kvIndptr request state p).tile.kvStart +
          (rowWork spec qoIndptr kvIndptr request state p).causalEnd
            (rowPlace spec qoIndptr request state) ∧
      (rowWork spec qoIndptr kvIndptr request state p).partitionTokenStart ≤
        (rowWork spec qoIndptr kvIndptr request state p).causalEnd
          (rowPlace spec qoIndptr request state)) ∨
    rowCut spec qoIndptr kvIndptr request state p =
        rowCut spec qoIndptr kvIndptr request state (p + 1) ∧
      (rowWork spec qoIndptr kvIndptr request state p).causalEnd
          (rowPlace spec qoIndptr request state) ≤
        (rowWork spec qoIndptr kvIndptr request state p).partitionTokenStart := by
  have grows := floorCut_mono (rowWork spec qoIndptr kvIndptr request state 0).causalTokenEnd
    tiledPartitions p
  have start : (rowWork spec qoIndptr kvIndptr request state p).partitionTokenStart =
    floorCut (rowWork spec qoIndptr kvIndptr request state 0).causalTokenEnd tiledPartitions p := rfl
  have base : (rowWork spec qoIndptr kvIndptr request state p).tile.kvStart =
    indptrStart kvIndptr request := rfl
  rw [causalEnd_rowPlace, start, base]
  unfold rowCut
  omega

/-- A token lies in a part of the cut exactly when the row reads it in this partition. -/
theorem mem_rowCut_cell (state p : Nat) {token : Nat} :
    rowCut spec qoIndptr kvIndptr request state p ≤ token ∧
        token < rowCut spec qoIndptr kvIndptr request state (p + 1) ↔
      (rowWork spec qoIndptr kvIndptr request state p).tile.kvStart +
          (rowWork spec qoIndptr kvIndptr request state p).partitionTokenStart ≤ token ∧
        token < (rowWork spec qoIndptr kvIndptr request state p).tile.kvStart +
          (rowWork spec qoIndptr kvIndptr request state p).causalEnd
            (rowPlace spec qoIndptr request state) := by
  rcases @rowCut_cell spec qoIndptr kvIndptr request state p with ⟨first, last, -⟩ | ⟨same, none⟩
  · rw [first, last]
  · rw [same]
    exact iff_of_false (fun h => Nat.lt_irrefl _ (h.1.trans_lt h.2)) fun h =>
      Nat.lt_irrefl _ ((h.1.trans_lt h.2).trans_le (Nat.add_le_add_left none _))

/-- The partitions of a row hold its tokens, in order. -/
theorem partition_tokens (group : spec.gqaGroupSize = tiledGqaGroupSize)
    (valid : RaggedValid spec qoIndptr kvIndptr) (hr : request < spec.batchSize)
    (lo : indptrStart qoIndptr request ≤ state / spec.numQueryHeads)
    (hi : state / spec.numQueryHeads < indptrStart qoIndptr (request + 1)) :
    (List.range tiledPartitions).flatMap
        (partitionTokens spec qoIndptr kvIndptr query key value request state) =
      spec.tokensOfRow query key value qoIndptr kvIndptr state := by
  have cells := rowTokens_cells scoreLog2 query key value (state * 128)
    (fun token => (token * spec.numKvHeads + state % spec.numQueryHeads / tiledGqaGroupSize) * 128)
    fun p (_ : p < tiledPartitions) => @rowCut_mono spec qoIndptr kvIndptr request state p
  have cell : ∀ p, partitionTokens spec qoIndptr kvIndptr query key value request state p =
      rowTokens scoreLog2 query key value (state * 128)
        (fun token => (token * spec.numKvHeads + state % spec.numQueryHeads / tiledGqaGroupSize) *
          128) (rowCut spec qoIndptr kvIndptr request state p)
        (rowCut spec qoIndptr kvIndptr request state (p + 1)) := by
    intro p
    simp only [partitionTokens, raggedTokens]
    rcases @rowCut_cell spec qoIndptr kvIndptr request state p with ⟨first, last, le⟩ | ⟨same, le⟩
    · rw [first, last, Nat.add_assoc, Nat.add_sub_cancel' le]
      rfl
    · -- the row ends before this partition
      rw [same, Nat.sub_eq_zero_of_le le, Nat.add_zero, rowTokens_self, rowTokens_self]
  rw [List.flatMap_congr fun p _ => cell p, cells, rowCut_zero, rowCut_last lo hi,
    Bf16RaggedPrefillSpec.tokensOfRow, valid.qo.requestOf_eq hr lo hi, group]
  rfl

end Tokens

/-! ## Both kernels -/

section Exact

variable {K : Type} [Field K] [LinearOrder K] [ExactExp K] [IsStrictOrderedRing K]
  {spec : Bf16RaggedPrefillSpec} {qoIndptr kvIndptr : Slice Int32}
  (group : spec.gqaGroupSize = tiledGqaGroupSize) (valid : RaggedValid spec qoIndptr kvIndptr)
  (query key value : Nat → K) (shared : Nat → Nat → Ext K)
  {regs : Nat → Nat → TiledRegisters (Ext K)}
  (final : ∀ block work, spec.tiledWork qoIndptr kvIndptr block = .ok (some work) →
    regs block = ((extOps K).tiledLoop work spec.numQueryHeads spec.numKvHeads (.fin (scaleLog2 K))
      (finArray query) (finArray key) (finArray value) (shared block)).1)
  {order : List (Nat × Ext K)} (perm : order.Perm
    (gridWrites spec.tiledBlocks tiledThreads (spec.tiledWrites qoIndptr kvIndptr regs)))
  (before : Nat → Ext K) {state : Nat} (hstate : state < spec.lseNumel)
include group valid final perm hstate

/-- Each partial state of a row stands for the tokens that the row sees in its partition. -/
theorem partialState_summarises {request p : Nat} (hr : request < spec.batchSize)
    (lo : indptrStart qoIndptr request ≤ state / spec.numQueryHeads)
    (hi : state / spec.numQueryHeads < indptrStart qoIndptr (request + 1))
    (hp : p < tiledPartitions) :
    ExtSummarises (loadState (applyWrites order before)
        ((state * tiledPartitions + p) * singleDecodePartialStateWidth)).restrict
      (partitionTokens spec qoIndptr kvIndptr query key value request state p) := by
  obtain ⟨block, ⟨hb, work⟩, -⟩ := valid.existsUnique_rowWork group lo hi hp hr
  have fields := fun i hi130 => workspace_field group lo hi hp valid hr hstate regs hb work perm
    before (i := i) hi130
  have row : (rowWork spec qoIndptr kvIndptr request state p).queryValid
      (rowPlace spec qoIndptr request state) = true := queryValid_packed lo hi _
  have number : (rowWork spec qoIndptr kvIndptr request state p).queryState spec.numQueryHeads
      (rowPlace spec qoIndptr request state) = state :=
    (queryState_packed lo _ _).trans (Nat.div_add_mod' _ _)
  have holds := tiledLoop_holds _ spec.numQueryHeads spec.numKvHeads query key value row
    (shared block)
  rw [← final block _ work, number] at holds
  rw [loadState_fields fields]
  exact holds.summarises

/-- The merge kernel computes the attention of all tokens of its row. -/
theorem tiledMerge_exact {lane : Nat} (hl : lane < warpThreads) :
    (extOps K).raggedPrefillTiledGqa4Merge spec.nnzQo spec.numQueryHeads (applyWrites order before)
        state lane =
      .ok (resultWrites state (spec.tokensOfRow query key value qoIndptr kvIndptr state) lane) := by
  obtain ⟨request, ⟨hr, lo, hi⟩, -⟩ :=
    valid.qo.existsUnique_request ((lt_rows_iff spec.queryHeads_pos).mpr hstate)
  have tokens := partition_tokens query key value group valid hr lo hi
  obtain ⟨s, merged, sum⟩ := mergeNonempty_appends (show 0 < tiledPartitions by decide) _ _
    fun p hp => partialState_summarises group valid query key value shared final perm before hstate
      hr lo hi hp
  rw [tokens] at sum
  have some : spec.tokensOfRow query key value qoIndptr kvIndptr state ≠ [] :=
    rowTokens_ne_nil _ _ (lt_raggedCausalEnd _ _ _ _)
  have live : ¬ state ≥ spec.nnzQo * spec.numQueryHeads := Nat.not_le.mpr hstate
  rw [DeviceOps.raggedPrefillTiledGqa4Merge, if_neg live]
  refine bind_eq_ok.mpr ⟨s, merged, ?_⟩
  rw [storeResult_exact sum some state hl]
  rfl

end Exact

/-! ## The plan -/

/-- The partial kernel and then the merge kernel do what the reference does, whatever the workspace
and the shared memory held before. -/
def RaggedTiledMatches (K : Type) [Field K] [LinearOrder K] [ExactExp K]
    (spec : Bf16RaggedPrefillSpec) : Prop :=
  ∀ (query key value output lse : Slice K) (qoIndptr kvIndptr : Slice Int32)
    (shared : Nat → Nat → Ext K) (metadata : Bf16RaggedPrefillMetadata),
    query.len = spec.queryNumel → key.len = spec.kvNumel → value.len = spec.kvNumel →
    output.len = spec.outputNumel → lse.len = spec.lseNumel →
    spec.validateMetadata qoIndptr kvIndptr = .ok metadata →
    ∃ out, raggedPrefillBf16Reference (exactOps K) query key value qoIndptr kvIndptr output lse
        spec = .ok out ∧
      ∃ writes, (∀ block < spec.tiledBlocks, ∀ thread < tiledThreads,
        (extOps K).raggedPrefillTiledGqa4 spec.batchSize spec.nnzQo spec.nnzKv spec.numQueryHeads
          spec.numKvHeads (.fin (scaleLog2 K)) (finArray query.get) (finArray key.get)
          (finArray value.get) qoIndptr kvIndptr (shared block) block thread =
            .ok (writes block thread)) ∧
      ∀ order, order.Perm (gridWrites spec.tiledBlocks tiledThreads writes) → ∀ before,
        Computes spec.lseNumel warpThreads spec.lseNumel
          (fun state => (extOps K).raggedPrefillTiledGqa4Merge spec.nnzQo spec.numQueryHeads
            (applyWrites order before) state) out

section Plan

variable {K : Type} [Field K] [LinearOrder K] [ExactExp K] [IsStrictOrderedRing K]

/-- The tiled plan computes what the ragged prefill reference computes. -/
theorem tiledPlan_eq_reference {spec : Bf16RaggedPrefillSpec}
    (tiled : raggedPrefillAlgorithm spec = .tiledGqa4) :
    spec.launches = [⟨raggedPrefillTiledGqa4Entry, ⟨spec.tiledBlocks, tiledThreads⟩⟩,
      ⟨raggedPrefillTiledGqa4MergeEntry, ⟨spec.lseNumel, warpThreads⟩⟩] ∧
    RaggedTiledMatches K spec := by
  constructor
  · rw [Bf16RaggedPrefillSpec.launches, tiled]
    rfl
  intro query key value output lse qoIndptr kvIndptr shared metadata hq hk hv ho hl accepted
  obtain ⟨valid, -⟩ := spec.validateMetadata_eq_ok.mp accepted
  obtain ⟨out, reference, filled⟩ := raggedPrefillBf16Reference_exact spec hq hk hv ho hl valid
  obtain ⟨regs, run, final⟩ := raggedPrefillTiledGqa4_writes (extOps K) valid.qo.len valid.kv.len
    (.fin (scaleLog2 K)) (finArray query.get) (finArray key.get) (finArray value.get) shared
  refine ⟨out, reference, _, fun block _ thread _ => run block thread, fun order perm before => ?_⟩
  refine computes_of_rows le_rfl filled fun state hstate lane hlane => ?_
  rw [tiledMerge_exact (gqaGroupSize_of_tiled tiled) valid query.get key.get value.get shared final
    perm before hstate hlane, if_pos hlane]

end Plan

/-- One query row over 256 tokens, in eight partitions of 32. -/
theorem tiledPlan_eq_reference_oneTile : ∃ out,
    raggedPrefillBf16Reference (exactOps ℝ) ⟨512, fun i => i⟩ ⟨32768, fun i => i + 1⟩
      ⟨32768, fun i => 2 * i⟩ (.ofList [0, 1]) (.ofList [0, 256]) ⟨512, fun _ => 0⟩
      ⟨4, fun _ => 0⟩ oneTileSpec = .ok out ∧
    ∃ writes : Nat → Nat → List (Nat × Ext ℝ), ∀ before,
      Computes 4 warpThreads 4
        (fun state => (extOps ℝ).raggedPrefillTiledGqa4Merge 1 4
          (applyWrites (gridWrites oneTileSpec.tiledBlocks tiledThreads writes) before) state) out := by
  obtain ⟨metadata, accepted⟩ := oneTile_accepted
  have tiled : raggedPrefillAlgorithm oneTileSpec = .tiledGqa4 := by decide
  obtain ⟨out, reference, writes, -, merge⟩ := (tiledPlan_eq_reference (K := ℝ) tiled).2
    ⟨512, fun i => i⟩ ⟨32768, fun i => i + 1⟩ ⟨32768, fun i => 2 * i⟩ ⟨512, fun _ => 0⟩
    ⟨4, fun _ => 0⟩ _ _ (fun _ _ => .nan) metadata rfl rfl rfl rfl rfl accepted
  exact ⟨out, reference, writes, merge _ (List.Perm.refl _)⟩

end LoomKernels
