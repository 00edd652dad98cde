import LoomKernels.Device.TiledOwnership
import LoomKernels.Memory.Ragged

/-!
# Accesses of the tiled kernel

A block of the tiled kernel copies tiles of keys and values to shared memory, sixteen bytes at a
time, and stores partial states in the workspace. The source of a copy is clamped to the last token
of the block's partition, so that it is inside the tokens also where nothing is copied.

What is computed in words is what the model of the kernel in natural numbers computes
(`tiledWorkOf_safe`, `queryState_ok`): the walk over the requests guards its subtractions, and a plan
has so few rows that also the numbers of the surplus rows of a tile fit. From there the kernel is
contained (`raggedPrefillTiledGqa4_safe`), and so is the kernel that merges the partial states
(`raggedPrefillTiledGqa4Merge_safe`).

Numbers that are bounded by the size of a tile are plain numbers here.
-/

namespace LoomKernels.Memory

/-! ## Kernel code -/

section Guard

variable (batchSize nnzQo nnzKv numKvHeads : Nat) (qoIndptr kvIndptr : Slice Int32)

/-- One pass of the walk over the requests, with `tileIndex` tiles to go. -/
def tiledPass (request tileIndex : Nat) : KernelM (Nat ⊕ Option TiledTile) := do
  let range ← readRaggedRange qoIndptr kvIndptr request
  if range.qoStart < 0 ∨ range.qoEnd ≤ range.qoStart ∨ range.kvStart < 0 ∨
      range.kvEnd ≤ range.kvStart ∨ asUsize range.qoEnd > nnzQo ∨ asUsize range.kvEnd > nnzKv then
    return .inr none
  else
    let (qoLen, kvLen) ← compute range.lengths
    if qoLen > kvLen then return .inr none
    else
      let requestTiles := (asUsize qoLen + tiledQueryRows - 1) / tiledQueryRows
      if tileIndex < requestTiles then
        return .inr (some ⟨tileIndex, asUsize range.qoStart, asUsize qoLen, asUsize range.kvStart,
          asUsize kvLen⟩)
      else return .inl (← compute (subWord tileIndex requestTiles))

/-- The work of a block, or `none` where the kernel returns. -/
def tiledWorkOf (block : Nat) : KernelM (Option TiledBlock) := do
  let kvHead ← compute (modWord (block / tiledPartitions) numKvHeads)
  let tileIndex ← compute do divWord block (← mulWord 64 tiledPartitions numKvHeads)
  if !(← raggedEndsMatch batchSize nnzQo nnzKv qoIndptr kvIndptr) then return none
  else
    match ← searchEach (tiledPass nnzQo nnzKv qoIndptr kvIndptr) none batchSize 0 tileIndex with
    | none => return none
    | some tile =>
      let maskedTokens ← compute (subWord tile.kvLen tile.qoLen)
      return some ⟨tile, kvHead, tiledPartition block, maskedTokens⟩

end Guard

section Work

variable (numQueryHeads numKvHeads : Nat) (work : TiledBlock)

/-- `query_in_request_0` and `query_in_request_1` -/
def queryInRequest (row : Nat) : Machine Empty Nat := do
  addWord 64 (← mulWord 64 work.tile.requestTile tiledQueryRows) (row / tiledGqaGroupSize)

/-- `query_valid_0` and `query_valid_1` -/
def queryValid (row : Nat) : Machine Empty Bool := do
  return (← queryInRequest work row) < work.tile.qoLen

/-- `query_state` of a packed row, also `state_0` and `state_1`. -/
def queryState (row : Nat) : Machine Empty Nat := do
  let queryHead ← addWord 64 (← mulWord 64 work.kvHead tiledGqaGroupSize) (row % tiledGqaGroupSize)
  let queryRow ← addWord 64 work.tile.qoStart (← queryInRequest work row)
  addWord 64 (← mulWord 64 queryRow numQueryHeads) queryHead

/-- `causal_token_end` -/
def causalTokenEnd : Machine Empty Nat := do
  let queryTileStart ← mulWord 64 work.tile.requestTile tiledQueryRows
  let finalQuery := min (← addWord 64 queryTileStart tiledQueryRows) work.tile.qoLen
  addWord 64 work.maskedTokens finalQuery

/-- `partial_0` and `partial_1` -/
def partialOffset (row : Nat) : Machine Empty Nat := do
  let state ← queryState numQueryHeads work row
  mulWord 64 (← addWord 64 (← mulWord 64 state tiledPartitions) work.partition)
    singleDecodePartialStateWidth

/-- `load_tiled_kv_async` -/
def loadTiledKvAsync (buffer : KernelBuffer) (kvTileStart tokenEnd thread : Nat) : KernelM Unit :=
  forEach 0 8 fun iteration => do
    let token ← compute do
      addWord 64 (← addWord 64 kvTileStart (thread / 16)) (iteration * 8)
    let sourceToken := min token (← compute (subWord tokenEnd 1))
    let row ← compute (addWord 64 work.tile.kvStart sourceToken)
    let sourcePair ←
      compute (kvPairOffset numKvHeads work.kvHead (thread % 16 * tiledKvCopyPairs) row)
    let destinationPair := (thread + iteration * tiledThreads) * tiledKvCopyPairs
    load buffer (4 * sourcePair) tiledKvCopyBytes
    store .kvTile (4 * destinationPair) tiledKvCopyBytes

/-- The reads of `query_fragment` for one packed row. -/
def loadQueryFragment (componentTile thread row : Nat) : KernelM Unit := do
  if ← compute (queryValid work row) then
    let state ← compute (queryState numQueryHeads work row)
    let pairBase ← compute do
      addWord 64 (← mulWord 64 state bf16PairsPerHead) (componentTile * 8)
    loadWord .query (← compute (addWord 64 pairBase (laneInGroup thread)))
    loadWord .query (← compute do addWord 64 (← addWord 64 pairBase 4) (laneInGroup thread))
  else return ()

/-- The reads of `key_fragment`. -/
def loadKeyFragment (componentTile thread subtile : Nat) : KernelM Unit := do
  let pairBase := (8 * subtile + laneGroup thread) * bf16PairsPerHead + componentTile * 8
  loadWord .kvTile (pairBase + laneInGroup thread)
  loadWord .kvTile (pairBase + 4 + laneInGroup thread)

/-- The token bases of the mask. -/
def maskTokens (kvTileStart thread subtile : Nat) : Machine Empty Nat := do
  let tokenBase ← addWord 64 (← addWord 64 kvTileStart (8 * subtile)) (laneInGroup thread * 2)
  addWord 64 tokenBase 1

/-- `causal_end_0` and `causal_end_1`, before the `min`. -/
def causalEndOf (row : Nat) : Machine Empty Nat := do
  addWord 64 (← addWord 64 work.maskedTokens (← queryInRequest work row)) 1

/-- The reads of `value_fragment`, of two bytes each. -/
def loadValueFragment (thread part d : Nat) : KernelM Unit :=
  [0, 1, 8, 9].forM fun row =>
    load .kvTile (2 * ((16 * part + laneInGroup thread * 2 + row) * singleDecodeHeadDim +
      (d * 8 + laneGroup thread))) 2

/-- One pass over the tokens of a tile. -/
def tiledTilePass (tokenEnd thread kvTileStart : Nat) : KernelM Unit := do
  loadTiledKvAsync numKvHeads work .key kvTileStart tokenEnd thread
  forEach 0 (singleDecodeHeadDim / 16) fun componentTile => do
    loadQueryFragment numQueryHeads work componentTile thread (packedRow thread 0)
    loadQueryFragment numQueryHeads work componentTile thread (packedRow thread 1)
    forEach 0 8 (loadKeyFragment componentTile thread)
  let _causalEnd0 ← compute (causalEndOf work (packedRow thread 0))
  let _causalEnd1 ← compute (causalEndOf work (packedRow thread 1))
  forEach 0 8 fun subtile => do
    let _last ← compute (maskTokens kvTileStart thread subtile)
  loadTiledKvAsync numKvHeads work .value kvTileStart tokenEnd thread
  forEach 0 4 fun part => forEach 0 16 (loadValueFragment thread part)
  let _next ← compute (addWord 64 kvTileStart tiledKvRows)

/-- `write_partial_output!`, of one packed row. -/
def writePartialOutput (valid : Bool) (offset component : Nat) : KernelM Unit := do
  if valid then
    storeWord .workspace (← compute do addWord 64 (← addWord 64 offset 2) component)
    storeWord .workspace (← compute do addWord 64 (← addWord 64 offset 3) component)
  else return ()

/-- The header of a partial state. -/
def writePartialHeader (valid : Bool) (offset : Nat) : KernelM Unit := do
  if valid then
    storeWord .workspace offset
    storeWord .workspace (← compute (addWord 64 offset 1))
  else return ()

/-- The stores of a thread. -/
def writePartials (thread : Nat) : KernelM Unit := do
  let valid0 ← compute (queryValid work (packedRow thread 0))
  let valid1 ← compute (queryValid work (packedRow thread 1))
  let partial0 ← compute (partialOffset numQueryHeads work (packedRow thread 0))
  let partial1 ← compute (partialOffset numQueryHeads work (packedRow thread 1))
  forEach 0 16 fun d => do
    writePartialOutput valid0 partial0 (laneInGroup thread * 2 + 8 * d)
    writePartialOutput valid1 partial1 (laneInGroup thread * 2 + 8 * d)
  if laneInGroup thread = 0 then
    writePartialHeader valid0 partial0
    writePartialHeader valid1 partial1
  else return ()

end Work

section Kernels

variable (batchSize nnzQo nnzKv numQueryHeads numKvHeads : Nat) (qoIndptr kvIndptr : Slice Int32)

/-- `ragged_prefill_bf16_nhd_causal_tiled_gqa4` -/
def raggedPrefillTiledGqa4 (block thread : Nat) : KernelM Unit := do
  match ← tiledWorkOf batchSize nnzQo nnzKv numKvHeads qoIndptr kvIndptr block with
  | none => return ()
  | some work =>
    let causalEnd ← compute (causalTokenEnd work)
    let tokenStart ← compute (tokenCut tiledPartitions causalEnd work.partition)
    let tokenEnd ← compute (tokenCut tiledPartitions causalEnd (work.partition + 1))
    (strided tokenStart tiledKvRows tokenEnd).forM
      (tiledTilePass numQueryHeads numKvHeads work tokenEnd thread)
    writePartials numQueryHeads work thread

/-- `ragged_prefill_bf16_nhd_causal_tiled_gqa4_merge`. Whether the sum of a partial state is not zero,
on which the reads of its components depend, is a parameter. -/
def raggedPrefillTiledGqa4Merge (workspaceLen : Nat) (populated : Nat → Bool) (state lane : Nat) :
    KernelM Unit := do
  let stateCount ← compute (mulWord 64 nnzQo numQueryHeads)
  if state ≥ stateCount then return ()
  else
    forEach 0 tiledPartitions fun partition => do
      let offset ← compute do
        mulWord 64 (← addWord 64 (← mulWord 64 state tiledPartitions) partition)
          singleDecodePartialStateWidth
      readWorkspace workspaceLen offset
      readWorkspace workspaceLen (offset + 1)
      if populated partition then
        (← compute (stateComponents offset lane)).forM (readWorkspace workspaceLen)
      else return ()
    storeResult state lane (← compute (rowPairs state lane))

end Kernels

/-! ## The work of a block -/

/-- The rows and the tokens of the work of a block are inside the arrays. -/
structure WorkInside (spec : Bf16RaggedPrefillSpec) (work : TiledBlock) : Prop where
  tile_start : work.queryTileStart < work.tile.qoLen
  qo_inside : work.tile.qoStart + work.tile.qoLen ≤ spec.nnzQo
  kv_inside : work.tile.kvStart + work.tile.kvLen ≤ spec.nnzKv
  masked : work.maskedTokens + work.tile.qoLen = work.tile.kvLen
  head : work.kvHead < spec.numKvHeads
  partition : work.partition < tiledPartitions

section Guard

variable {spec : Bf16RaggedPrefillSpec} {qoIndptr kvIndptr : Slice Int32} {block : Nat}

theorem WorkInside.of_work (qoLen : qoIndptr.len = spec.batchSize + 1)
    (kvLen : kvIndptr.len = spec.batchSize + 1) {work : TiledBlock}
    (h : spec.tiledWork qoIndptr kvIndptr block = .ok (some work)) : WorkInside spec work := by
  rcases tiledWork_cases qoLen kvLen block with none | ⟨-, request, hr, i, hi, -, found⟩
  · rw [none] at h
    cases h
  rw [found, Except.ok.injEq, Option.some.injEq] at h
  subst h
  have inRange := inRange_of_lt_leading hr
  have qoLt := inRange.qo_lt
  have qoLe := inRange.qo_le
  have kvLt := inRange.kv_lt
  have kvLe := inRange.kv_le
  have causal := inRange.causal
  refine ⟨?_, ?_, ?_, Nat.sub_add_cancel causal, Nat.mod_lt _ spec.kvHeads_pos,
    Nat.mod_lt _ (by decide)⟩
  · change i * tiledQueryRows < indptrLen qoIndptr request
    unfold requestTiles tiledQueryRows at hi
    unfold tiledQueryRows
    omega
  · change indptrStart qoIndptr request + indptrLen qoIndptr request ≤ spec.nnzQo
    unfold indptrLen
    omega
  · change indptrStart kvIndptr request + indptrLen kvIndptr request ≤ spec.nnzKv
    unfold indptrLen
    omega

variable {len : KernelBuffer → Nat} {own : Nat → Prop}
  (indptr : IndptrLens len spec.batchSize qoIndptr kvIndptr)
include indptr

/-- A pass of the walk is the pass of the model in natural numbers. -/
theorem tiledPass_safe {request : Nat} (h : request < spec.batchSize) (tileIndex : Nat) :
    Safe (Contained len own) (tiledPass spec.nnzQo spec.nnzKv qoIndptr kvIndptr request tileIndex)
      fun r => tiledSearch spec.nnzQo spec.nnzKv qoIndptr kvIndptr request tileIndex = .ok r := by
  have qoLen := indptr.qo_len
  have kvLen := indptr.kv_len
  have stop : ¬ TiledRequestInRange spec.nnzQo spec.nnzKv qoIndptr kvIndptr request →
      tiledSearch spec.nnzQo spec.nnzKv qoIndptr kvIndptr request tileIndex = .ok (.inr none) :=
    fun out => tiledSearch_stop out (by omega) (by omega) tileIndex
  refine (readRaggedRange_safe indptr h).step ?_
  dsimp only [raggedRange]
  split
  · rename_i bad
    refine safe_pure (stop fun inRange => ?_)
    obtain ⟨qoNonneg, qoLt, kvNonneg, kvLt, qoLe, kvLe, -⟩ := inRange
    omega
  rename_i good
  rw [not_or, not_or, not_or, not_or, not_or] at good
  obtain ⟨qoNonneg, qoLt, kvNonneg, kvLt, qoLe, kvLe⟩ := good
  have lengths : (raggedRange qoIndptr kvIndptr request).lengths = .ok _ :=
    raggedLengths_ok (by omega) (by omega) (by omega) (by omega)
  refine (safe_compute lengths).step ?_
  dsimp only
  split
  · rename_i longer
    exact safe_pure (stop fun inRange => absurd inRange.2.2.2.2.2.2 (by omega))
  rename_i causal
  have inRange : TiledRequestInRange spec.nnzQo spec.nnzKv qoIndptr kvIndptr request := by
    unfold TiledRequestInRange
    omega
  rw [inRange.search (by omega) (by omega), asUsize_int_sub inRange.1 inRange.2.1,
    asUsize_int_sub inRange.2.2.1 inRange.2.2.2.1, asUsize_int inRange.1,
    asUsize_int inRange.2.2.1]
  change Safe _ (if tileIndex < requestTiles qoIndptr request then _ else _) _
  split
  · rename_i inside
    exact safe_pure rfl
  · rename_i later
    exact (safe_compute (subWord_ok (Nat.le_of_not_lt later))).step (safe_pure rfl)

/-- The work of a block is that of the model in natural numbers. -/
theorem tiledWorkOf_safe (headsFit : tiledPartitions * spec.numKvHeads < 2 ^ 64) (block : Nat) :
    Safe (Contained len own)
      (tiledWorkOf spec.batchSize spec.nnzQo spec.nnzKv spec.numKvHeads qoIndptr kvIndptr block)
      fun r => spec.tiledWork qoIndptr kvIndptr block = .ok r := by
  have qoLen := indptr.qo_len
  have kvLen := indptr.kv_len
  have heads : 0 < tiledPartitions * spec.numKvHeads := Nat.mul_pos (by decide) spec.kvHeads_pos
  have tileIndex : (do divWord block (← mulWord 64 tiledPartitions spec.numKvHeads) :
      Machine Empty Nat) = .ok (block / (tiledPartitions * spec.numKvHeads)) := by
    rw [mulWord_ok headsFit, ok_bind, divWord_ok heads]
  refine (safe_compute (modWord_ok spec.kvHeads_pos)).step ((safe_compute tileIndex).step ?_)
  refine (raggedEndsMatch_safe indptr).bind fun passed hpassed => ?_
  split
  · rename_i stops
    refine safe_pure (tiledWork_of_none (tiledGuard_none qoLen kvLen fun ends => ?_))
    rw [hpassed.mpr ends] at stops
    cases stops
  rename_i passes
  have ends := hpassed.mp (by simpa using passes)
  refine (safe_searchEach_searchM fun request t _ small =>
    tiledPass_safe indptr (by omega) t).bind fun found hfound => ?_
  have guard : tiledGuard spec.batchSize spec.nnzQo spec.nnzKv spec.numKvHeads qoIndptr kvIndptr
      block = .ok found := by
    rw [tiledGuard_eq qoLen kvLen, if_pos ends, startOf_zero, Nat.sub_zero]
    exact hfound
  rcases tiledGuard_cases qoLen kvLen block with none | ⟨-, request, hr, i, -, some, -⟩
  · rw [none, Except.ok.injEq] at guard
    subst guard
    exact safe_pure (tiledWork_of_none none)
  · rw [some, Except.ok.injEq] at guard
    subst guard
    have causal := (inRange_of_lt_leading hr).causal
    exact (safe_compute (subWord_ok causal)).step (safe_pure (tiledWork_of_guard hr some))

end Guard

/-! ## The numbers of a tile -/

section Numbers

variable {spec : Bf16RaggedPrefillSpec} {work : TiledBlock} (inside : WorkInside spec work)
include inside

theorem queryInRequest_small {row : Nat} (hr : row < 64) :
    work.queryInRequest row < work.tile.qoLen + 15 := by
  have start := inside.tile_start
  unfold TiledBlock.queryInRequest tiledGqaGroupSize
  omega

theorem queryInRequest_ok {row : Nat} (hr : row < 64) :
    queryInRequest work row = .ok (work.queryInRequest row) := by
  have start := inside.tile_start
  have qoInside := inside.qo_inside
  have small := spec.qo_lt
  unfold TiledBlock.queryTileStart tiledQueryRows at start
  unfold queryInRequest tiledQueryRows tiledGqaGroupSize
  rw [mulWord_ok (by omega), ok_bind, addWord_ok (by omega)]
  rfl

theorem queryValid_ok {row : Nat} (hr : row < 64) :
    queryValid work row = .ok (work.queryValid row) := by
  rw [queryValid, queryInRequest_ok inside hr]
  rfl

theorem causalEndOf_ok {row : Nat} (hr : row < 64) :
    ∃ stop, causalEndOf work row = .ok stop := by
  have query := queryInRequest_small inside hr
  have masked := inside.masked
  have qoInside := inside.qo_inside
  have kvInside := inside.kv_inside
  have qoSmall := spec.qo_lt
  have kvSmall := spec.kv_lt
  refine ⟨work.maskedTokens + work.queryInRequest row + 1, ?_⟩
  rw [causalEndOf, queryInRequest_ok inside hr, ok_bind, addWord_ok (by omega), ok_bind,
    addWord_ok (by omega)]

/-- The tokens that a tile sees are tokens of its request. -/
theorem causalTokenEnd_le : work.causalTokenEnd ≤ work.tile.kvLen := by
  have masked := inside.masked
  unfold TiledBlock.causalTokenEnd
  dsimp only
  omega

theorem causalTokenEnd_ok : causalTokenEnd work = .ok work.causalTokenEnd := by
  have start := inside.tile_start
  have qoInside := inside.qo_inside
  have kvInside := inside.kv_inside
  have masked := inside.masked
  have qoSmall := spec.qo_lt
  have kvSmall := spec.kv_lt
  unfold TiledBlock.queryTileStart tiledQueryRows at start
  unfold causalTokenEnd tiledQueryRows
  rw [mulWord_ok (by omega), ok_bind, addWord_ok (by omega), ok_bind, addWord_ok (by omega)]
  rfl

theorem partitionCut_ok {part : Nat} (h : part ≤ tiledPartitions) :
    tokenCut tiledPartitions work.causalTokenEnd part =
      .ok (floorCut work.causalTokenEnd tiledPartitions part) := by
  have le := causalTokenEnd_le inside
  have kvInside := inside.kv_inside
  have small := spec.kv_lt
  exact tokenCut_ok (by decide) h (by decide) (by omega)

theorem partitionTokenEnd_le : work.partitionTokenEnd ≤ work.tile.kvLen :=
  (floorCut_le inside.partition).trans (causalTokenEnd_le inside)

variable (group : spec.numQueryHeads = spec.numKvHeads * tiledGqaGroupSize)
include group

/-- The number of a packed row, also of a surplus row, is one of a few rows more than there are. -/
theorem queryState_small {row : Nat} (hr : row < 64) :
    work.queryState spec.numQueryHeads row < (spec.nnzQo + 16) * spec.numQueryHeads := by
  have query := queryInRequest_small inside hr
  have qoInside := inside.qo_inside
  have queryHead : work.kvHead * tiledGqaGroupSize + row % tiledGqaGroupSize < spec.numQueryHeads := by
    rw [group]
    exact rowMajor_lt inside.head (Nat.mod_lt _ (by decide))
  exact rowMajor_lt (by omega) queryHead

/-- The number of a packed row with a query is a row of results. -/
theorem queryState_lt {row : Nat} (valid : work.queryValid row = true) :
    work.queryState spec.numQueryHeads row < spec.lseNumel := by
  have query : work.queryInRequest row < work.tile.qoLen := of_decide_eq_true valid
  have qoInside := inside.qo_inside
  have queryHead : work.kvHead * tiledGqaGroupSize + row % tiledGqaGroupSize < spec.numQueryHeads := by
    rw [group]
    exact rowMajor_lt inside.head (Nat.mod_lt _ (by decide))
  exact rowMajor_lt (by omega) queryHead

variable (fits : (spec.nnzQo + 16) * spec.numQueryHeads * 1040 < 2 ^ 64)
include fits

theorem queryState_ok {row : Nat} (hr : row < 64) :
    queryState spec.numQueryHeads work row = .ok (work.queryState spec.numQueryHeads row) := by
  have query := queryInRequest_small inside hr
  have qoInside := inside.qo_inside
  have small := spec.qo_lt
  have head := inside.head
  have state := queryState_small inside group hr
  unfold TiledBlock.queryState at state
  have heads : spec.numQueryHeads ≤ (spec.nnzQo + 16) * spec.numQueryHeads :=
    Nat.le_mul_of_pos_left _ (by omega)
  rw [group] at heads
  unfold tiledGqaGroupSize at group state heads
  unfold queryState tiledGqaGroupSize
  rw [mulWord_ok (by omega), ok_bind, addWord_ok (by omega), ok_bind, queryInRequest_ok inside hr,
    ok_bind, addWord_ok (by omega), ok_bind, mulWord_ok (by omega), ok_bind, addWord_ok (by omega)]
  rfl

theorem partialOffset_ok {row : Nat} (hr : row < 64) :
    partialOffset spec.numQueryHeads work row =
      .ok (work.partialState spec.numQueryHeads row * 130) := by
  have state := queryState_small inside group hr
  have partition := inside.partition
  unfold tiledPartitions at partition
  unfold partialOffset TiledBlock.partialState tiledPartitions singleDecodePartialStateWidth
    singleDecodeHeadDim
  rw [queryState_ok inside group fits hr, ok_bind, mulWord_ok (by omega), ok_bind,
    addWord_ok (by omega), ok_bind, mulWord_ok (by omega)]

end Numbers

/-! ## Accesses -/

/-- The lengths of the arrays of the tiled kernel, and room for the numbers of the surplus rows. -/
structure TiledLens (len : KernelBuffer → Nat) (spec : Bf16RaggedPrefillSpec) : Prop extends
    AttentionLens len spec.lseNumel spec.nnzKv spec.numKvHeads where
  workspace : len .workspace = spec.lseNumel * 8 * 130
  kvTile : len .kvTile = 4096
  group : spec.numQueryHeads = spec.numKvHeads * tiledGqaGroupSize
  rows_fit : (spec.nnzQo + 16) * spec.numQueryHeads * 1040 < 2 ^ 64

/-- What a block of the tiled kernel may write: the partial states of its rows with a query. -/
def TiledOwn (spec : Bf16RaggedPrefillSpec) (work : TiledBlock) (cell : Nat) : Prop :=
  ∃ row < 64, work.queryValid row = true ∧ cell = work.partialState spec.numQueryHeads row

section Parts

variable {spec : Bf16RaggedPrefillSpec} {work : TiledBlock} {len : KernelBuffer → Nat}
  {own : Nat → Prop} {thread : Nat} (lens : TiledLens len spec) (inside : WorkInside spec work)

theorem laneGroup_lt (thread : Nat) : laneGroup thread < 8 := by
  unfold laneGroup warpThreads
  omega

include lens

theorem loadTileWord_safe {index : Nat} (h : index < 4096) :
    Safe (Contained len own) (loadWord .kvTile index) (· = ()) := by
  refine loadWord_safe ?_
  rw [lens.kvTile]
  change 4 * index + 4 ≤ 4096 * 4
  omega

theorem loadKeyFragment_safe {componentTile subtile : Nat} (hc : componentTile < 8)
    (hs : subtile < 8) :
    Safe (Contained len own) (loadKeyFragment componentTile thread subtile) (· = ()) := by
  have group := laneGroup_lt thread
  have lane := laneInGroup_lt thread
  unfold loadKeyFragment bf16PairsPerHead singleDecodeHeadDim
  exact (loadTileWord_safe lens (by omega)).step (loadTileWord_safe lens (by omega))

theorem loadValueFragment_safe {part d : Nat} (hp : part < 4) (hd : d < 16) :
    Safe (Contained len own) (loadValueFragment thread part d) (· = ()) := by
  have group := laneGroup_lt thread
  have lane := laneInGroup_lt thread
  refine safe_forM fun row mem => ?_
  have small : row ≤ 9 := by
    simp only [List.mem_cons, List.not_mem_nil, or_false] at mem
    omega
  refine safe_load ⟨?_, Nat.dvd_mul_right 2 _, nofun⟩
  change _ ≤ len .kvTile * 4
  rw [lens.kvTile]
  unfold singleDecodeHeadDim
  dsimp only
  omega

include inside

/-- The source of a copy is clamped to the tokens of the partition, and both ends are multiples of
sixteen bytes. -/
theorem loadTiledKvAsync_safe (ht : thread < 128) {buffer : KernelBuffer}
    (hb : buffer = .key ∨ buffer = .value) {kvTileStart tokenEnd : Nat} (start : kvTileStart < tokenEnd)
    (stop : tokenEnd ≤ work.tile.kvLen) :
    Safe (Contained len own)
      (loadTiledKvAsync spec.numKvHeads work buffer kvTileStart tokenEnd thread) (· = ()) := by
  have kvInside := inside.kv_inside
  have kvSmall := spec.kv_lt
  have bytes : len buffer * buffer.elementBytes = spec.nnzKv * spec.numKvHeads * 256 := by
    rcases hb with rfl | rfl
    · rw [lens.key, Nat.mul_assoc]
      rfl
    · rw [lens.value, Nat.mul_assoc]
      rfl
  refine safe_forEach fun iteration _ hi => ?_
  have token : (do addWord 64 (← addWord 64 kvTileStart (thread / 16)) (iteration * 8) :
      Machine Empty Nat) = .ok (kvTileStart + thread / 16 + iteration * 8) := by
    rw [addWord_ok (by omega), ok_bind, addWord_ok (by omega)]
  refine (safe_compute token).step ((safe_compute (subWord_ok (by omega))).step ?_)
  have clamped : work.tile.kvStart + min (kvTileStart + thread / 16 + iteration * 8) (tokenEnd - 1) <
      spec.nnzKv := by omega
  have cell := rowMajor_lt clamped inside.head
  refine (safe_compute (addWord_ok (by omega))).step ?_
  refine (safe_compute (kvPairOffset_ok clamped inside.head ?_ lens.kv_fits)).step ?_
  · unfold tiledKvCopyPairs tiledKvCopyBytes
    omega
  unfold tiledKvCopyPairs tiledKvCopyBytes tiledThreads warpThreads tiledWarps
  refine Safe.step (safe_load ⟨?_, ?_, nofun⟩) (safe_store ⟨?_, ?_, fun _ => ?_⟩)
  · change _ ≤ len buffer * buffer.elementBytes
    rw [bytes]
    dsimp only
    omega
  · dsimp only
    omega
  · change _ ≤ len .kvTile * 4
    rw [lens.kvTile]
    dsimp only
    omega
  · dsimp only
    omega
  · intro results
    cases results

theorem loadQueryFragment_safe {componentTile row : Nat} (hc : componentTile < 8) (hr : row < 64) :
    Safe (Contained len own)
      (loadQueryFragment spec.numQueryHeads work componentTile thread row) (· = ()) := by
  have lane := laneInGroup_lt thread
  have fits := lens.query_fits
  refine (safe_compute (queryValid_ok inside hr)).step ?_
  split
  · rename_i valid
    have state := queryState_lt inside lens.group valid
    have cell : (work.queryState spec.numQueryHeads row + 1) * 128 ≤ spec.lseNumel * 128 :=
      Nat.mul_le_mul_right _ state
    have word : ∀ pair < (work.queryState spec.numQueryHeads row + 1) * 64,
        Safe (Contained len own) (loadWord .query pair) (· = ()) := by
      intro pair small
      refine loadWord_safe ?_
      rw [lens.query]
      change _ ≤ spec.lseNumel * 128 * 2
      omega
    unfold bf16PairsPerHead singleDecodeHeadDim
    have pairBase : (do
        addWord 64 (← mulWord 64 (work.queryState spec.numQueryHeads row) (128 / 2))
          (componentTile * 8) : Machine Empty Nat) =
        .ok (work.queryState spec.numQueryHeads row * 64 + componentTile * 8) := by
      rw [mulWord_ok (by omega), ok_bind, addWord_ok (by omega)]
    refine (safe_compute (queryState_ok inside lens.group lens.rows_fit hr)).step ?_
    refine (safe_compute pairBase).step ((safe_compute (addWord_ok (by omega))).step ?_)
    refine (word _ (by omega)).step ?_
    have second : (do
        addWord 64 (← addWord 64 (work.queryState spec.numQueryHeads row * 64 + componentTile * 8) 4)
          (laneInGroup thread) : Machine Empty Nat) =
        .ok (work.queryState spec.numQueryHeads row * 64 + componentTile * 8 + 4 +
          laneInGroup thread) := by
      rw [addWord_ok (by omega), ok_bind, addWord_ok (by omega)]
    exact (safe_compute second).step (word _ (by omega))
  · exact safe_pure rfl

theorem tiledTilePass_safe (ht : thread < 128) {kvTileStart tokenEnd : Nat} (start : kvTileStart < tokenEnd)
    (stop : tokenEnd ≤ work.tile.kvLen) :
    Safe (Contained len own)
      (tiledTilePass spec.numQueryHeads spec.numKvHeads work tokenEnd thread kvTileStart)
      (· = ()) := by
  have kvInside := inside.kv_inside
  have kvSmall := spec.kv_lt
  have lane := laneInGroup_lt thread
  obtain ⟨end0, hend0⟩ := causalEndOf_ok inside (packedRow_lt ht (show 0 < 2 by decide))
  obtain ⟨end1, hend1⟩ := causalEndOf_ok inside (packedRow_lt ht (show 1 < 2 by decide))
  have masks : ∀ subtile < 8, maskTokens kvTileStart thread subtile =
      .ok (kvTileStart + 8 * subtile + laneInGroup thread * 2 + 1) := by
    intro subtile small
    rw [maskTokens, addWord_ok (by omega), ok_bind, addWord_ok (by omega), ok_bind,
      addWord_ok (by omega)]
  unfold tiledTilePass tiledKvRows
  refine (loadTiledKvAsync_safe lens inside ht (Or.inl rfl) start stop).step ?_
  refine Safe.step (r := ()) (safe_forEach fun componentTile _ hc => ?_) ?_
  · refine (loadQueryFragment_safe lens inside hc (packedRow_lt ht (by decide))).step ?_
    refine (loadQueryFragment_safe lens inside hc (packedRow_lt ht (by decide))).step ?_
    exact safe_forEach fun subtile _ hs => loadKeyFragment_safe lens hc hs
  refine (safe_compute hend0).step ((safe_compute hend1).step ?_)
  refine Safe.step (r := ()) (safe_forEach fun subtile _ hs => ?_) ?_
  · exact (safe_compute (masks subtile hs)).step (safe_pure rfl)
  refine (loadTiledKvAsync_safe lens inside ht (Or.inr rfl) start stop).step ?_
  refine Safe.step (r := ()) (safe_forEach fun part _ hp => ?_) ?_
  · exact safe_forEach fun d _ hd => loadValueFragment_safe lens hp hd
  · exact (safe_compute (addWord_ok (by omega))).step (safe_pure rfl)

end Parts

/-! ## Stores -/

section Stores

variable {len : KernelBuffer → Nat} {own : Nat → Prop} {cell : Nat} {valid : Bool}

theorem storeState_safe (workspace : (cell + 1) * 130 ≤ len .workspace) (owns : own cell) {i : Nat}
    (lo : cell * 130 ≤ i) (hi : i < (cell + 1) * 130) :
    Safe (Contained len own) (storeWord .workspace i) (· = ()) := by
  refine storeWord_safe ?_ fun _ => ⟨cell, owns, ?_⟩
  · change 4 * i + 4 ≤ len .workspace * 4
    omega
  · constructor
    · change cell * 520 ≤ 4 * i
      omega
    · change 4 * i + 4 ≤ (cell + 1) * 520
      omega

variable (fits : len .workspace < 2 ^ 64)
  (owned : valid = true → own cell ∧ (cell + 1) * 130 ≤ len .workspace)
include fits owned

theorem writePartialOutput_safe {component : Nat} (hc : component < 127) :
    Safe (Contained len own) (writePartialOutput valid (cell * 130) component) (· = ()) := by
  unfold writePartialOutput
  split
  · rename_i hvalid
    obtain ⟨owns, workspace⟩ := owned hvalid
    have element : ∀ header ≤ 3, (do
        addWord 64 (← addWord 64 (cell * 130) header) component : Machine Empty Nat) =
        .ok (cell * 130 + header + component) := by
      intro header small
      rw [addWord_ok (by omega), ok_bind, addWord_ok (by omega)]
    refine (safe_compute (element 2 (by decide))).step ?_
    refine (storeState_safe workspace owns (by omega) (by omega)).step ?_
    refine (safe_compute (element 3 (by decide))).step ?_
    exact storeState_safe workspace owns (by omega) (by omega)
  · exact safe_pure rfl

theorem writePartialHeader_safe :
    Safe (Contained len own) (writePartialHeader valid (cell * 130)) (· = ()) := by
  unfold writePartialHeader
  split
  · rename_i hvalid
    obtain ⟨owns, workspace⟩ := owned hvalid
    refine (storeState_safe workspace owns le_rfl (by omega)).step ?_
    refine (safe_compute (addWord_ok (by omega))).step ?_
    exact storeState_safe workspace owns (by omega) (by omega)
  · exact safe_pure rfl

end Stores

/-! ## Kernels -/

section Kernels

variable {spec : Bf16RaggedPrefillSpec} {work : TiledBlock} {qoIndptr kvIndptr : Slice Int32}
  {len : KernelBuffer → Nat} (lens : TiledLens len spec)
include lens

theorem TiledLens.workspace_fits : len .workspace < 2 ^ 64 := by
  have rows : spec.lseNumel ≤ (spec.nnzQo + 16) * spec.numQueryHeads :=
    Nat.mul_le_mul_right _ (Nat.le_add_right _ _)
  have fits := lens.rows_fit
  rw [lens.workspace]
  omega

theorem TiledLens.heads_fit : tiledPartitions * spec.numKvHeads < 2 ^ 64 := by
  have rows : spec.numQueryHeads ≤ (spec.nnzQo + 16) * spec.numQueryHeads :=
    Nat.le_mul_of_pos_left _ (by omega)
  have fits := lens.rows_fit
  have group := lens.group
  unfold tiledGqaGroupSize at group
  unfold tiledPartitions
  omega

theorem writePartials_safe (inside : WorkInside spec work) {own : Nat → Prop}
    (owns : ∀ cell, TiledOwn spec work cell → own cell) {thread : Nat} (ht : thread < 128) :
    Safe (Contained len own) (writePartials spec.numQueryHeads work thread) (· = ()) := by
  have lane := laneInGroup_lt thread
  have fits := lens.workspace_fits
  have rowLt : ∀ half < 2, packedRow thread half < 64 := fun half hh => packedRow_lt ht hh
  have owned : ∀ half < 2, work.queryValid (packedRow thread half) = true →
      own (work.partialState spec.numQueryHeads (packedRow thread half)) ∧
        (work.partialState spec.numQueryHeads (packedRow thread half) + 1) * 130 ≤
          len .workspace := by
    intro half hh valid
    refine ⟨owns _ ⟨_, rowLt half hh, valid, rfl⟩, ?_⟩
    have state := queryState_lt inside lens.group valid
    rw [lens.workspace]
    exact Nat.mul_le_mul_right 130 (rowMajor_lt state inside.partition)
  have valid : ∀ half < 2, queryValid work (packedRow thread half) = .ok _ :=
    fun half hh => queryValid_ok inside (rowLt half hh)
  have offset : ∀ half < 2, partialOffset spec.numQueryHeads work (packedRow thread half) = .ok _ :=
    fun half hh => partialOffset_ok inside lens.group lens.rows_fit (rowLt half hh)
  unfold writePartials
  refine (safe_compute (valid 0 (by decide))).step ((safe_compute (valid 1 (by decide))).step ?_)
  refine (safe_compute (offset 0 (by decide))).step ((safe_compute (offset 1 (by decide))).step ?_)
  refine Safe.step (r := ()) (safe_forEach fun d _ hd => ?_) ?_
  · refine (writePartialOutput_safe fits (owned 0 (by decide)) (by omega)).step ?_
    exact writePartialOutput_safe fits (owned 1 (by decide)) (by omega)
  split
  · refine (writePartialHeader_safe fits (owned 0 (by decide))).step ?_
    exact writePartialHeader_safe fits (owned 1 (by decide))
  · exact safe_pure rfl

/-- What a block may write, by its number. -/
def TiledBlockOwn (spec : Bf16RaggedPrefillSpec) (qoIndptr kvIndptr : Slice Int32) (block cell : Nat) :
    Prop :=
  ∃ work, spec.tiledWork qoIndptr kvIndptr block = .ok (some work) ∧ TiledOwn spec work cell

theorem raggedPrefillTiledGqa4_safe (indptr : IndptrLens len spec.batchSize qoIndptr kvIndptr)
    (block : Nat) {thread : Nat} (ht : thread < 128) :
    Safe (Contained len (TiledBlockOwn spec qoIndptr kvIndptr block))
      (raggedPrefillTiledGqa4 spec.batchSize spec.nnzQo spec.nnzKv spec.numQueryHeads
        spec.numKvHeads qoIndptr kvIndptr block thread) fun _ => True := by
  refine (tiledWorkOf_safe indptr lens.heads_fit block).bind ?_
  rintro (_ | work) hwork
  · exact safe_pure trivial
  have inside := WorkInside.of_work indptr.qo_len indptr.kv_len hwork
  have stop := partitionTokenEnd_le inside
  refine (safe_compute (causalTokenEnd_ok inside)).step ?_
  refine (safe_compute (partitionCut_ok inside inside.partition.le)).step ?_
  refine (safe_compute (partitionCut_ok inside inside.partition)).step ?_
  refine Safe.step (r := ()) (safe_forM fun kvTileStart mem => ?_) ?_
  · exact tiledTilePass_safe lens inside ht (lt_of_mem_strided (by decide) mem) stop
  · refine (writePartials_safe lens inside (fun cell owns => ?_) ht).mono fun _ _ => trivial
    exact ⟨work, hwork, owns⟩

/-- The merge kernel writes its own row only. -/
theorem raggedPrefillTiledGqa4Merge_safe (results : ResultLens len spec.lseNumel)
    (populated : Nat → Bool) (state : Nat) {lane : Nat} (hl : lane < 32) :
    Safe (Contained len (OwnRow state))
      (raggedPrefillTiledGqa4Merge spec.nnzQo spec.numQueryHeads (len .workspace) populated state lane)
      fun _ => True := by
  have fits := lens.query_fits
  have workspace := lens.workspace
  have workspaceFits := lens.workspace_fits
  unfold Bf16RaggedPrefillSpec.lseNumel at fits
  refine (safe_compute (mulWord_ok (by omega))).step ?_
  split
  · exact safe_pure trivial
  rename_i inside
  have hs : state < spec.lseNumel := Nat.lt_of_not_le inside
  have owned : OwnRow state state := rfl
  refine Safe.step (r := ()) (safe_forEach fun partition _ hp => ?_) ?_
  · have cell : (state * 8 + partition + 1) * 130 ≤ len .workspace := by
      rw [workspace]
      exact Nat.mul_le_mul_right 130 (rowMajor_lt hs hp)
    have offset : (do
        mulWord 64 (← addWord 64 (← mulWord 64 state tiledPartitions) partition)
          singleDecodePartialStateWidth : Machine Empty Nat) =
        .ok ((state * 8 + partition) * 130) := by
      unfold tiledPartitions singleDecodePartialStateWidth singleDecodeHeadDim
      rw [mulWord_ok (by omega), ok_bind, addWord_ok (by omega), ok_bind, mulWord_ok (by omega)]
    refine (safe_compute offset).step ?_
    refine (readWorkspace_safe (by omega)).step ((readWorkspace_safe (by omega)).step ?_)
    split
    · refine (safe_compute (stateComponents_ok hl (by omega))).step (safe_forM fun i mem => ?_)
      obtain ⟨lo, hi⟩ := stateComponents_mem hl mem
      exact readWorkspace_safe (by omega)
    · exact safe_pure rfl
  · refine (safe_compute (rowPairs_ok hs hl lens.query_fits)).step ?_
    exact (storeResult_safe results hs hl owned).mono fun _ _ => trivial

end Kernels

end LoomKernels.Memory
