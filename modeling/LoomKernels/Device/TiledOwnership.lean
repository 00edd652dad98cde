import LoomKernels.Device.TiledKernel

/-!
# Who writes the workspace

Each row of results has eight partial states in the workspace of the tiled kernel, one for each
partition. This module shows who writes them, for any contents of the two indptr arrays: a partial
state of a leading request's row is written by the four lanes of one quad of one block of the grid,
every element exactly once (`tiledWrites_once`), and nothing else is written
(`tiledWrites_owner`). On validated metadata these are all elements that the merge kernel reads
(`tiledGrid_owns`).
-/

namespace LoomKernels

/-! ## The lanes of a quad -/

/-- The lane of the quad that stores number `i` of a state. -/
def quadLane (i : Nat) : Nat := if i < 2 then 0 else (i - 2) % 8 / 2

theorem quadLane_lt (i : Nat) : quadLane i < 4 := by
  unfold quadLane
  split <;> omega

/-- The numbers of a state that a lane of the quad stores. -/
def quadNumbers (lane : Nat) : List Nat :=
  ((List.range 16).flatMap fun d => [2 + (lane * 2 + 8 * d), 3 + (lane * 2 + 8 * d)]) ++
    if lane = 0 then [0, 1] else []

theorem mem_quadNumbers {lane i : Nat} (hl : lane < 4) :
    i ∈ quadNumbers lane ↔ i < singleDecodePartialStateWidth ∧ quadLane i = lane := by
  simp only [quadNumbers, quadLane, singleDecodePartialStateWidth, singleDecodeHeadDim,
    List.mem_append, List.mem_flatMap, List.mem_range, List.mem_cons, List.not_mem_nil, or_false]
  constructor
  · rintro (⟨d, hd, h⟩ | header)
    · rw [if_neg (by omega)]
      omega
    · split at header
      · simp only [List.mem_cons, List.not_mem_nil, or_false] at header
        rw [if_pos (by omega)]
        omega
      · simp at header
  · rintro ⟨hi, rfl⟩
    split
    · right
      rw [if_pos rfl]
      simp only [List.mem_cons, List.not_mem_nil, or_false]
      omega
    · left
      exact ⟨(i - 2) / 8, by omega, by omega⟩

theorem quadNumbers_nodup : ∀ lane < 4, (quadNumbers lane).Nodup := by decide

/-- Number `i` of the state in one half of a thread's registers. -/
def registerField {F : Type} (regs : TiledRegisters F) (half i : Nat) : F :=
  if i = 0 then regs.rowMax half
  else if i = 1 then regs.rowSum half
  else regs.output ((i - 2) / 8) (2 * half + (i - 2) % 2)

theorem tiledStoreHalf_eq {F : Type} (offset : Nat) (regs : TiledRegisters F) (half : Nat)
    {lane : Nat} (hl : lane < 4) :
    tiledStoreHalf offset regs half lane =
      (quadNumbers lane).map fun i => (offset + i, registerField regs half i) := by
  rw [tiledStoreHalf, quadNumbers, List.map_append, List.map_flatMap]
  congr 1
  · refine List.flatMap_congr fun d _ => ?_
    have even : registerField regs half (2 + (lane * 2 + 8 * d)) = regs.output d (2 * half) := by
      rw [registerField, if_neg (by omega), if_neg (by omega),
        show (2 + (lane * 2 + 8 * d) - 2) / 8 = d by omega,
        show (2 + (lane * 2 + 8 * d) - 2) % 2 = 0 by omega, Nat.add_zero]
    have odd : registerField regs half (3 + (lane * 2 + 8 * d)) = regs.output d (2 * half + 1) := by
      rw [registerField, if_neg (by omega), if_neg (by omega),
        show (3 + (lane * 2 + 8 * d) - 2) / 8 = d by omega,
        show (3 + (lane * 2 + 8 * d) - 2) % 2 = 1 by omega]
    rw [List.map_cons, List.map_cons, List.map_nil, even, odd, Nat.add_assoc, Nat.add_assoc]
  · split <;> rfl

/-! ## The threads of a packed row -/

/-- The thread that holds a packed row in lane `lane` of its quad. -/
def rowThread (row lane : Nat) : Nat := row / 16 * warpThreads + (row % 8 * 4 + lane)

/-- The half of the accumulators that holds a packed row. -/
def rowHalf (row : Nat) : Nat := row % 16 / 8

theorem laneInGroup_lt (thread : Nat) : laneInGroup thread < 4 := Nat.mod_lt _ (by decide)

theorem rowHalf_lt (row : Nat) : rowHalf row < 2 := by
  unfold rowHalf
  omega

theorem rowThread_lt {row lane : Nat} (hr : row < 64) (hl : lane < 4) :
    rowThread row lane < tiledThreads := by
  simp only [rowThread, warpThreads, tiledThreads, tiledWarps]
  omega

theorem packedRow_lt {thread half : Nat} (ht : thread < tiledThreads) (hh : half < 2) :
    packedRow thread half < 64 := by
  simp only [packedRow, laneGroup, warpThreads, tiledThreads, tiledWarps] at *
  omega

theorem packedRow_rowThread {row lane : Nat} (hl : lane < 4) :
    packedRow (rowThread row lane) (rowHalf row) = row := by
  simp only [packedRow, laneGroup, rowThread, rowHalf, warpThreads]
  omega

theorem laneInGroup_rowThread {row lane : Nat} (hl : lane < 4) :
    laneInGroup (rowThread row lane) = lane := by
  simp only [laneInGroup, rowThread, warpThreads]
  omega

theorem rowThread_packedRow {thread half : Nat} (hh : half < 2) :
    rowThread (packedRow thread half) (laneInGroup thread) = thread := by
  simp only [rowThread, packedRow, laneInGroup, laneGroup, warpThreads]
  omega

theorem rowHalf_packedRow {thread half : Nat} (hh : half < 2) :
    rowHalf (packedRow thread half) = half := by
  simp only [rowHalf, packedRow, laneGroup, warpThreads]
  omega

/-! ## The rows of a tile -/

section Rows

variable (qoIndptr kvIndptr : Slice Int32)

/-- The work of the block for tile `i` of a request, one head and one partition. -/
def workOf (request i head p : Nat) : TiledBlock where
  tile := tileOf qoIndptr kvIndptr request i
  kvHead := head
  partition := p
  maskedTokens := indptrLen kvIndptr request - indptrLen qoIndptr request

variable {qoIndptr kvIndptr} {request i head p row numKvHeads : Nat}

theorem queryValid_workOf : (workOf qoIndptr kvIndptr request i head p).queryValid row = true ↔
    i * tiledQueryRows + row / tiledGqaGroupSize < indptrLen qoIndptr request :=
  decide_eq_true_iff

theorem queryState_div (hh : head < numKvHeads) :
    (workOf qoIndptr kvIndptr request i head p).queryState (numKvHeads * tiledGqaGroupSize) row /
        (numKvHeads * tiledGqaGroupSize) =
      indptrStart qoIndptr request + (i * tiledQueryRows + row / tiledGqaGroupSize) :=
  row_div (rowMajor_lt hh (Nat.mod_lt _ (by decide)))

theorem queryState_mod (hh : head < numKvHeads) :
    (workOf qoIndptr kvIndptr request i head p).queryState (numKvHeads * tiledGqaGroupSize) row %
        (numKvHeads * tiledGqaGroupSize) =
      head * tiledGqaGroupSize + row % tiledGqaGroupSize :=
  row_mod (rowMajor_lt hh (Nat.mod_lt _ (by decide)))

/-- The tile of its request that holds a query row. -/
def queryTile (qoIndptr : Slice Int32) (request queryRow : Nat) : Nat :=
  (queryRow - indptrStart qoIndptr request) / tiledQueryRows

/-- The packed row that holds a query row and head. -/
def queryPackedRow (qoIndptr : Slice Int32) (request queryRow queryHead : Nat) : Nat :=
  (queryRow - indptrStart qoIndptr request) % tiledQueryRows * tiledGqaGroupSize +
    queryHead % tiledGqaGroupSize

theorem queryPackedRow_lt (qoIndptr : Slice Int32) (request queryRow queryHead : Nat) :
    queryPackedRow qoIndptr request queryRow queryHead < 64 := by
  simp only [queryPackedRow, tiledQueryRows, tiledGqaGroupSize]
  omega

variable {queryRow : Nat} (lo : indptrStart qoIndptr request ≤ queryRow)
  (hi : queryRow < indptrStart qoIndptr (request + 1))

include lo in
/-- Where a query row and head are packed. -/
theorem queryState_packed (numQueryHeads queryHead : Nat) :
    (workOf qoIndptr kvIndptr request (queryTile qoIndptr request queryRow)
        (queryHead / tiledGqaGroupSize) p).queryState numQueryHeads
        (queryPackedRow qoIndptr request queryRow queryHead) =
      queryRow * numQueryHeads + queryHead := by
  have queryIndex : indptrStart qoIndptr request +
      (queryTile qoIndptr request queryRow * tiledQueryRows +
        queryPackedRow qoIndptr request queryRow queryHead / tiledGqaGroupSize) = queryRow := by
    simp only [queryTile, queryPackedRow, tiledQueryRows, tiledGqaGroupSize]
    omega
  have head : queryHead / tiledGqaGroupSize * tiledGqaGroupSize +
      queryPackedRow qoIndptr request queryRow queryHead % tiledGqaGroupSize = queryHead := by
    simp only [queryPackedRow, tiledGqaGroupSize]
    omega
  calc _ = (indptrStart qoIndptr request +
        (queryTile qoIndptr request queryRow * tiledQueryRows +
          queryPackedRow qoIndptr request queryRow queryHead / tiledGqaGroupSize)) * numQueryHeads +
        (queryHead / tiledGqaGroupSize * tiledGqaGroupSize +
          queryPackedRow qoIndptr request queryRow queryHead % tiledGqaGroupSize) := rfl
    _ = queryRow * numQueryHeads + queryHead := by rw [queryIndex, head]

include lo hi

theorem queryTile_lt : queryTile qoIndptr request queryRow < requestTiles qoIndptr request := by
  simp only [queryTile, requestTiles, indptrLen, tiledQueryRows]
  omega

theorem queryValid_packed {head : Nat} (queryHead : Nat) :
    (workOf qoIndptr kvIndptr request (queryTile qoIndptr request queryRow) head p).queryValid
      (queryPackedRow qoIndptr request queryRow queryHead) = true := by
  rw [queryValid_workOf]
  simp only [queryTile, queryPackedRow, indptrLen, tiledQueryRows, tiledGqaGroupSize]
  omega

end Rows

/-! ## The stores of a thread -/

section Stores

variable {F : Type} {work : TiledBlock} {numQueryHeads thread a : Nat} {regs : TiledRegisters F}

/-- The partial state of a packed row. -/
def TiledBlock.partialState (work : TiledBlock) (numQueryHeads row : Nat) : Nat :=
  work.queryState numQueryHeads row * tiledPartitions + work.partition

/-- The addresses that a thread stores of one half. -/
theorem mem_tiledStoreHalf_fst {state half lane : Nat} (hl : lane < 4) :
    a ∈ (tiledStoreHalf (state * singleDecodePartialStateWidth) regs half lane).map Prod.fst ↔
      a / singleDecodePartialStateWidth = state ∧
        quadLane (a % singleDecodePartialStateWidth) = lane := by
  rw [tiledStoreHalf_eq _ _ _ hl, List.map_map, List.mem_map]
  constructor
  · rintro ⟨i, hi, rfl⟩
    obtain ⟨small, rfl⟩ := (mem_quadNumbers hl).mp hi
    exact ⟨row_div small, by rw [Function.comp_apply, row_mod small]⟩
  · rintro ⟨rfl, rfl⟩
    exact ⟨a % singleDecodePartialStateWidth,
      (mem_quadNumbers hl).mpr ⟨Nat.mod_lt _ (by decide), rfl⟩, Nat.div_add_mod' _ _⟩

theorem mem_tiledStores_fst :
    a ∈ (tiledStores work numQueryHeads regs thread).map Prod.fst ↔
      ∃ half < 2, work.queryValid (packedRow thread half) = true ∧
        a / singleDecodePartialStateWidth =
          work.partialState numQueryHeads (packedRow thread half) ∧
        quadLane (a % singleDecodePartialStateWidth) = laneInGroup thread := by
  simp only [tiledStores, List.map_flatMap, List.mem_flatMap, List.mem_range]
  refine exists_congr fun half => and_congr_right fun _ => ?_
  split
  · rename_i valid
    rw [mem_tiledStoreHalf_fst (laneInGroup_lt thread)]
    simp [valid, TiledBlock.partialState]
  · rename_i surplus
    simp [surplus]

/-- A packed row with a query is stored by the threads that hold it. -/
theorem rowThread_stores {row : Nat} (valid : work.queryValid row = true)
    (h : a / singleDecodePartialStateWidth = work.partialState numQueryHeads row) :
    a ∈ (tiledStores work numQueryHeads regs
      (rowThread row (quadLane (a % singleDecodePartialStateWidth)))).map Prod.fst := by
  have hlane := quadLane_lt (a % singleDecodePartialStateWidth)
  rw [mem_tiledStores_fst]
  refine ⟨rowHalf row, rowHalf_lt row, ?_⟩
  rw [packedRow_rowThread hlane, laneInGroup_rowThread hlane]
  exact ⟨valid, h, rfl⟩

/-- The value of a thread's store is the number of the state that its address names. -/
theorem tiledStores_value {w : Nat × F} (h : w ∈ tiledStores work numQueryHeads regs thread) :
    ∃ half < 2, work.queryValid (packedRow thread half) = true ∧
      w.1 / singleDecodePartialStateWidth = work.partialState numQueryHeads (packedRow thread half) ∧
      quadLane (w.1 % singleDecodePartialStateWidth) = laneInGroup thread ∧
      w.2 = registerField regs half (w.1 % singleDecodePartialStateWidth) := by
  obtain ⟨half, hhalf, h⟩ := List.mem_flatMap.mp h
  dsimp only at h
  split at h
  · rename_i valid
    rw [tiledStoreHalf_eq _ _ _ (laneInGroup_lt thread), List.mem_map] at h
    obtain ⟨i, hi, rfl⟩ := h
    obtain ⟨small, lane⟩ := (mem_quadNumbers (laneInGroup_lt thread)).mp hi
    exact ⟨half, List.mem_range.mp hhalf, valid, row_div small, by rw [row_mod small, lane],
      by rw [row_mod small]⟩
  · simp at h

/-- The two halves of a thread hold rows of different queries. -/
theorem queryState_halves (work : TiledBlock) (heads : 0 < numQueryHeads) (thread : Nat) :
    work.queryState numQueryHeads (packedRow thread 0) ≠
      work.queryState numQueryHeads (packedRow thread 1) := by
  have query : work.queryInRequest (packedRow thread 1) =
      work.queryInRequest (packedRow thread 0) + 2 := by
    simp only [TiledBlock.queryInRequest, packedRow, tiledGqaGroupSize]
    omega
  have head : packedRow thread 1 % tiledGqaGroupSize = packedRow thread 0 % tiledGqaGroupSize := by
    simp only [packedRow, tiledGqaGroupSize]
    omega
  have later : (work.tile.qoStart + (work.queryInRequest (packedRow thread 0) + 2)) * numQueryHeads =
      (work.tile.qoStart + work.queryInRequest (packedRow thread 0)) * numQueryHeads +
        2 * numQueryHeads := by
    rw [← Nat.add_assoc, Nat.add_mul]
  unfold TiledBlock.queryState
  rw [query, head, later]
  omega

theorem tiledStores_nodup (heads : 0 < numQueryHeads) :
    ((tiledStores work numQueryHeads regs thread).map Prod.fst).Nodup := by
  have half_nodup : ∀ state half, ((tiledStoreHalf (state * singleDecodePartialStateWidth) regs half
      (laneInGroup thread)).map Prod.fst).Nodup := by
    intro state half
    rw [tiledStoreHalf_eq _ _ _ (laneInGroup_lt thread), List.map_map]
    exact (quadNumbers_nodup _ (laneInGroup_lt thread)).map fun i j => Nat.add_left_cancel
  have other : work.partialState numQueryHeads (packedRow thread 0) ≠
      work.partialState numQueryHeads (packedRow thread 1) := by
    have := queryState_halves work heads thread
    simp only [TiledBlock.partialState, tiledPartitions]
    omega
  rw [tiledStores, List.map_flatMap, List.nodup_flatMap]
  refine ⟨fun half _ => ?_, ?_⟩
  · dsimp only
    split
    · exact half_nodup _ half
    · exact List.nodup_nil
  · refine List.pairwise_pair.mpr fun a first second => ?_
    dsimp only at first second
    split at first
    · split at second
      · rw [mem_tiledStoreHalf_fst (laneInGroup_lt thread)] at first second
        exact other (first.1.symm.trans second.1)
      · simp at second
    · simp at first

end Stores

/-! ## The launch -/

section Launch

variable {F : Type} {spec : Bf16RaggedPrefillSpec} {qoIndptr kvIndptr : Slice Int32}

/-- The grid of the tiled kernel. -/
def Bf16RaggedPrefillSpec.tiledBlocks (spec : Bf16RaggedPrefillSpec) : Nat :=
  spec.tileUpperBound * spec.numKvHeads * tiledPartitions

/-- The work of a block of the launch. -/
def Bf16RaggedPrefillSpec.tiledWork (spec : Bf16RaggedPrefillSpec) (qoIndptr kvIndptr : Slice Int32)
    (block : Nat) : DeviceM (Option TiledBlock) :=
  LoomKernels.tiledWork spec.batchSize spec.nnzQo spec.nnzKv spec.numKvHeads qoIndptr kvIndptr block

/-- The row of results whose partial state an address of the workspace belongs to. -/
def workspaceState (a : Nat) : Nat := a / singleDecodePartialStateWidth / tiledPartitions

/-- The partition whose partial state an address of the workspace belongs to. -/
def workspacePartition (a : Nat) : Nat := a / singleDecodePartialStateWidth % tiledPartitions

/-- What the threads of the launch store when their registers end as `regs`. -/
def Bf16RaggedPrefillSpec.tiledWrites (spec : Bf16RaggedPrefillSpec)
    (qoIndptr kvIndptr : Slice Int32) (regs : Nat → Nat → TiledRegisters F) (block thread : Nat) :
    List (Nat × F) :=
  match spec.tiledWork qoIndptr kvIndptr block with
  | .ok (some work) => tiledStores work spec.numQueryHeads (regs block thread) thread
  | _ => []

theorem numQueryHeads_eq (group : spec.gqaGroupSize = tiledGqaGroupSize) :
    spec.numQueryHeads = spec.numKvHeads * tiledGqaGroupSize := by
  rw [← group, Bf16RaggedPrefillSpec.gqaGroupSize, Nat.mul_div_cancel' (Nat.dvd_of_mod_eq_zero spec.group)]

theorem tiledWork_of_guard {block request i : Nat} (hr : request < spec.leading qoIndptr kvIndptr)
    (found : tiledGuard spec.batchSize spec.nnzQo spec.nnzKv spec.numKvHeads qoIndptr kvIndptr block =
      .ok (some (tileOf qoIndptr kvIndptr request i))) :
    spec.tiledWork qoIndptr kvIndptr block =
      .ok (some (workOf qoIndptr kvIndptr request i (tiledKvHead spec.numKvHeads block)
        (tiledPartition block))) := by
  have masked : subUsize (tileOf qoIndptr kvIndptr request i).kvLen
      (tileOf qoIndptr kvIndptr request i).qoLen = .ok _ :=
    subUsize_ok (inRange_of_lt_leading hr).causal
  rw [Bf16RaggedPrefillSpec.tiledWork, LoomKernels.tiledWork, found, ok_bind]
  dsimp only
  rw [masked]
  rfl

theorem tiledWork_of_none {block : Nat}
    (none : tiledGuard spec.batchSize spec.nnzQo spec.nnzKv spec.numKvHeads qoIndptr kvIndptr block =
      .ok none) :
    spec.tiledWork qoIndptr kvIndptr block = .ok Option.none := by
  rw [Bf16RaggedPrefillSpec.tiledWork, LoomKernels.tiledWork, none]
  rfl

/-- A stored row of results belongs to a leading request, and tells who stores it. -/
theorem stored_owner {request i head p row : Nat} (hh : head < spec.numKvHeads) (hrow : row < 64)
    (valid : (workOf qoIndptr kvIndptr request i head p).queryValid row = true) {state : Nat}
    (h : state = (workOf qoIndptr kvIndptr request i head p).queryState
      (spec.numKvHeads * tiledGqaGroupSize) row) :
    indptrStart qoIndptr request ≤ state / (spec.numKvHeads * tiledGqaGroupSize) ∧
      state / (spec.numKvHeads * tiledGqaGroupSize) < indptrStart qoIndptr (request + 1) ∧
      queryTile qoIndptr request (state / (spec.numKvHeads * tiledGqaGroupSize)) = i ∧
      queryPackedRow qoIndptr request (state / (spec.numKvHeads * tiledGqaGroupSize))
        (state % (spec.numKvHeads * tiledGqaGroupSize)) = row ∧
      state % (spec.numKvHeads * tiledGqaGroupSize) / tiledGqaGroupSize = head := by
  rw [h, queryState_div hh, queryState_mod hh]
  rw [queryValid_workOf, indptrLen] at valid
  simp only [queryTile, queryPackedRow, tiledQueryRows, tiledGqaGroupSize] at *
  omega

variable (qoLen : qoIndptr.len = spec.batchSize + 1) (kvLen : kvIndptr.len = spec.batchSize + 1)
include qoLen kvLen

/-- No block faults, and those with work have the tile of a leading request. -/
theorem tiledWork_cases (block : Nat) :
    spec.tiledWork qoIndptr kvIndptr block = .ok none ∨
      spec.EndsMatch qoIndptr kvIndptr ∧
      ∃ request < spec.leading qoIndptr kvIndptr, ∃ i < requestTiles qoIndptr request,
        tiledGuard spec.batchSize spec.nnzQo spec.nnzKv spec.numKvHeads qoIndptr kvIndptr block =
          .ok (some (tileOf qoIndptr kvIndptr request i)) ∧
        spec.tiledWork qoIndptr kvIndptr block =
          .ok (some (workOf qoIndptr kvIndptr request i (tiledKvHead spec.numKvHeads block)
            (tiledPartition block))) := by
  rcases tiledGuard_cases qoLen kvLen block with none | ⟨ends, request, hr, i, hi, found, -⟩
  · exact Or.inl (tiledWork_of_none none)
  · exact Or.inr ⟨ends, request, hr, i, hi, found, tiledWork_of_guard hr found⟩

/-- Each piece of work of a leading request has exactly one block of the grid. -/
theorem existsUnique_work (ends : spec.EndsMatch qoIndptr kvIndptr) {request i head p : Nat}
    (hr : request < spec.leading qoIndptr kvIndptr) (hi : i < requestTiles qoIndptr request)
    (hh : head < spec.numKvHeads) (hp : p < tiledPartitions) :
    ∃! block, block < spec.tiledBlocks ∧ spec.tiledWork qoIndptr kvIndptr block =
      .ok (some (workOf qoIndptr kvIndptr request i head p)) := by
  obtain ⟨block, ⟨hb, found, rfl, rfl⟩, unique⟩ :=
    existsUnique_tiledBlock qoLen kvLen ends hr hi hh hp
  refine ⟨block, ⟨hb, tiledWork_of_guard hr found⟩, ?_⟩
  rintro block' ⟨hb', work⟩
  rcases tiledWork_cases qoLen kvLen block' with none | ⟨-, request', hr', i', hi', found', work'⟩
  · rw [none] at work
    cases work
  · rw [work', Except.ok.injEq, Option.some.injEq] at work
    rw [show tileOf qoIndptr kvIndptr request' i' = tileOf qoIndptr kvIndptr request i from
      congrArg TiledBlock.tile work] at found'
    exact unique block' ⟨hb', found', congrArg TiledBlock.kvHead work,
      congrArg TiledBlock.partition work⟩

variable (group : spec.gqaGroupSize = tiledGqaGroupSize) {regs : Nat → Nat → TiledRegisters F}
  {a block thread : Nat}
include group

/-- A store of a thread goes to a leading request's row, whose place in the tile tells the thread and
the registers. -/
theorem tiledWrites_source (ht : thread < tiledThreads) {w : Nat × F}
    (h : w ∈ spec.tiledWrites qoIndptr kvIndptr regs block thread) :
    spec.EndsMatch qoIndptr kvIndptr ∧
    ∃ request < spec.leading qoIndptr kvIndptr,
      indptrStart qoIndptr request ≤ workspaceState w.1 / spec.numQueryHeads ∧
      workspaceState w.1 / spec.numQueryHeads < indptrStart qoIndptr (request + 1) ∧
      spec.tiledWork qoIndptr kvIndptr block = .ok (some (workOf qoIndptr kvIndptr request
        (queryTile qoIndptr request (workspaceState w.1 / spec.numQueryHeads))
        (workspaceState w.1 % spec.numQueryHeads / tiledGqaGroupSize) (workspacePartition w.1))) ∧
      thread = rowThread (queryPackedRow qoIndptr request (workspaceState w.1 / spec.numQueryHeads)
        (workspaceState w.1 % spec.numQueryHeads)) (quadLane (w.1 % singleDecodePartialStateWidth)) ∧
      w.2 = registerField (regs block thread)
        (rowHalf (queryPackedRow qoIndptr request (workspaceState w.1 / spec.numQueryHeads)
          (workspaceState w.1 % spec.numQueryHeads))) (w.1 % singleDecodePartialStateWidth) := by
  rcases tiledWork_cases qoLen kvLen block with none | ⟨ends, request, hr, i, -, -, work⟩
  · simp [Bf16RaggedPrefillSpec.tiledWrites, none] at h
  simp only [Bf16RaggedPrefillSpec.tiledWrites, work] at h
  obtain ⟨half, hhalf, valid, partialState, lane, value⟩ := tiledStores_value h
  have hp : tiledPartition block < tiledPartitions := Nat.mod_lt _ (by decide)
  have partition : workspacePartition w.1 = tiledPartition block := by
    rw [workspacePartition, partialState]
    exact row_mod hp
  have state : workspaceState w.1 =
      (workOf qoIndptr kvIndptr request i (tiledKvHead spec.numKvHeads block)
        (tiledPartition block)).queryState (spec.numKvHeads * tiledGqaGroupSize)
        (packedRow thread half) := by
    rw [workspaceState, partialState, ← numQueryHeads_eq group]
    exact row_div hp
  obtain ⟨lo, hi, tile, row, head⟩ :=
    stored_owner (Nat.mod_lt _ spec.kvHeads_pos) (packedRow_lt ht hhalf) valid state
  refine ⟨ends, request, hr, ?_⟩
  rw [numQueryHeads_eq group, tile, row, head, partition, lane, rowThread_packedRow hhalf,
    rowHalf_packedRow hhalf]
  exact ⟨lo, hi, work, rfl, value⟩

/-- An address that a thread stores belongs to a leading request's row, whose place in the tile tells
the thread. -/
theorem tiledWrites_owner (ht : thread < tiledThreads)
    (named : a ∈ (spec.tiledWrites qoIndptr kvIndptr regs block thread).map Prod.fst) :
    spec.EndsMatch qoIndptr kvIndptr ∧
    ∃ request < spec.leading qoIndptr kvIndptr,
      indptrStart qoIndptr request ≤ workspaceState a / spec.numQueryHeads ∧
      workspaceState a / spec.numQueryHeads < indptrStart qoIndptr (request + 1) ∧
      spec.tiledWork qoIndptr kvIndptr block = .ok (some (workOf qoIndptr kvIndptr request
        (queryTile qoIndptr request (workspaceState a / spec.numQueryHeads))
        (workspaceState a % spec.numQueryHeads / tiledGqaGroupSize) (workspacePartition a))) ∧
      thread = rowThread (queryPackedRow qoIndptr request (workspaceState a / spec.numQueryHeads)
        (workspaceState a % spec.numQueryHeads)) (quadLane (a % singleDecodePartialStateWidth)) := by
  obtain ⟨w, h, rfl⟩ := List.mem_map.mp named
  obtain ⟨ends, request, hr, lo, hi, work, owner, -⟩ := tiledWrites_source qoLen kvLen group ht h
  exact ⟨ends, request, hr, lo, hi, work, owner⟩

/-- Every element of a partial state of a leading request's row is written exactly once. -/
theorem tiledWrites_once (ends : spec.EndsMatch qoIndptr kvIndptr)
    (leading : workspaceState a / spec.numQueryHeads <
      indptrStart qoIndptr (spec.leading qoIndptr kvIndptr)) :
    WrittenOnce spec.tiledBlocks tiledThreads (spec.tiledWrites qoIndptr kvIndptr regs) a := by
  obtain ⟨request, ⟨hr, lo, hi⟩, uniqueRequest⟩ := existsUnique_cell
    (fun i hi => leading_start_mono (Nat.le_succ i) hi)
    (by rw [indptrStart, ends.1]; exact Nat.zero_le _) leading
  have hh : workspaceState a % spec.numQueryHeads / tiledGqaGroupSize < spec.numKvHeads := by
    rw [lt_rows_iff (by decide), ← numQueryHeads_eq group]
    exact Nat.mod_lt _ spec.queryHeads_pos
  have hp : workspacePartition a < tiledPartitions := Nat.mod_lt _ (by decide)
  obtain ⟨block, ⟨hb, work⟩, uniqueBlock⟩ :=
    existsUnique_work qoLen kvLen ends hr (queryTile_lt lo hi) hh hp
  have hlane := quadLane_lt (a % singleDecodePartialStateWidth)
  refine ⟨block, hb, _, rowThread_lt (queryPackedRow_lt qoIndptr request
    (workspaceState a / spec.numQueryHeads) (workspaceState a % spec.numQueryHeads)) hlane, ?_,
    fun block' hb' thread ht named => ?_⟩
  · simp only [Bf16RaggedPrefillSpec.tiledWrites, work]
    refine List.count_eq_one_of_mem (tiledStores_nodup spec.queryHeads_pos)
      (rowThread_stores (queryValid_packed lo hi _) ?_)
    rw [TiledBlock.partialState, queryState_packed lo, Nat.div_add_mod']
    exact (Nat.div_add_mod' _ _).symm
  · obtain ⟨-, request', hr', lo', hi', work', rfl⟩ := tiledWrites_owner qoLen kvLen group ht named
    obtain rfl : request' = request := uniqueRequest request' ⟨hr', lo', hi'⟩
    exact ⟨uniqueBlock block' ⟨hb', work'⟩, rfl⟩

end Launch

end LoomKernels
