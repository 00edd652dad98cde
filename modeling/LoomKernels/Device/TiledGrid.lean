import LoomKernels.Device.RaggedPlan

/-!
# The grid of the tiled kernel

A block of the tiled kernel takes one query tile of one request, one key/value head and one
partition of the tile's tokens. The tile is found by a walk over the requests that counts their
tiles and stops at the first request out of range.

Whatever the two indptr arrays hold, the walk sees `leadingRequests`, the requests before the first
bad one, and no more: a block whose tile number is one of theirs gets its tile (`tiledGuard_tile`),
and every other block returns (`tiledGuard_none`). The grid, sized without the indptr, has room for
the tiles of these requests (`leadingTiles_le`), so that each of their tiles has one block for each
head and partition (`existsUnique_tiledBlock`).
-/

namespace LoomKernels

/-! ## Guard -/

/-- The query tile of a block: which tile of its request, and where the request's query rows and
tokens start and how many they are. -/
structure TiledTile where
  requestTile : Nat
  qoStart : Nat
  qoLen : Nat
  kvStart : Nat
  kvLen : Nat
  deriving DecidableEq, Repr

/-- One pass of the walk, at `request` with `tileIndex` tiles to go. -/
def tiledSearch (nnzQo nnzKv : Nat) (qoIndptr kvIndptr : Slice Int32) (request tileIndex : Nat) :
    DeviceM (Nat ⊕ Option TiledTile) := do
  let qoStart ← qoIndptr.read request
  let qoEnd ← qoIndptr.read (request + 1)
  let kvStart ← kvIndptr.read request
  let kvEnd ← kvIndptr.read (request + 1)
  if qoStart < 0 ∨ qoEnd ≤ qoStart ∨ kvStart < 0 ∨ kvEnd ≤ kvStart ∨ asUsize qoEnd > nnzQo ∨
      asUsize kvEnd > nnzKv ∨ qoEnd - qoStart > kvEnd - kvStart then return .inr none
  else
    let qoLen := asUsize (qoEnd - qoStart)
    let requestTiles := (qoLen + tiledQueryRows - 1) / tiledQueryRows
    if tileIndex < requestTiles then
      return .inr (some ⟨tileIndex, asUsize qoStart, qoLen, asUsize kvStart,
        asUsize (kvEnd - kvStart)⟩)
    else return .inl (tileIndex - requestTiles)

/-- The guard of the tiled kernel: the tile of the block, or `none` where the kernel returns. -/
def tiledGuard (batchSize nnzQo nnzKv numKvHeads : Nat) (qoIndptr kvIndptr : Slice Int32)
    (block : Nat) : DeviceM (Option TiledTile) := do
  let firstQo ← qoIndptr.read 0
  let firstKv ← kvIndptr.read 0
  let lastQo ← qoIndptr.read batchSize
  let lastKv ← kvIndptr.read batchSize
  if firstQo ≠ 0 ∨ firstKv ≠ 0 ∨ lastQo ≠ asI32 nnzQo ∨ lastKv ≠ asI32 nnzKv then return none
  else
    searchM (tiledSearch nnzQo nnzKv qoIndptr kvIndptr) none batchSize 0
      (block / (tiledPartitions * numKvHeads))

/-- `block % TILED_PARTITIONS` -/
def tiledPartition (block : Nat) : Nat := block % tiledPartitions

/-- `block / TILED_PARTITIONS % num_kv_heads` -/
def tiledKvHead (numKvHeads block : Nat) : Nat := block / tiledPartitions % numKvHeads

/-! ## Requests in range -/

section Requests

variable (nnzQo nnzKv : Nat) (qoIndptr kvIndptr : Slice Int32)

/-- What the walk checks of a request. -/
def TiledRequestInRange (request : Nat) : Prop :=
  0 ≤ qoIndptr.int request ∧ qoIndptr.int request < qoIndptr.int (request + 1) ∧
  0 ≤ kvIndptr.int request ∧ kvIndptr.int request < kvIndptr.int (request + 1) ∧
  asUsize (qoIndptr.int (request + 1)) ≤ nnzQo ∧ asUsize (kvIndptr.int (request + 1)) ≤ nnzKv ∧
  qoIndptr.int (request + 1) - qoIndptr.int request ≤
    kvIndptr.int (request + 1) - kvIndptr.int request

instance (request : Nat) :
    Decidable (TiledRequestInRange nnzQo nnzKv qoIndptr kvIndptr request) :=
  inferInstanceAs (Decidable (_ ∧ _))

/-- What the kernel checks before the walk. -/
def TiledEndsMatch (batchSize : Nat) : Prop :=
  qoIndptr.int 0 = 0 ∧ kvIndptr.int 0 = 0 ∧ qoIndptr.int batchSize = asI32 nnzQo ∧
    kvIndptr.int batchSize = asI32 nnzKv

instance (batchSize : Nat) : Decidable (TiledEndsMatch nnzQo nnzKv qoIndptr kvIndptr batchSize) :=
  inferInstanceAs (Decidable (_ ∧ _))

/-- The number of requests before the first one out of range. -/
def leadingRequests (batchSize : Nat) : Nat :=
  (List.range batchSize).findIdx fun request =>
    ¬ TiledRequestInRange nnzQo nnzKv qoIndptr kvIndptr request

/-- The query tiles of a request. -/
def requestTiles (request : Nat) : Nat :=
  (indptrLen qoIndptr request + tiledQueryRows - 1) / tiledQueryRows

/-- Tile `i` of a request. -/
def tileOf (request i : Nat) : TiledTile where
  requestTile := i
  qoStart := indptrStart qoIndptr request
  qoLen := indptrLen qoIndptr request
  kvStart := indptrStart kvIndptr request
  kvLen := indptrLen kvIndptr request

variable {nnzQo nnzKv qoIndptr kvIndptr} {batchSize : Nat}

theorem leadingRequests_le : leadingRequests nnzQo nnzKv qoIndptr kvIndptr batchSize ≤ batchSize :=
  List.findIdx_le_length.trans_eq (List.length_range)

theorem inRange_of_lt_leading {request : Nat}
    (h : request < leadingRequests nnzQo nnzKv qoIndptr kvIndptr batchSize) :
    TiledRequestInRange nnzQo nnzKv qoIndptr kvIndptr request := by
  have := List.not_of_lt_findIdx h
  simpa using this

theorem not_inRange_leading
    (h : leadingRequests nnzQo nnzKv qoIndptr kvIndptr batchSize < batchSize) :
    ¬ TiledRequestInRange nnzQo nnzKv qoIndptr kvIndptr
      (leadingRequests nnzQo nnzKv qoIndptr kvIndptr batchSize) := by
  have := @List.findIdx_getElem _
    (fun request => ¬ TiledRequestInRange nnzQo nnzKv qoIndptr kvIndptr request)
    (List.range batchSize) (by simpa [leadingRequests] using h)
  simpa [leadingRequests] using this

end Requests

namespace TiledRequestInRange

variable {nnzQo nnzKv request : Nat} {qoIndptr kvIndptr : Slice Int32}
  (inRange : TiledRequestInRange nnzQo nnzKv qoIndptr kvIndptr request)
include inRange

theorem qo_lt : indptrStart qoIndptr request < indptrStart qoIndptr (request + 1) := by
  obtain ⟨nonneg, increasing, -⟩ := inRange
  unfold indptrStart
  omega

theorem qo_le : indptrStart qoIndptr (request + 1) ≤ nnzQo := by
  obtain ⟨nonneg, increasing, -, -, le, -⟩ := inRange
  rwa [asUsize_int (by omega)] at le

theorem kv_lt : indptrStart kvIndptr request < indptrStart kvIndptr (request + 1) := by
  obtain ⟨-, -, nonneg, increasing, -⟩ := inRange
  unfold indptrStart
  omega

theorem kv_le : indptrStart kvIndptr (request + 1) ≤ nnzKv := by
  obtain ⟨-, -, nonneg, increasing, -, le, -⟩ := inRange
  rwa [asUsize_int (by omega)] at le

theorem causal : indptrLen qoIndptr request ≤ indptrLen kvIndptr request := by
  obtain ⟨qoNonneg, qoGrows, kvNonneg, kvGrows, -, -, le⟩ := inRange
  unfold indptrLen indptrStart
  omega

/-- The walk at a request in range. -/
theorem search (qoEntry : request + 1 < qoIndptr.len) (kvEntry : request + 1 < kvIndptr.len)
    (tileIndex : Nat) :
    tiledSearch nnzQo nnzKv qoIndptr kvIndptr request tileIndex =
      .ok (if tileIndex < requestTiles qoIndptr request
        then .inr (some (tileOf qoIndptr kvIndptr request tileIndex))
        else .inl (tileIndex - requestTiles qoIndptr request)) := by
  obtain ⟨qoNonneg, qoGrows, kvNonneg, kvGrows, qoLe, kvLe, le⟩ := inRange
  have qoStart : qoIndptr.read request = .ok _ := Slice.read_ok (by omega)
  have qoEnd : qoIndptr.read (request + 1) = .ok _ := Slice.read_ok qoEntry
  have kvStart : kvIndptr.read request = .ok _ := Slice.read_ok (by omega)
  have kvEnd : kvIndptr.read (request + 1) = .ok _ := Slice.read_ok kvEntry
  rw [tiledSearch, qoStart, qoEnd, kvStart, kvEnd]
  simp only [ok_bind]
  rw [if_neg (by omega), asUsize_int_sub qoNonneg qoGrows, asUsize_int_sub kvNonneg kvGrows,
    asUsize_int qoNonneg, asUsize_int kvNonneg]
  split
  · rename_i inside
    exact congrArg Except.ok (if_pos inside).symm
  · rename_i later
    exact congrArg Except.ok (if_neg later).symm

end TiledRequestInRange

/-- The walk at a request out of range. -/
theorem tiledSearch_stop {nnzQo nnzKv request : Nat} {qoIndptr kvIndptr : Slice Int32}
    (out : ¬ TiledRequestInRange nnzQo nnzKv qoIndptr kvIndptr request)
    (qoEntry : request + 1 < qoIndptr.len) (kvEntry : request + 1 < kvIndptr.len)
    (tileIndex : Nat) :
    tiledSearch nnzQo nnzKv qoIndptr kvIndptr request tileIndex = .ok (.inr none) := by
  have qoStart : qoIndptr.read request = .ok _ := Slice.read_ok (by omega)
  have qoEnd : qoIndptr.read (request + 1) = .ok _ := Slice.read_ok qoEntry
  have kvStart : kvIndptr.read request = .ok _ := Slice.read_ok (by omega)
  have kvEnd : kvIndptr.read (request + 1) = .ok _ := Slice.read_ok kvEntry
  unfold TiledRequestInRange at out
  rw [tiledSearch, qoStart, qoEnd, kvStart, kvEnd]
  simp only [ok_bind]
  rw [if_pos (by omega)]
  rfl

/-! ## The walk -/

section Walk

variable {batchSize nnzQo nnzKv numKvHeads : Nat} {qoIndptr kvIndptr : Slice Int32}
  (qoLen : qoIndptr.len = batchSize + 1) (kvLen : kvIndptr.len = batchSize + 1)
include qoLen kvLen

/-- The walk passes the tiles of the leading requests before the one it looks for. -/
theorem tiledSearch_skip {k : Nat}
    (hk : k ≤ leadingRequests nnzQo nnzKv qoIndptr kvIndptr batchSize) {tileIndex : Nat}
    (h : startOf (requestTiles qoIndptr) k ≤ tileIndex) :
    ∀ j < k, tiledSearch nnzQo nnzKv qoIndptr kvIndptr j
        (tileIndex - startOf (requestTiles qoIndptr) j) =
      .ok (.inl (tileIndex - startOf (requestTiles qoIndptr) (j + 1))) := by
  intro j hj
  have le : leadingRequests nnzQo nnzKv qoIndptr kvIndptr batchSize ≤ batchSize :=
    leadingRequests_le
  have before : startOf (requestTiles qoIndptr) (j + 1) ≤ startOf (requestTiles qoIndptr) k :=
    cut_le_cut (fun i _ => startOf_mono _ i) hj le_rfl
  have step := startOf_succ (requestTiles qoIndptr) j
  rw [(inRange_of_lt_leading (hj.trans_le hk)).search (by omega) (by omega), if_neg (by omega),
    show tileIndex - startOf (requestTiles qoIndptr) j - requestTiles qoIndptr j =
      tileIndex - startOf (requestTiles qoIndptr) (j + 1) by omega]

/-- The guard checks the ends of both arrays, and then it is the walk. -/
theorem tiledGuard_eq (block : Nat) :
    tiledGuard batchSize nnzQo nnzKv numKvHeads qoIndptr kvIndptr block =
      if TiledEndsMatch nnzQo nnzKv qoIndptr kvIndptr batchSize then
        searchM (tiledSearch nnzQo nnzKv qoIndptr kvIndptr) none batchSize 0
          (block / (tiledPartitions * numKvHeads) - startOf (requestTiles qoIndptr) 0)
      else .ok none := by
  have firstQo : qoIndptr.read 0 = .ok _ := Slice.read_ok (by omega)
  have firstKv : kvIndptr.read 0 = .ok _ := Slice.read_ok (by omega)
  have lastQo : qoIndptr.read batchSize = .ok _ := Slice.read_ok (by omega)
  have lastKv : kvIndptr.read batchSize = .ok _ := Slice.read_ok (by omega)
  rw [tiledGuard, firstQo, firstKv, lastQo, lastKv]
  simp only [ok_bind]
  split
  · rename_i bad
    rw [if_neg fun ends => ?_]
    · rfl
    · obtain ⟨startQo, startKv, stopQo, stopKv⟩ := ends
      simp [startQo, startKv, stopQo, stopKv] at bad
  · rename_i good
    simp only [not_or, not_not] at good
    have ends : TiledEndsMatch nnzQo nnzKv qoIndptr kvIndptr batchSize := good
    rw [if_pos ends, startOf_zero, Nat.sub_zero]

/-- A block whose tile number is one of a leading request gets this tile. -/
theorem tiledGuard_tile (ends : TiledEndsMatch nnzQo nnzKv qoIndptr kvIndptr batchSize)
    {block request i : Nat} (hr : request < leadingRequests nnzQo nnzKv qoIndptr kvIndptr batchSize)
    (hi : i < requestTiles qoIndptr request)
    (number : block / (tiledPartitions * numKvHeads) = startOf (requestTiles qoIndptr) request + i) :
    tiledGuard batchSize nnzQo nnzKv numKvHeads qoIndptr kvIndptr block =
      .ok (some (tileOf qoIndptr kvIndptr request i)) := by
  have le : leadingRequests nnzQo nnzKv qoIndptr kvIndptr batchSize ≤ batchSize :=
    leadingRequests_le
  rw [tiledGuard_eq qoLen kvLen, if_pos ends, number]
  refine searchM_found
    (fun j => startOf (requestTiles qoIndptr) request + i - startOf (requestTiles qoIndptr) j)
    (hr.trans_le le) (tiledSearch_skip qoLen kvLen hr.le (Nat.le_add_right _ _)) ?_
  rw [Nat.add_sub_cancel_left, (inRange_of_lt_leading hr).search (by omega) (by omega), if_pos hi]

/-- Every other block returns. -/
theorem tiledGuard_none {block : Nat}
    (other : TiledEndsMatch nnzQo nnzKv qoIndptr kvIndptr batchSize →
      startOf (requestTiles qoIndptr) (leadingRequests nnzQo nnzKv qoIndptr kvIndptr batchSize) ≤
        block / (tiledPartitions * numKvHeads)) :
    tiledGuard batchSize nnzQo nnzKv numKvHeads qoIndptr kvIndptr block = .ok none := by
  rw [tiledGuard_eq qoLen kvLen]
  split
  · rename_i ends
    have skip := tiledSearch_skip qoLen kvLen le_rfl (other ends)
    rcases leadingRequests_le.lt_or_eq with stop | all
    · -- the walk stops at the first request out of range
      exact searchM_found (fun j => block / (tiledPartitions * numKvHeads) -
        startOf (requestTiles qoIndptr) j) stop skip
        (tiledSearch_stop (not_inRange_leading stop) (by omega) (by omega) _)
    · -- no request is left
      rw [all] at skip
      exact searchM_end (fun j => block / (tiledPartitions * numKvHeads) -
        startOf (requestTiles qoIndptr) j) skip
  · rfl

/-- No block faults, and one that passes the guard has the tile of a leading request. -/
theorem tiledGuard_cases (block : Nat) :
    tiledGuard batchSize nnzQo nnzKv numKvHeads qoIndptr kvIndptr block = .ok none ∨
      TiledEndsMatch nnzQo nnzKv qoIndptr kvIndptr batchSize ∧
      ∃ request < leadingRequests nnzQo nnzKv qoIndptr kvIndptr batchSize,
        ∃ i < requestTiles qoIndptr request,
          tiledGuard batchSize nnzQo nnzKv numKvHeads qoIndptr kvIndptr block =
            .ok (some (tileOf qoIndptr kvIndptr request i)) ∧
          block / (tiledPartitions * numKvHeads) = startOf (requestTiles qoIndptr) request + i := by
  by_cases inside : TiledEndsMatch nnzQo nnzKv qoIndptr kvIndptr batchSize ∧
      block / (tiledPartitions * numKvHeads) < startOf (requestTiles qoIndptr)
        (leadingRequests nnzQo nnzKv qoIndptr kvIndptr batchSize)
  · obtain ⟨ends, small⟩ := inside
    obtain ⟨request, ⟨hr, lo, hi⟩, -⟩ := existsUnique_cell
      (fun i _ => startOf_mono (requestTiles qoIndptr) i) (by simp) small
    rw [startOf_succ] at hi
    have number : block / (tiledPartitions * numKvHeads) =
        startOf (requestTiles qoIndptr) request +
          (block / (tiledPartitions * numKvHeads) - startOf (requestTiles qoIndptr) request) := by
      omega
    exact Or.inr ⟨ends, request, hr, _, by omega,
      tiledGuard_tile qoLen kvLen ends hr (by omega) number, number⟩
  · exact Or.inl (tiledGuard_none qoLen kvLen fun ends => Nat.le_of_not_lt fun small =>
      inside ⟨ends, small⟩)

end Walk

/-! ## Room for every tile -/

section Room

variable {spec : Bf16RaggedPrefillSpec} {qoIndptr kvIndptr : Slice Int32}

/-- The leading requests of an invocation. -/
def Bf16RaggedPrefillSpec.leading (spec : Bf16RaggedPrefillSpec) (qoIndptr kvIndptr : Slice Int32) :
    Nat :=
  leadingRequests spec.nnzQo spec.nnzKv qoIndptr kvIndptr spec.batchSize

/-- What the kernel checks before the walk, of an invocation. -/
def Bf16RaggedPrefillSpec.EndsMatch (spec : Bf16RaggedPrefillSpec) (qoIndptr kvIndptr : Slice Int32) :
    Prop :=
  TiledEndsMatch spec.nnzQo spec.nnzKv qoIndptr kvIndptr spec.batchSize

theorem leading_start_mono {i j : Nat} (h : i ≤ j) (hj : j ≤ spec.leading qoIndptr kvIndptr) :
    indptrStart qoIndptr i ≤ indptrStart qoIndptr j :=
  cut_le_cut (fun _ hr => (inRange_of_lt_leading hr).qo_lt.le) h hj

/-- Two leading requests do not start at the same row. -/
theorem leading_start_inj {i j : Nat} (hi : i < spec.leading qoIndptr kvIndptr)
    (hj : j < spec.leading qoIndptr kvIndptr)
    (h : indptrStart qoIndptr i = indptrStart qoIndptr j) : i = j := by
  rcases Nat.lt_trichotomy i j with lt | eq | lt
  · have := (inRange_of_lt_leading hi).qo_lt
    have := leading_start_mono (show i + 1 ≤ j from lt) hj.le
    omega
  · exact eq
  · have := (inRange_of_lt_leading hj).qo_lt
    have := leading_start_mono (show j + 1 ≤ i from lt) hi.le
    omega

/-- The query rows of the leading requests follow one another from row zero. -/
theorem startOf_indptrLen (ends : spec.EndsMatch qoIndptr kvIndptr) {k : Nat}
    (hk : k ≤ spec.leading qoIndptr kvIndptr) :
    startOf (indptrLen qoIndptr) k = indptrStart qoIndptr k := by
  induction k with
  | zero =>
    rw [startOf_zero, indptrStart, ends.1]
    rfl
  | succ k ih =>
    have := (inRange_of_lt_leading hk).qo_lt
    rw [startOf_succ, ih (by omega), indptrLen]
    omega

theorem leading_start_le (ends : spec.EndsMatch qoIndptr kvIndptr) {k : Nat}
    (hk : k ≤ spec.leading qoIndptr kvIndptr) : indptrStart qoIndptr k ≤ spec.nnzQo := by
  cases k with
  | zero =>
    rw [indptrStart, ends.1]
    exact Nat.zero_le _
  | succ k => exact (inRange_of_lt_leading hk).qo_le

/-- The grid has room for the tiles of the leading requests. -/
theorem leadingTiles_le (ends : spec.EndsMatch qoIndptr kvIndptr) :
    startOf (requestTiles qoIndptr) (spec.leading qoIndptr kvIndptr) ≤ spec.tileUpperBound := by
  have le : spec.leading qoIndptr kvIndptr ≤ spec.batchSize := leadingRequests_le
  rcases Nat.eq_zero_or_pos (spec.leading qoIndptr kvIndptr) with none | some
  · rw [none, startOf_zero]
    exact Nat.zero_le _
  · have tiles := startOf_ceilDiv_le (show 0 < tiledQueryRows by decide) (indptrLen qoIndptr) some
    have rows := leading_start_le ends (k := spec.leading qoIndptr kvIndptr) le_rfl
    rw [startOf_indptrLen ends le_rfl] at tiles
    calc startOf (requestTiles qoIndptr) (spec.leading qoIndptr kvIndptr)
        ≤ (indptrStart qoIndptr (spec.leading qoIndptr kvIndptr) + tiledQueryRows - 1) /
            tiledQueryRows + (spec.leading qoIndptr kvIndptr - 1) := tiles
      _ ≤ spec.tileUpperBound :=
        Nat.add_le_add (Nat.div_le_div_right (by omega)) (by omega)

/-- Validated metadata passes the checks before the walk. -/
theorem RaggedValid.endsMatch (valid : RaggedValid spec qoIndptr kvIndptr) :
    spec.EndsMatch qoIndptr kvIndptr :=
  ⟨valid.qo.start, valid.kv.start, valid.qo.last, valid.kv.last⟩

/-- In validated metadata every request is in range. -/
theorem RaggedValid.inRange (valid : RaggedValid spec qoIndptr kvIndptr) {request : Nat}
    (h : request < spec.batchSize) :
    TiledRequestInRange spec.nnzQo spec.nnzKv qoIndptr kvIndptr request := by
  have hsucc : request + 1 ≤ spec.batchSize := h
  refine ⟨valid.qo.int_nonneg h.le, valid.qo.increasing _ h, valid.kv.int_nonneg h.le,
    valid.kv.increasing _ h, ?_, ?_, valid.lengths h⟩
  · rw [valid.qo.asUsize_eq_start hsucc]
    exact valid.qo.start_le_total hsucc
  · rw [valid.kv.asUsize_eq_start hsucc]
    exact valid.kv.start_le_total hsucc

theorem RaggedValid.leading_eq (valid : RaggedValid spec qoIndptr kvIndptr) :
    spec.leading qoIndptr kvIndptr = spec.batchSize := by
  rcases leadingRequests_le.lt_or_eq with stop | all
  · exact absurd (valid.inRange stop) (not_inRange_leading stop)
  · exact all

variable (qoLen : qoIndptr.len = spec.batchSize + 1) (kvLen : kvIndptr.len = spec.batchSize + 1)
include qoLen kvLen

/-- Each tile of a leading request has exactly one block of the grid for each head and partition. -/
theorem existsUnique_tiledBlock (ends : spec.EndsMatch qoIndptr kvIndptr) {request i head p : Nat}
    (hr : request < spec.leading qoIndptr kvIndptr) (hi : i < requestTiles qoIndptr request)
    (hh : head < spec.numKvHeads) (hp : p < tiledPartitions) :
    ∃! block, block < spec.tileUpperBound * spec.numKvHeads * tiledPartitions ∧
      tiledGuard spec.batchSize spec.nnzQo spec.nnzKv spec.numKvHeads qoIndptr kvIndptr block =
        .ok (some (tileOf qoIndptr kvIndptr request i)) ∧
      tiledKvHead spec.numKvHeads block = head ∧ tiledPartition block = p := by
  have number : startOf (requestTiles qoIndptr) request + i < spec.tileUpperBound := by
    have := leadingTiles_le ends
    have := cut_le_cut (fun i _ => startOf_mono (requestTiles qoIndptr) i)
      (show request + 1 ≤ _ from hr) le_rfl
    rw [startOf_succ] at this
    omega
  refine ⟨((startOf (requestTiles qoIndptr) request + i) * spec.numKvHeads + head) *
    tiledPartitions + p, ⟨rowMajor_lt (rowMajor_lt number hh) hp, ?_, ?_, row_mod hp⟩, ?_⟩
  · refine tiledGuard_tile qoLen kvLen ends hr hi ?_
    rw [← Nat.div_div_eq_div_mul, row_div hp, row_div hh]
  · rw [tiledKvHead, row_div hp, row_mod hh]
  · rintro block ⟨-, found, rfl, rfl⟩
    rcases tiledGuard_cases qoLen kvLen block with none | ⟨-, request', hr', i', -, found', number'⟩
    · rw [none] at found
      cases found
    rw [found', Except.ok.injEq, Option.some.injEq] at found
    have same := found.symm
    obtain rfl : i = i' := congrArg TiledTile.requestTile same
    obtain rfl : request = request' := leading_start_inj hr hr' (congrArg TiledTile.qoStart same)
    rw [← number', ← Nat.div_div_eq_div_mul, tiledKvHead, tiledPartition, Nat.div_add_mod',
      Nat.div_add_mod']

end Room

end LoomKernels
