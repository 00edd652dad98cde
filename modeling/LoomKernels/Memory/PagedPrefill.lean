import LoomKernels.Memory.PagedDecode

/-!
# Accesses of paged prefill

A block of paged prefill looks for the request of its query row, and returns at the first request
whose query range is bad. The direct kernel then checks all pages of the request by itself, before it
reads a key; the token-parallel kernels, of 8 and 16 warps, vote as in paged decode.

As there, no access leaves its buffer and no arithmetic wraps on any metadata, and a block writes its
own row only, and only when the request of the row is valid (`pagedPrefill_safe`,
`pagedPrefillTokenParallel_safe`). A token-parallel block passes the guard exactly then
(`pagedPrefillTokenParallelGuard_safe`).
-/

namespace LoomKernels.Memory

/-! ## Kernel code -/

section Kernels

variable (batchSize nnzQo maxNumPages numQueryHeads numKvHeads : Nat)
  (qoIndptr pageIndptr pageIndices lastPageLen : Slice Int32)

/-- One pass of the search for the request of a query row. -/
def searchRequest (queryRow request : Nat) : KernelM (Unit ⊕ Option Nat) := do
  let start ← readI32 .qoIndptr qoIndptr request
  let next ← compute (addWord 64 request 1)
  let stop ← readI32 .qoIndptr qoIndptr next
  if start < 0 ∨ stop ≤ start ∨ asUsize stop > nnzQo then return .inr none
  else if queryRow ≥ asUsize start ∧ queryRow < asUsize stop then return .inr (some request)
  else return .inl ()

/-- The search: `none` where the kernel returns. -/
def requestOfRow (queryRow : Nat) : KernelM (Option Nat) :=
  searchEach (fun request _ => searchRequest nnzQo qoIndptr queryRow request) none batchSize 0 ()

/-- `qo_indptr[0] == 0 && qo_indptr[batch_size] == nnz_qo as i32 && page_indptr[0] == 0` -/
def prefillEndsMatch : KernelM Bool := do
  if (← readI32 .qoIndptr qoIndptr 0) ≠ 0 then return false
  else if (← readI32 .qoIndptr qoIndptr batchSize) ≠ asI32 nnzQo then return false
  else return (← readI32 .pageIndptr pageIndptr 0) = 0

/-- What the kernels read of a request. -/
structure PrefillRange where
  qoStart : Nat
  qoEnd : Nat
  pageStart : Int
  pageEnd : Int
  globalPageEnd : Int
  tailLen : Int

def readPrefillRange (request : Nat) : KernelM PrefillRange := do
  let next ← compute (addWord 64 request 1)
  let qoStart ← readI32 .qoIndptr qoIndptr request
  let qoEnd ← readI32 .qoIndptr qoIndptr next
  let pageStart ← readI32 .pageIndptr pageIndptr request
  let pageEnd ← readI32 .pageIndptr pageIndptr next
  let globalPageEnd ← readI32 .pageIndptr pageIndptr batchSize
  let tailLen ← readI32 .lastPageLen lastPageLen request
  return ⟨asUsize qoStart, asUsize qoEnd, pageStart, pageEnd, globalPageEnd, tailLen⟩

/-- The checks of the range in the page table that both kernels make. -/
def PrefillRange.pagesInside (range : PrefillRange) : Bool :=
  range.pageStart ≥ 0 ∧ range.pageEnd > range.pageStart ∧ range.pageEnd ≤ range.globalPageEnd ∧
    range.tailLen ≥ 1 ∧ range.tailLen ≤ pagedPrefillPageSize

/-- The range in the page table, with `metadata_valid`. -/
def PrefillRange.pages (range : PrefillRange) (metadataValid : Bool) : PageRange :=
  ⟨range.pageStart, range.pageEnd, range.tailLen, metadataValid⟩

/-- The tokens that a query row sees, or `none` where its request has more query rows than tokens. -/
def PrefillRange.causalTokens (range : PrefillRange) (queryRow : Nat) :
    Machine Empty (Option Nat) := do
  let qoLen ← subWord range.qoEnd range.qoStart
  let kvLen ← (range.pages true).kvLen
  if qoLen > kvLen then return none
  else
    let queryIndex ← subWord queryRow range.qoStart
    return some (← addWord 64 (← addWord 64 (← subWord kvLen qoLen) queryIndex) 1)

/-- The loop of the direct kernel over the pages of its request: whether they all exist. -/
def directPages (pageStart pageEnd : Int) : KernelM Bool :=
  searchEach
    (fun pageSlot _ => do
      if pageExists maxNumPages (← readI32 .pageIndices pageIndices pageSlot) then
        let _next ← compute (addWord 64 pageSlot 1)
        return .inl ()
      else return .inr false)
    true (asUsize pageEnd - asUsize pageStart) (asUsize pageStart) ()

/-- `paged_prefill_bf16_nhd_causal` -/
def pagedPrefill (state lane : Nat) : KernelM Unit := do
  let stateCount ← compute (mulWord 64 nnzQo numQueryHeads)
  if state ≥ stateCount ∨ lane ≥ warpThreads then return ()
  else if !(← prefillEndsMatch batchSize nnzQo qoIndptr pageIndptr) then return ()
  else if (← readI32 .pageIndptr pageIndptr batchSize) < 0 then return ()
  else if asUsize (← readI32 .pageIndptr pageIndptr batchSize) ≠ pageIndices.len then return ()
  else
    let queryRow ← compute (divWord state numQueryHeads)
    match ← requestOfRow batchSize nnzQo qoIndptr queryRow with
    | none => return ()
    | some request =>
      let range ← readPrefillRange batchSize qoIndptr pageIndptr lastPageLen request
      if !range.pagesInside then return ()
      else if !(← directPages maxNumPages pageIndices range.pageStart range.pageEnd) then return ()
      else
        match ← compute (range.causalTokens queryRow) with
        | none => return ()
        | some causalKvEnd =>
          let kvHead ← compute (kvHeadOf numQueryHeads numKvHeads state)
          let pairs ← compute (rowPairs state lane)
          pairs.forM (loadWord .query)
          forEach 0 causalKvEnd fun token => do
            loadKeyValue (← pagedKvPair numKvHeads pageIndices range.pageStart kvHead lane token)
          storeResult state lane pairs

/-- The guard of the token-parallel kernels: the first page entry and the number of tokens of the
block's row, or `none` where the thread returns. -/
def pagedPrefillTokenParallelGuard (warps state thread : Nat) : KernelM (Option (Int × Nat)) := do
  let stateCount ← compute (mulWord 64 nnzQo numQueryHeads)
  if state ≥ stateCount then return none
  else
    let queryRow ← compute (divWord state numQueryHeads)
    match ← requestOfRow batchSize nnzQo qoIndptr queryRow with
    | none => return none
    | some request =>
      let range ← readPrefillRange batchSize qoIndptr pageIndptr lastPageLen request
      let metadataValid := (← prefillEndsMatch batchSize nnzQo qoIndptr pageIndptr) &&
        range.globalPageEnd ≥ 0 && asUsize range.globalPageEnd = pageIndices.len &&
        range.pagesInside
      if !(← votePages warps maxNumPages pageIndices (range.pages metadataValid) thread) then
        return none
      else
        match ← compute (range.causalTokens queryRow) with
        | none => return none
        | some causalTokenCount => return some (range.pageStart, causalTokenCount)

/-- `paged_prefill_bf16_nhd_causal_token_parallel_impl` -/
def pagedPrefillTokenParallel (warps state thread : Nat) : KernelM Unit := do
  match ← pagedPrefillTokenParallelGuard batchSize nnzQo maxNumPages numQueryHeads qoIndptr
    pageIndptr pageIndices lastPageLen warps state thread with
  | none => return ()
  | some (pageStart, causalTokenCount) =>
    let kvHead ← compute (kvHeadOf numQueryHeads numKvHeads state)
    tokenParallelRow warps state thread (tokenCut warps causalTokenCount)
      (pagedKvPair numKvHeads pageIndices pageStart kvHead (thread % warpThreads))

end Kernels

/-! ## The search -/

section Search

variable (nnzQo : Nat) (qoIndptr : Slice Int32) (queryRow request : Nat)

/-- The query range of a request is not empty and inside the query. -/
def QueryRange : Prop :=
  0 ≤ qoIndptr.int request ∧ qoIndptr.int request < qoIndptr.int (request + 1) ∧
    qoIndptr.int (request + 1) ≤ nnzQo

/-- The query range of a request has the row. -/
def HoldsRow : Prop :=
  indptrStart qoIndptr request ≤ queryRow ∧ queryRow < indptrStart qoIndptr (request + 1)

/-- The search ends at the request: all query ranges up to it are good, and its own is the first that
has the row. -/
structure FindsRequest : Prop where
  before : ∀ r < request, QueryRange nnzQo qoIndptr r ∧ ¬ HoldsRow qoIndptr queryRow r
  range : QueryRange nnzQo qoIndptr request
  row : HoldsRow qoIndptr queryRow request

variable {nnzQo qoIndptr queryRow request}

theorem FindsRequest.unique {other : Nat} (h : FindsRequest nnzQo qoIndptr queryRow request)
    (h' : FindsRequest nnzQo qoIndptr queryRow other) : request = other := by
  rcases Nat.lt_trichotomy request other with lt | eq | gt
  · exact absurd h.row (h'.before request lt).2
  · exact eq
  · exact absurd h'.row (h.before other gt).2

variable {batchSize : Nat} {len : KernelBuffer → Nat} {own : Nat → Prop}
  (same : len .qoIndptr = qoIndptr.len) (indptrLen : qoIndptr.len = batchSize + 1)
  (fits : batchSize + 1 < 2 ^ 64)
include same indptrLen fits

theorem searchRequest_safe (h : request < batchSize) :
    Safe (Contained len own) (searchRequest nnzQo qoIndptr queryRow request)
      (Sum.elim
        (fun _ => QueryRange nnzQo qoIndptr request ∧ ¬ HoldsRow qoIndptr queryRow request)
        fun found => (found = none ∧ ¬ QueryRange nnzQo qoIndptr request) ∨
          found = some request ∧ QueryRange nnzQo qoIndptr request ∧
            HoldsRow qoIndptr queryRow request) := by
  have small := qoIndptr.int_lt (request + 1)
  refine (readI32_safe (by omega) same rfl).step ((safe_compute (addWord_ok (by omega))).step ?_)
  refine (readI32_safe (by omega) same rfl).step ?_
  by_cases nonneg : 0 ≤ qoIndptr.int request ∧ qoIndptr.int request < qoIndptr.int (request + 1)
  · obtain ⟨startNonneg, increasing⟩ := nonneg
    rw [asUsize_int startNonneg, asUsize_int (i := request + 1) (by omega)]
    split
    · rename_i bad
      refine safe_pure (Or.inl ⟨rfl, fun range => ?_⟩)
      have le := range.2.2
      unfold indptrStart at bad
      omega
    rename_i good
    have range : QueryRange nnzQo qoIndptr request := by
      refine ⟨startNonneg, increasing, ?_⟩
      unfold indptrStart at good
      omega
    split
    · rename_i holds
      exact safe_pure (Or.inr ⟨rfl, range, holds⟩)
    · rename_i other
      exact safe_pure ⟨range, other⟩
  · rw [if_pos (by omega)]
    exact safe_pure (Or.inl ⟨rfl, fun range => nonneg ⟨range.1, range.2.1⟩⟩)

theorem requestOfRow_safe :
    Safe (Contained len own) (requestOfRow batchSize nnzQo qoIndptr queryRow) fun found =>
      ∀ request, found = some request ↔
        request < batchSize ∧ FindsRequest nnzQo qoIndptr queryRow request := by
  refine safe_searchEach (P := fun i _ => ∀ r < i,
    QueryRange nnzQo qoIndptr r ∧ ¬ HoldsRow qoIndptr queryRow r) (fun r hr => absurd hr (by omega))
    ?_ ?_
  · intro _ all request
    rw [Nat.zero_add] at all
    exact iff_of_false nofun fun ⟨small, found⟩ => (all request small).2 found.row
  · intro j _ _ hj before
    refine (searchRequest_safe same indptrLen fits (by omega)).mono ?_
    rintro (_ | found) h
    · intro r hr
      rcases Nat.lt_succ_iff_lt_or_eq.mp hr with lt | rfl
      · exact before r lt
      · exact h
    · rcases h with ⟨rfl, bad⟩ | ⟨rfl, range, row⟩
      · refine fun request => iff_of_false nofun fun ⟨_, finds⟩ => ?_
        rcases Nat.lt_trichotomy request j with lt | rfl | gt
        · exact (before request lt).2 finds.row
        · exact bad finds.range
        · exact bad (finds.before j gt).1
      · have finds : FindsRequest nnzQo qoIndptr queryRow j := ⟨before, range, row⟩
        intro request
        constructor
        · rintro ⟨⟩
          exact ⟨by omega, finds⟩
        · rintro ⟨_, other⟩
          rw [finds.unique other]

end Search

/-! ## What the guards read -/

section Reads

variable {batchSize nnzQo maxNumPages request : Nat}
  {qoIndptr pageIndptr pageIndices lastPageLen : Slice Int32} {len : KernelBuffer → Nat}
  {own : Nat → Prop}

/-- The range of a request as the kernels hold it. -/
def prefillRange (batchSize : Nat) (qoIndptr pageIndptr lastPageLen : Slice Int32) (request : Nat) :
    PrefillRange :=
  ⟨indptrStart qoIndptr request, indptrStart qoIndptr (request + 1), pageIndptr.int request,
    pageIndptr.int (request + 1), pageIndptr.int batchSize, lastPageLen.int request⟩

theorem pagesInside_iff (start : pageIndptr.int 0 = 0)
    (total : pageIndptr.int batchSize = pageIndices.len) :
    (prefillRange batchSize qoIndptr pageIndptr lastPageLen request).pagesInside = true ↔
      PageRangeValid batchSize pageIndptr pageIndices lastPageLen request := by
  rw [PrefillRange.pagesInside, decide_eq_true_eq]
  constructor
  · rintro ⟨pageStart, pageEnd, inside, tailPos, tailLe⟩
    exact ⟨start, total, pageStart, pageEnd, inside, tailPos, tailLe⟩
  · intro valid
    exact ⟨valid.pageStart, valid.pageEnd, valid.inside, valid.tail_pos, valid.tail_le⟩

/-- `metadata_valid` of the token-parallel kernels. -/
theorem metadataValid_iff (pageIndices lastPageLen : Slice Int32) (request : Nat) {ends : Bool}
    (hends : ends = true ↔ qoIndptr.int 0 = 0 ∧ qoIndptr.int batchSize = nnzQo ∧
      pageIndptr.int 0 = 0) :
    (ends && (prefillRange batchSize qoIndptr pageIndptr lastPageLen request).globalPageEnd ≥ 0 &&
        asUsize (prefillRange batchSize qoIndptr pageIndptr lastPageLen request).globalPageEnd =
          pageIndices.len &&
        (prefillRange batchSize qoIndptr pageIndptr lastPageLen request).pagesInside) = true ↔
      (qoIndptr.int 0 = 0 ∧ qoIndptr.int batchSize = nnzQo) ∧
        PageRangeValid batchSize pageIndptr pageIndices lastPageLen request := by
  have small := pageIndptr.int_lt batchSize
  have globalEnd : (prefillRange batchSize qoIndptr pageIndptr lastPageLen request).globalPageEnd =
    pageIndptr.int batchSize := rfl
  rw [Bool.and_eq_true, Bool.and_eq_true, Bool.and_eq_true, decide_eq_true_eq, decide_eq_true_eq,
    globalEnd, hends]
  constructor
  · rintro ⟨⟨⟨⟨qoStart, qoTotal, start⟩, nonneg⟩, total⟩, inside⟩
    have cast := asUsize_of_nonneg nonneg small
    exact ⟨⟨qoStart, qoTotal⟩, (pagesInside_iff start (by omega)).mp inside⟩
  · rintro ⟨⟨qoStart, qoTotal⟩, valid⟩
    have total := valid.total
    have cast := asUsize_of_nonneg (x := pageIndptr.int batchSize) (by omega) small
    exact ⟨⟨⟨⟨qoStart, qoTotal, valid.start⟩, by omega⟩, by omega⟩,
      (pagesInside_iff valid.start total).mpr valid⟩

/-- The tokens of a row, where the row and the pages are in range. -/
theorem causalTokens_ok {queryRow : Nat}
    (valid : PageRangeValid batchSize pageIndptr pageIndices lastPageLen request)
    (row : HoldsRow qoIndptr queryRow request) :
    (prefillRange batchSize qoIndptr pageIndptr lastPageLen request).causalTokens queryRow =
      .ok (if indptrLen qoIndptr request ≤ pagedKvLen pageIndptr lastPageLen request then
        some (causalCount qoIndptr (pagedKvLen pageIndptr lastPageLen request) request queryRow)
      else none) := by
  obtain ⟨lo, hi⟩ := row
  have kvLen : ((prefillRange batchSize qoIndptr pageIndptr lastPageLen request).pages true).kvLen =
      .ok (pagedKvLen pageIndptr lastPageLen request) := valid.kvLen_ok
  have small := valid.kvLen_lt
  unfold PrefillRange.causalTokens
  rw [kvLen]
  unfold prefillRange causalCount indptrLen
  dsimp only
  rw [subWord_ok (by omega), ok_bind, ok_bind]
  split
  · rw [if_neg (by omega)]
    rfl
  · rw [if_pos (by omega), subWord_ok lo, ok_bind, subWord_ok (by omega), ok_bind,
      addWord_ok (by omega), ok_bind, addWord_ok (by omega)]
    rfl

variable (table : PageTableLens len batchSize pageIndptr pageIndices lastPageLen)
include table

/-- The loop of the direct kernel over the pages comes to the end only when they all exist. -/
theorem directPages_safe
    (valid : PageRangeValid batchSize pageIndptr pageIndices lastPageLen request) :
    Safe (Contained len own)
      (directPages maxNumPages pageIndices (pageIndptr.int request) (pageIndptr.int (request + 1)))
      fun finished => finished = true → PagesExist maxNumPages pageIndptr pageIndices request := by
  have nonneg := valid.pageStart
  have increasing := valid.pageEnd
  have lt := valid.start_lt
  have le := valid.end_le
  have small := pageIndptr.int_lt (request + 1)
  unfold directPages
  rw [asUsize_int nonneg, asUsize_int (i := request + 1) (by omega)]
  refine safe_searchEach (P := fun i _ => ∀ j, indptrStart pageIndptr request ≤ j → j < i →
    0 ≤ pageIndices.int j ∧ pageIndices.int j < maxNumPages) (fun j lo hi => absurd hi (by omega))
    ?_ ?_
  · intro _ all _ j lo hi
    exact all j lo (by omega)
  · intro i _ lo hi before
    refine (readI32_safe (by omega) table.indices rfl).step ?_
    split
    · rename_i found
      have bound : i + 1 < 2 ^ 64 := by
        unfold indptrStart at hi
        omega
      refine (safe_compute (addWord_ok bound)).step (safe_pure fun j lo hj => ?_)
      rcases Nat.lt_succ_iff_lt_or_eq.mp hj with lt | rfl
      · exact before j lo lt
      · exact pageExists_iff.mp found
    · exact safe_pure nofun

variable (same : len .qoIndptr = qoIndptr.len) (qoLen : qoIndptr.len = batchSize + 1)
include same qoLen

theorem prefillEndsMatch_safe (small : nnzQo < 2 ^ 31) :
    Safe (Contained len own) (prefillEndsMatch batchSize nnzQo qoIndptr pageIndptr)
      fun passed => passed = true ↔ qoIndptr.int 0 = 0 ∧ qoIndptr.int batchSize = nnzQo ∧
        pageIndptr.int 0 = 0 := by
  have pageLen := table.indptr_len
  refine (readI32_safe (by omega) same rfl).step ?_
  split
  · rename_i start
    exact safe_pure (iff_of_false nofun fun h => start h.1)
  rename_i start
  refine (readI32_safe (by omega) same rfl).step ?_
  rw [asI32_of_lt small]
  split
  · rename_i total
    exact safe_pure (iff_of_false nofun fun h => total h.2.1)
  rename_i total
  refine (readI32_safe (by omega) table.indptr rfl).step (safe_pure ?_)
  rw [decide_eq_true_eq]
  exact ⟨fun h => ⟨not_not.mp start, not_not.mp total, h⟩, fun h => h.2.2⟩

theorem readPrefillRange_safe (h : request < batchSize)
    (range : QueryRange nnzQo qoIndptr request) :
    Safe (Contained len own) (readPrefillRange batchSize qoIndptr pageIndptr lastPageLen request)
      (· = prefillRange batchSize qoIndptr pageIndptr lastPageLen request) := by
  have pageLen := table.indptr_len
  have tailLen := table.tail_len
  have fits := table.batch_fits
  have qoEntry : ∀ i ≤ batchSize,
      Safe (Contained len own) (readI32 .qoIndptr qoIndptr i) (· = qoIndptr.int i) :=
    fun i hi => readI32_safe (by omega) same rfl
  have pageEntry : ∀ i ≤ batchSize,
      Safe (Contained len own) (readI32 .pageIndptr pageIndptr i) (· = pageIndptr.int i) :=
    fun i hi => readI32_safe (by omega) table.indptr rfl
  refine (safe_compute (addWord_ok (by omega))).step ?_
  refine (qoEntry request h.le).step ((qoEntry (request + 1) h).step ?_)
  refine (pageEntry request h.le).step ((pageEntry (request + 1) h).step ?_)
  refine (pageEntry batchSize le_rfl).step ((readI32_safe (by omega) table.tail rfl).step ?_)
  have startNonneg := range.1
  have increasing := range.2.1
  rw [asUsize_int startNonneg, asUsize_int (i := request + 1) (by omega)]
  exact safe_pure rfl

end Reads

/-! ## Kernels -/

section Kernels

/-- What the guards of the paged prefill kernels check for a request. -/
structure PrefillRequestValid (spec : Bf16PagedPrefillSpec)
    (qoIndptr pageIndptr pageIndices lastPageLen : Slice Int32) (request : Nat) : Prop extends
    PageRequestValid spec.batchSize spec.maxNumPages pageIndptr pageIndices lastPageLen request where
  qoStart : qoIndptr.int 0 = 0
  qoTotal : qoIndptr.int spec.batchSize = spec.nnzQo
  range : QueryRange spec.nnzQo qoIndptr request
  causal : indptrLen qoIndptr request ≤ pagedKvLen pageIndptr lastPageLen request

/-- The row of results has a request, and the guards accept it. -/
def PrefillRowValid (spec : Bf16PagedPrefillSpec)
    (qoIndptr pageIndptr pageIndices lastPageLen : Slice Int32) (state : Nat) : Prop :=
  state < spec.lseNumel ∧ ∃ request < spec.batchSize,
    FindsRequest spec.nnzQo qoIndptr (state / spec.numQueryHeads) request ∧
      PrefillRequestValid spec qoIndptr pageIndptr pageIndices lastPageLen request

/-- What a block of paged prefill may write: its own row, where the request of the row is valid. -/
def PrefillOwn (spec : Bf16PagedPrefillSpec)
    (qoIndptr pageIndptr pageIndices lastPageLen : Slice Int32) (state cell : Nat) : Prop :=
  cell = state ∧ PrefillRowValid spec qoIndptr pageIndptr pageIndices lastPageLen state

variable {spec : Bf16PagedPrefillSpec} {qoIndptr pageIndptr pageIndices lastPageLen : Slice Int32}
  {len : KernelBuffer → Nat}

/-- Every row of results has a valid request where the host validator accepts the metadata. -/
theorem prefillRowValid_of_valid
    (valid : PagedPrefillValid spec qoIndptr pageIndptr pageIndices lastPageLen) {state : Nat}
    (h : state < spec.lseNumel) :
    PrefillRowValid spec qoIndptr pageIndptr pageIndices lastPageLen state := by
  have qo := valid.qo
  have hrow : state / spec.numQueryHeads < spec.nnzQo := (lt_rows_iff spec.queryHeads_pos).mpr h
  obtain ⟨request, ⟨hr, lo, hi⟩, -⟩ := qo.existsUnique_request hrow
  have ranges : ∀ r < spec.batchSize, QueryRange spec.nnzQo qoIndptr r := fun r hr =>
    ⟨qo.int_nonneg hr.le, qo.increasing r hr, qo.int_le_total hr⟩
  refine ⟨h, request, hr, ⟨fun r lt => ⟨ranges r (lt.trans hr), fun holds => ?_⟩, ranges request hr,
    lo, hi⟩, { requestValid_of_table valid.table hr with
      qoStart := qo.start
      qoTotal := qo.total
      range := ranges request hr
      causal := valid.causal request hr }⟩
  have := qo.start_mono (show r + 1 ≤ request from lt) hr.le
  exact absurd holds.2 (by omega)

/-- A row sees no more tokens than its request has. -/
theorem causalCount_le {request queryRow : Nat} (row : HoldsRow qoIndptr queryRow request)
    (causal : indptrLen qoIndptr request ≤ pagedKvLen pageIndptr lastPageLen request) :
    causalCount qoIndptr (pagedKvLen pageIndptr lastPageLen request) request queryRow ≤
      pagedKvLen pageIndptr lastPageLen request := by
  obtain ⟨lo, hi⟩ := row
  unfold causalCount
  unfold indptrLen at causal ⊢
  omega

variable (lens : AttentionLens len spec.lseNumel (spec.maxNumPages * 16) spec.numKvHeads)
  (table : PageTableLens len spec.batchSize pageIndptr pageIndices lastPageLen)
  (same : len .qoIndptr = qoIndptr.len) (qoLen : qoIndptr.len = spec.batchSize + 1)
include lens table same qoLen

theorem pagedPrefillTokenParallelGuard_safe {own : Nat → Prop} {warps state thread : Nat}
    (hw : 0 < warps) (le : warps ≤ 16) (shared : len .pageValid = warps) (ht : thread < warps * 32) :
    Safe (Contained len own)
      (pagedPrefillTokenParallelGuard spec.batchSize spec.nnzQo spec.maxNumPages spec.numQueryHeads
        qoIndptr pageIndptr pageIndices lastPageLen warps state thread)
      fun r =>
        (r.isSome = true ↔ PrefillRowValid spec qoIndptr pageIndptr pageIndices lastPageLen state) ∧
        ∀ request, FindsRequest spec.nnzQo qoIndptr (state / spec.numQueryHeads) request →
          ∀ row, r = some row → row = (pageIndptr.int request, causalCount qoIndptr
            (pagedKvLen pageIndptr lastPageLen request) request (state / spec.numQueryHeads)) := by
  refine (safe_compute lens.rows_ok).step ?_
  split
  · rename_i outside
    exact safe_pure ⟨iff_of_false nofun fun valid => Nat.not_le.mpr valid.1 outside, nofun⟩
  rename_i inside
  have hs : state < spec.lseNumel := Nat.lt_of_not_le inside
  refine (safe_compute (divWord_ok spec.queryHeads_pos)).step ?_
  refine (requestOfRow_safe same qoLen table.batch_fits).bind ?_
  rintro (_ | request) found
  · refine safe_pure ⟨iff_of_false nofun fun ⟨_, request, hr, finds, _⟩ => ?_, nofun⟩
    cases (found request).mpr ⟨hr, finds⟩
  obtain ⟨hr, finds⟩ := (found request).mp rfl
  have only : ∀ {other}, FindsRequest spec.nnzQo qoIndptr (state / spec.numQueryHeads) other →
      other = request := fun h => h.unique finds
  dsimp only
  refine (readPrefillRange_safe table same qoLen hr finds.range).step ?_
  refine (prefillEndsMatch_safe table same qoLen spec.qo_lt).bind fun ends hends => ?_
  have checks := metadataValid_iff pageIndices lastPageLen request hends
  refine (votePages_safe shared hw le ht (fun valid => (checks.mp valid).2) table).bind
    fun goes vote => ?_
  split
  · rename_i stops
    refine safe_pure ⟨iff_of_false nofun fun ⟨_, other, _, finds', valid⟩ => ?_, nofun⟩
    obtain rfl := only finds'
    rw [vote.mpr ⟨checks.mpr ⟨⟨valid.qoStart, valid.qoTotal⟩, valid.toPageRangeValid⟩,
      valid.pages⟩] at stops
    cases stops
  rename_i passed
  obtain ⟨checked, pages⟩ := vote.mp (by simpa using passed)
  obtain ⟨⟨qoStart, qoTotal⟩, range⟩ := checks.mp checked
  refine (safe_compute (causalTokens_ok range finds.row)).step ?_
  split_ifs with causal
  · refine safe_pure ⟨iff_of_true rfl ⟨hs, request, hr, finds, ?_⟩, fun other finds' row hrow => ?_⟩
    · exact { range with pages, qoStart, qoTotal, range := finds.range, causal }
    · obtain rfl := only finds'
      exact (Option.some.inj hrow).symm
  · refine safe_pure ⟨iff_of_false nofun fun ⟨_, other, _, finds', valid⟩ => ?_, nofun⟩
    obtain rfl := only finds'
    exact causal valid.causal

variable (results : ResultLens len spec.lseNumel)
include results

theorem pagedPrefill_safe (state lane : Nat) :
    Safe (Contained len (PrefillOwn spec qoIndptr pageIndptr pageIndices lastPageLen state))
      (pagedPrefill spec.batchSize spec.nnzQo spec.maxNumPages spec.numQueryHeads spec.numKvHeads
        qoIndptr pageIndptr pageIndices lastPageLen state lane) fun _ => True := by
  have pageLen := table.indptr_len
  refine (safe_compute lens.rows_ok).step ?_
  split
  · exact safe_pure trivial
  rename_i inside
  rw [not_or, not_le, not_le] at inside
  obtain ⟨hs, hl⟩ : state < spec.lseNumel ∧ lane < 32 := inside
  refine (prefillEndsMatch_safe table same qoLen spec.qo_lt).bind fun ends hends => ?_
  split
  · exact safe_pure trivial
  rename_i passed
  obtain ⟨qoStart, qoTotal, start⟩ := hends.mp (by simpa using passed)
  refine (readI32_safe (by omega) table.indptr rfl).step ?_
  split
  · exact safe_pure trivial
  rename_i nonneg
  refine (readI32_safe (by omega) table.indptr rfl).step ?_
  split
  · exact safe_pure trivial
  rename_i cast
  have total : pageIndptr.int spec.batchSize = pageIndices.len := by
    have := asUsize_of_nonneg (not_lt.mp nonneg) (pageIndptr.int_lt _)
    omega
  refine (safe_compute (divWord_ok spec.queryHeads_pos)).step ?_
  refine (requestOfRow_safe same qoLen table.batch_fits).bind ?_
  rintro (_ | request) found
  · exact safe_pure trivial
  obtain ⟨hr, finds⟩ := (found request).mp rfl
  refine (readPrefillRange_safe table same qoLen hr finds.range).step ?_
  split
  · exact safe_pure trivial
  rename_i checked
  have range : PageRangeValid spec.batchSize pageIndptr pageIndices lastPageLen request :=
    (pagesInside_iff start total).mp (by simpa using checked)
  refine (directPages_safe table range).bind fun finished exist => ?_
  split
  · exact safe_pure trivial
  rename_i all
  have pages := exist (by simpa using all)
  refine (safe_compute (causalTokens_ok range finds.row)).step ?_
  split_ifs with causal
  · obtain ⟨kvHead, hk, head⟩ :=
      kvHeadOf_ok spec.queryHeads_pos spec.kvHeads_pos spec.group state
    refine (safe_compute head).step ((safe_compute (rowPairs_ok hs hl lens.query_fits)).step ?_)
    refine (loadQuery_safe lens hs hl).step ?_
    refine Safe.step (r := ()) (safe_forEach fun token _ before => ?_) ?_
    · have inside := before.trans_le (causalCount_le finds.row causal)
      refine (pagedKvPair_safe table lens range hk hl pages inside).bind ?_
      rintro _ ⟨row, hrow, rfl⟩
      exact loadKeyValue_safe lens hrow hk hl
    · refine (storeResult_safe results hs hl ⟨rfl, hs, request, hr, finds, ?_⟩).mono
        fun _ _ => trivial
      exact { range with pages, qoStart, qoTotal, range := finds.range, causal }
  · exact safe_pure trivial

theorem pagedPrefillTokenParallel_safe {warps : Nat} (hw : 0 < warps) (le : warps ≤ 16)
    (shared : len .partialStates = warps * 130) (flags : len .pageValid = warps) (state : Nat)
    {thread : Nat} (ht : thread < warps * 32) :
    Safe (Contained len (PrefillOwn spec qoIndptr pageIndptr pageIndices lastPageLen state))
      (pagedPrefillTokenParallel spec.batchSize spec.nnzQo spec.maxNumPages spec.numQueryHeads
        spec.numKvHeads qoIndptr pageIndptr pageIndices lastPageLen warps state thread)
      fun _ => True := by
  refine (pagedPrefillTokenParallelGuard_safe lens table same qoLen hw le flags ht).bind ?_
  rintro (_ | row) ⟨passed, found⟩
  · exact safe_pure trivial
  obtain ⟨hs, request, hr, finds, valid⟩ := passed.mp rfl
  obtain rfl := found request finds row rfl
  obtain ⟨kvHead, hk, head⟩ :=
    kvHeadOf_ok spec.queryHeads_pos spec.kvHeads_pos spec.group state
  have count := causalCount_le finds.row valid.causal
  have tokens := valid.kvLen_lt
  refine (safe_compute head).step ?_
  refine (tokenParallelRow_safe lens results shared le hs ht hk ⟨rfl, passed.mp rfl⟩
    (fun warp before => tokenCut_ok hw before le (count.trans_lt tokens)) ?_).mono fun _ _ => trivial
  intro token _ before
  have stop : floorCut (causalCount qoIndptr (pagedKvLen pageIndptr lastPageLen request) request
      (state / spec.numQueryHeads)) warps (thread / 32 + 1) ≤ _ := floorCut_le (by omega)
  exact pagedKvPair_safe table lens valid.toPageRangeValid hk (Nat.mod_lt _ (by decide)) valid.pages
    ((before.trans_le stop).trans_le count)

end Kernels

end LoomKernels.Memory
