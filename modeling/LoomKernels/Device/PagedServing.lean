import LoomKernels.Device.PagedDirect

/-!
# The rows that paged launches serve

Of any metadata of the right lengths, the guards of the paged kernels accept the requests that are
valid by themselves (`Memory.DecodeRowValid`, `Memory.PrefillRowValid`), whatever the others hold.
The equations of this module reduce each kernel, on any metadata, to a row whose tokens are all found
or to a return without a write. The direct kernels and the ones that split a row over warps ask for
the same.
-/

namespace LoomKernels

open Memory (PageRangeValid PagesExist PageRequestValid pageExists pageExists_iff DecodeRowValid
  QueryRange HoldsRow FindsRequest PrefillRequestValid PrefillRowValid)

/-- The reads of the page table that all guards make. -/
theorem pageReads_ok {batchSize request : Nat} {pageIndptr lastPageLen : Slice Int32}
    (indptrLen_eq : pageIndptr.len = batchSize + 1) (tailLen_eq : lastPageLen.len = batchSize)
    (h : request < batchSize) :
    pageIndptr.read batchSize = .ok (pageIndptr.int batchSize) ∧
      pageIndptr.read request = .ok (pageIndptr.int request) ∧
      pageIndptr.read (request + 1) = .ok (pageIndptr.int (request + 1)) ∧
      lastPageLen.read request = .ok (lastPageLen.int request) ∧
      pageIndptr.read 0 = .ok (pageIndptr.int 0) := by
  refine ⟨?_, ?_, ?_, ?_, ?_⟩
  all_goals exact Slice.read_ok (by omega)

/-! ## Paged decode -/

section Decode

variable {spec : Bf16PagedBatchDecodeSpec} {pageIndptr pageIndices lastPageLen : Slice Int32}

/-- Where the key and value of a token of a row of results start. -/
def Bf16PagedBatchDecodeSpec.rowOffset (spec : Bf16PagedBatchDecodeSpec)
    (pageIndptr pageIndices : Slice Int32) (state token : Nat) : Nat :=
  slotOffset spec.numKvHeads (state % spec.numQueryHeads / spec.gqaGroupSize)
    (pagedSlot pageIndptr pageIndices (state / spec.numQueryHeads) token)

/-- The number of tokens of a row of results. -/
def Bf16PagedBatchDecodeSpec.rowLen (spec : Bf16PagedBatchDecodeSpec)
    (pageIndptr lastPageLen : Slice Int32) (state : Nat) : Nat :=
  pagedKvLen pageIndptr lastPageLen (state / spec.numQueryHeads)

variable (indptrLen_eq : pageIndptr.len = spec.batchSize + 1)
  (tailLen_eq : lastPageLen.len = spec.batchSize) {state : Nat} (h : state < spec.lseNumel)
include indptrLen_eq tailLen_eq h

theorem pagedBatchDecodeGuard_served
    (valid : PageRequestValid spec.batchSize spec.maxNumPages pageIndptr pageIndices lastPageLen
      (state / spec.numQueryHeads)) :
    pagedBatchDecodeGuard spec.batchSize spec.maxNumPages spec.numQueryHeads pageIndptr pageIndices
        lastPageLen state =
      .ok (some (pageIndptr.int (state / spec.numQueryHeads),
        spec.rowLen pageIndptr lastPageLen state)) := by
  have hr : state / spec.numQueryHeads < spec.batchSize := (lt_rows_iff spec.queryHeads_pos).mpr h
  have range := valid.toPageRangeValid
  obtain ⟨lastEntry, startEntry, stopEntry, tailEntry, firstEntry⟩ :=
    pageReads_ok indptrLen_eq tailLen_eq hr
  obtain ⟨flag, vote, agree⟩ :=
    pagesValid_range range spec.maxNumPages (show 0 < pagedBatchDecodeWarpsPerBlock by decide)
  obtain rfl := agree.mpr valid.pages
  rw [pagedBatchDecodeGuard, if_neg (show ¬ state ≥ spec.batchSize * _ from Nat.not_le.mpr h)]
  simp only [lastEntry, startEntry, stopEntry, tailEntry, firstEntry, ok_bind]
  rw [decide_eq_true (pageRange_checks.mpr range), asUsize_int_sub range.pageStart range.pageEnd,
    vote, ok_bind, if_neg (by simp), subUsize_ok range.len_pos, ok_bind, range.kvLen_eq]
  rfl

theorem pagedBatchDecodeGuard_unserved
    (other : ¬ PageRequestValid spec.batchSize spec.maxNumPages pageIndptr pageIndices lastPageLen
      (state / spec.numQueryHeads)) :
    pagedBatchDecodeGuard spec.batchSize spec.maxNumPages spec.numQueryHeads pageIndptr pageIndices
        lastPageLen state = .ok none := by
  have hr : state / spec.numQueryHeads < spec.batchSize := (lt_rows_iff spec.queryHeads_pos).mpr h
  obtain ⟨lastEntry, startEntry, stopEntry, tailEntry, firstEntry⟩ :=
    pageReads_ok indptrLen_eq tailLen_eq hr
  rw [pagedBatchDecodeGuard, if_neg (show ¬ state ≥ spec.batchSize * _ from Nat.not_le.mpr h)]
  simp only [lastEntry, startEntry, stopEntry, tailEntry, firstEntry, ok_bind]
  by_cases range : PageRangeValid spec.batchSize pageIndptr pageIndices lastPageLen
    (state / spec.numQueryHeads)
  · obtain ⟨flag, vote, agree⟩ := pagesValid_range range spec.maxNumPages
      (show 0 < pagedBatchDecodeWarpsPerBlock by decide)
    have no : flag = false := Bool.eq_false_iff.mpr fun yes => other ⟨range, agree.mp yes⟩
    rw [decide_eq_true (pageRange_checks.mpr range), asUsize_int_sub range.pageStart range.pageEnd,
      vote, ok_bind, no]
    rfl
  · rw [decide_eq_false (fun checks => range (pageRange_checks.mp checks))]
    rfl

theorem pagedBatchDecodeDirectGuard_range {lane : Nat} (hl : lane < warpThreads)
    (range : PageRangeValid spec.batchSize pageIndptr pageIndices lastPageLen
      (state / spec.numQueryHeads)) :
    pagedBatchDecodeDirectGuard spec.batchSize spec.numQueryHeads pageIndptr pageIndices lastPageLen
        state lane =
      .ok (some (pageIndptr.int (state / spec.numQueryHeads),
        spec.rowLen pageIndptr lastPageLen state)) := by
  have hr : state / spec.numQueryHeads < spec.batchSize := (lt_rows_iff spec.queryHeads_pos).mpr h
  have small : ¬ (state ≥ spec.batchSize * spec.numQueryHeads ∨ lane ≥ warpThreads) :=
    not_or.mpr ⟨Nat.not_le.mpr h, Nat.not_le.mpr hl⟩
  obtain ⟨lastEntry, startEntry, stopEntry, tailEntry, firstEntry⟩ :=
    pageReads_ok indptrLen_eq tailLen_eq hr
  rw [pagedBatchDecodeDirectGuard, if_neg small]
  simp only [lastEntry, startEntry, stopEntry, tailEntry, firstEntry, ok_bind]
  have checks := pageRange_checks.mpr range
  rw [if_neg (by omega), asUsize_int_sub range.pageStart range.pageEnd, subUsize_ok range.len_pos,
    ok_bind, range.kvLen_eq]
  rfl

theorem pagedBatchDecodeDirectGuard_other {lane : Nat} (hl : lane < warpThreads)
    (other : ¬ PageRangeValid spec.batchSize pageIndptr pageIndices lastPageLen
      (state / spec.numQueryHeads)) :
    pagedBatchDecodeDirectGuard spec.batchSize spec.numQueryHeads pageIndptr pageIndices lastPageLen
        state lane = .ok none := by
  have hr : state / spec.numQueryHeads < spec.batchSize := (lt_rows_iff spec.queryHeads_pos).mpr h
  have small : ¬ (state ≥ spec.batchSize * spec.numQueryHeads ∨ lane ≥ warpThreads) :=
    not_or.mpr ⟨Nat.not_le.mpr h, Nat.not_le.mpr hl⟩
  obtain ⟨lastEntry, startEntry, stopEntry, tailEntry, firstEntry⟩ :=
    pageReads_ok indptrLen_eq tailLen_eq hr
  rw [pagedBatchDecodeDirectGuard, if_neg small]
  simp only [lastEntry, startEntry, stopEntry, tailEntry, firstEntry, ok_bind]
  refine (if_pos ?_).trans rfl
  by_contra good
  refine other (pageRange_checks.mp ?_)
  omega

variable {F B : Type} {ops : DeviceOps F B} {softmaxScaleLog2 : F} {query keyPages valuePages : Nat → B}

/-- The direct decode kernel serves a row whose request is valid. -/
theorem pagedBatchDecodeDirect_served (loops : ops.LoopsReturn softmaxScaleLog2 query keyPages valuePages)
    {lane : Nat} (hl : lane < warpThreads)
    (valid : PageRequestValid spec.batchSize spec.maxNumPages pageIndptr pageIndices lastPageLen
      (state / spec.numQueryHeads)) :
    ops.pagedBatchDecodeDirect spec.batchSize spec.maxNumPages spec.numQueryHeads spec.numKvHeads
        softmaxScaleLog2 query keyPages valuePages pageIndptr pageIndices lastPageLen state lane =
      ops.directRow softmaxScaleLog2 query keyPages valuePages state
        (spec.rowOffset pageIndptr pageIndices state) 0 (spec.rowLen pageIndptr lastPageLen state)
        lane := by
  have range := valid.toPageRangeValid
  obtain ⟨s, run⟩ := loops (state * singleDecodeHeadDim) (spec.rowOffset pageIndptr pageIndices state)
    0 (spec.rowLen pageIndptr lastPageLen state) (Nat.zero_le _)
  have found : ∀ token, 0 ≤ token → token < spec.rowLen pageIndptr lastPageLen state →
      checkedKvOffset spec.maxNumPages spec.numKvHeads pageIndices
        (pageIndptr.int (state / spec.numQueryHeads))
        (state % spec.numQueryHeads / (spec.numQueryHeads / spec.numKvHeads)) token =
        .ok (some (spec.rowOffset pageIndptr pageIndices state token)) := by
    intro token _ ht
    rw [checkedKvOffset_range range ht, if_pos (pageExists_iff.mpr
      (valid.pages _ (Nat.le_add_right _ _) (range.slot_lt ht)))]
    rfl
  rw [DeviceOps.pagedBatchDecodeDirect,
    pagedBatchDecodeDirectGuard_range indptrLen_eq tailLen_eq h hl range, ok_bind]
  dsimp only
  rw [checkedTokenLoop_found (Nat.zero_le _) found run, DeviceOps.directRow, run]
  rfl

/-- The direct decode kernel returns without a write from a row whose request is not valid, also when
it finds so only in the middle of the tokens. -/
theorem pagedBatchDecodeDirect_unserved
    (loops : ops.LoopsReturn softmaxScaleLog2 query keyPages valuePages) {lane : Nat}
    (hl : lane < warpThreads)
    (other : ¬ PageRequestValid spec.batchSize spec.maxNumPages pageIndptr pageIndices lastPageLen
      (state / spec.numQueryHeads)) :
    ops.pagedBatchDecodeDirect spec.batchSize spec.maxNumPages spec.numQueryHeads spec.numKvHeads
        softmaxScaleLog2 query keyPages valuePages pageIndptr pageIndices lastPageLen state lane =
      .ok ⟨[], []⟩ := by
  rw [DeviceOps.pagedBatchDecodeDirect]
  by_cases range : PageRangeValid spec.batchSize pageIndptr pageIndices lastPageLen
    (state / spec.numQueryHeads)
  · rw [pagedBatchDecodeDirectGuard_range indptrLen_eq tailLen_eq h hl range, ok_bind]
    rcases pagesExist_or_missing range spec.maxNumPages with pages | ⟨token, ht, gone, before⟩
    · exact absurd ⟨range, pages⟩ other
    have found : ∀ t, 0 ≤ t → t < token →
        checkedKvOffset spec.maxNumPages spec.numKvHeads pageIndices
          (pageIndptr.int (state / spec.numQueryHeads))
          (state % spec.numQueryHeads / (spec.numQueryHeads / spec.numKvHeads)) t =
          .ok (some (spec.rowOffset pageIndptr pageIndices state t)) := by
      intro t _ lt
      rw [checkedKvOffset_range range (lt.trans ht), if_pos (before t lt)]
      rfl
    have missing : checkedKvOffset spec.maxNumPages spec.numKvHeads pageIndices
        (pageIndptr.int (state / spec.numQueryHeads))
        (state % spec.numQueryHeads / (spec.numQueryHeads / spec.numKvHeads)) token = .ok none := by
      rw [checkedKvOffset_range range ht, gone]
      rfl
    have before_end : token < spec.rowLen pageIndptr lastPageLen state := ht
    dsimp only
    rw [checkedTokenLoop_missing loops (Nat.zero_le _) before_end found missing]
    rfl
  · rw [pagedBatchDecodeDirectGuard_other indptrLen_eq tailLen_eq h hl range]
    rfl

/-- The token-parallel decode kernel on a row whose request is valid. -/
theorem pagedBatchDecodeTokenParallel_served (partialStates : Nat → F) (thread : Nat)
    (valid : PageRequestValid spec.batchSize spec.maxNumPages pageIndptr pageIndices lastPageLen
      (state / spec.numQueryHeads)) :
    ops.pagedBatchDecodeTokenParallel spec.batchSize spec.maxNumPages spec.numQueryHeads
        spec.numKvHeads softmaxScaleLog2 query keyPages valuePages pageIndptr pageIndices lastPageLen
        partialStates state thread =
      ops.tokenParallelRow pagedBatchDecodeWarpsPerBlock (fun p => ops.mergeAfterFirst (p == 0))
        ⟨ops.zero, ops.zero, fun _ => ops.zero⟩ softmaxScaleLog2 query keyPages valuePages state
        (spec.rowOffset pageIndptr pageIndices state) 0 (spec.rowLen pageIndptr lastPageLen state)
        partialStates thread := by
  rw [DeviceOps.pagedBatchDecodeTokenParallel,
    pagedBatchDecodeGuard_served indptrLen_eq tailLen_eq h valid, ok_bind]
  refine tokenParallelBlock_congr ops _ _ (fun warp hw => ?_) partialStates state thread
  rw [Nat.zero_add, Nat.zero_add]
  refine ops.tokenLoop_congr _ _ _ _ _ _ fun token _ hhi => ?_
  have inside : token < spec.rowLen pageIndptr lastPageLen state :=
    hhi.trans_le (floorCut_le (show warp + 1 ≤ pagedBatchDecodeWarpsPerBlock from hw))
  exact pagedKvOffset_valid valid inside _ _

theorem pagedBatchDecodeTokenParallel_unserved (partialStates : Nat → F) (thread : Nat)
    (other : ¬ PageRequestValid spec.batchSize spec.maxNumPages pageIndptr pageIndices lastPageLen
      (state / spec.numQueryHeads)) :
    ops.pagedBatchDecodeTokenParallel spec.batchSize spec.maxNumPages spec.numQueryHeads
        spec.numKvHeads softmaxScaleLog2 query keyPages valuePages pageIndptr pageIndices lastPageLen
        partialStates state thread = .ok ⟨[], []⟩ := by
  rw [DeviceOps.pagedBatchDecodeTokenParallel,
    pagedBatchDecodeGuard_unserved indptrLen_eq tailLen_eq h other]
  rfl

end Decode

/-! ## The request of a query row -/

section Search

variable {batchSize nnzQo queryRow request : Nat} {qoIndptr : Slice Int32}
  (qoLen_eq : qoIndptr.len = batchSize + 1)
include qoLen_eq

/-- A pass of the search over a query range that is not in order returns. -/
theorem pagedPrefillSearch_bad (h : request < batchSize)
    (bad : ¬ QueryRange nnzQo qoIndptr request) :
    pagedPrefillSearch nnzQo qoIndptr queryRow request = .ok (.inr none) := by
  have startEntry : qoIndptr.read request = .ok _ := Slice.read_ok (by omega)
  have stopEntry : qoIndptr.read (request + 1) = .ok _ := Slice.read_ok (by omega)
  rw [pagedPrefillSearch, startEntry, stopEntry]
  refine if_pos ?_
  by_contra good
  have stop : asUsize (qoIndptr.int (request + 1)) = indptrStart qoIndptr (request + 1) :=
    asUsize_int (by omega)
  rw [stop] at good
  refine bad ⟨by omega, by omega, ?_⟩
  unfold indptrStart at good
  omega

/-- A pass of the search over a query range that is in order. -/
theorem pagedPrefillSearch_good (h : request < batchSize)
    (range : QueryRange nnzQo qoIndptr request) :
    (HoldsRow qoIndptr queryRow request → pagedPrefillSearch nnzQo qoIndptr queryRow request =
        .ok (.inr (some request))) ∧
      (¬ HoldsRow qoIndptr queryRow request → pagedPrefillSearch nnzQo qoIndptr queryRow request =
        .ok (.inl ())) := by
  obtain ⟨nonneg, increasing, inside⟩ := range
  have startEntry : qoIndptr.read request = .ok _ := Slice.read_ok (by omega)
  have stopEntry : qoIndptr.read (request + 1) = .ok _ := Slice.read_ok (by omega)
  have start := asUsize_int nonneg
  have stop : asUsize (qoIndptr.int (request + 1)) = indptrStart qoIndptr (request + 1) :=
    asUsize_int (by omega)
  have small : indptrStart qoIndptr (request + 1) ≤ nnzQo := by
    unfold indptrStart
    omega
  rw [pagedPrefillSearch, startEntry, stopEntry]
  simp only [ok_bind, start, stop]
  rw [if_neg (by omega)]
  exact ⟨fun holds => if_pos holds, fun other => if_neg other⟩

/-- The search ends at the first request that has the row, when the ranges up to it are in order, and
finds nothing otherwise. -/
theorem pagedPrefillSearch_total (nnzQo queryRow : Nat) : ∃ found,
    searchM (fun request _ => pagedPrefillSearch nnzQo qoIndptr queryRow request) none batchSize 0 ()
        = .ok found ∧
      ∀ request, found = some request ↔
        request < batchSize ∧ FindsRequest nnzQo qoIndptr queryRow request := by
  by_cases ends : ∃ r, r < batchSize ∧
      ¬ (QueryRange nnzQo qoIndptr r ∧ ¬ HoldsRow qoIndptr queryRow r)
  · classical
    -- the first pass that does not go on
    let r := Nat.find ends
    have hr : r < batchSize := (Nat.find_spec ends).1
    have stops : ¬ (QueryRange nnzQo qoIndptr r ∧ ¬ HoldsRow qoIndptr queryRow r) :=
      (Nat.find_spec ends).2
    have before : ∀ j < r, QueryRange nnzQo qoIndptr j ∧ ¬ HoldsRow qoIndptr queryRow j := by
      intro j hj
      by_contra no
      exact Nat.find_min ends hj ⟨hj.trans hr, no⟩
    have skip : ∀ j < r, pagedPrefillSearch nnzQo qoIndptr queryRow j = .ok (.inl ()) :=
      fun j hj => (pagedPrefillSearch_good qoLen_eq (hj.trans hr) (before j hj).1).2 (before j hj).2
    by_cases range : QueryRange nnzQo qoIndptr r
    · have holds : HoldsRow qoIndptr queryRow r := by
        by_contra no
        exact stops ⟨range, no⟩
      have finds : FindsRequest nnzQo qoIndptr queryRow r := ⟨before, range, holds⟩
      refine ⟨some r, searchM_found (fun _ => ()) hr skip
        ((pagedPrefillSearch_good qoLen_eq hr range).1 holds), fun request => ?_⟩
      constructor
      · rintro ⟨⟩
        exact ⟨hr, finds⟩
      · rintro ⟨-, other⟩
        rw [finds.unique other]
    · refine ⟨none, searchM_found (fun _ => ()) hr skip (pagedPrefillSearch_bad qoLen_eq hr range),
        fun request => iff_of_false nofun ?_⟩
      rintro ⟨-, finds⟩
      rcases Nat.lt_trichotomy request r with lt | eq | gt
      · exact (before request lt).2 finds.row
      · exact range (eq ▸ finds.range)
      · exact range (finds.before r gt).1
  · have goes : ∀ r < batchSize, QueryRange nnzQo qoIndptr r ∧ ¬ HoldsRow qoIndptr queryRow r := by
      intro r hr
      by_contra no
      exact ends ⟨r, hr, no⟩
    refine ⟨none, searchM_end (fun _ => ()) fun j hj =>
      (pagedPrefillSearch_good qoLen_eq hj (goes j hj).1).2 (goes j hj).2, fun request => ?_⟩
    exact iff_of_false nofun fun found => (goes request found.1).2 found.2.row

omit qoLen_eq in
/-- The request that the search finds is the one that the ranges name. -/
theorem requestOf_finds (start : qoIndptr.int 0 = 0) (h : request < batchSize)
    (finds : FindsRequest nnzQo qoIndptr queryRow request) :
    requestOf qoIndptr batchSize queryRow = request := by
  have behind : ∀ r ≤ request, indptrStart qoIndptr r ≤ queryRow := by
    intro r hr
    induction r with
    | zero =>
      rw [indptrStart, start]
      exact Nat.zero_le _
    | succ r ih =>
      by_contra no
      exact (finds.before r hr).2 ⟨ih (Nat.le_of_succ_le hr), Nat.lt_of_not_le no⟩
  rw [requestOf, List.findIdx_eq (by simpa using h)]
  refine ⟨by simpa using finds.row.2, fun j hj => ?_⟩
  simpa using behind (j + 1) hj

end Search

/-! ## Paged prefill -/

section Prefill

variable {spec : Bf16PagedPrefillSpec} {qoIndptr pageIndptr pageIndices lastPageLen : Slice Int32}

/-- Where the key and value of a token of a row of results start. -/
def Bf16PagedPrefillSpec.rowOffset (spec : Bf16PagedPrefillSpec)
    (qoIndptr pageIndptr pageIndices : Slice Int32) (state token : Nat) : Nat :=
  slotOffset spec.numKvHeads (state % spec.numQueryHeads / spec.gqaGroupSize)
    (pagedSlot pageIndptr pageIndices
      (requestOf qoIndptr spec.batchSize (state / spec.numQueryHeads)) token)

/-- The number of tokens of a row of results. -/
def Bf16PagedPrefillSpec.rowLen (spec : Bf16PagedPrefillSpec)
    (qoIndptr pageIndptr lastPageLen : Slice Int32) (state : Nat) : Nat :=
  let request := requestOf qoIndptr spec.batchSize (state / spec.numQueryHeads)
  causalCount qoIndptr (pagedKvLen pageIndptr lastPageLen request) request
    (state / spec.numQueryHeads)

/-- The request of a row of results, where the guards accept it. -/
theorem Memory.PrefillRowValid.requestOf_valid {state : Nat}
    (valid : PrefillRowValid spec qoIndptr pageIndptr pageIndices lastPageLen state) :
    requestOf qoIndptr spec.batchSize (state / spec.numQueryHeads) < spec.batchSize ∧
      FindsRequest spec.nnzQo qoIndptr (state / spec.numQueryHeads)
        (requestOf qoIndptr spec.batchSize (state / spec.numQueryHeads)) ∧
      PrefillRequestValid spec qoIndptr pageIndptr pageIndices lastPageLen
        (requestOf qoIndptr spec.batchSize (state / spec.numQueryHeads)) := by
  obtain ⟨-, request, hr, finds, request_valid⟩ := valid
  rw [requestOf_finds request_valid.qoStart hr finds]
  exact ⟨hr, finds, request_valid⟩

/-- The last entry of `qo_indptr`, as the kernels compare it. -/
theorem qoTotal_iff : qoIndptr.int spec.batchSize = asI32 spec.nnzQo ↔
    qoIndptr.int spec.batchSize = spec.nnzQo := by
  rw [asI32_of_lt spec.qo_lt]

/-- The checks of the token-parallel kernels. -/
theorem prefillRange_checks {request : Nat} :
    (qoIndptr.int 0 = 0 ∧ qoIndptr.int spec.batchSize = asI32 spec.nnzQo ∧ pageIndptr.int 0 = 0 ∧
      pageIndptr.int spec.batchSize ≥ 0 ∧ asUsize (pageIndptr.int spec.batchSize) = pageIndices.len ∧
      pageIndptr.int request ≥ 0 ∧ pageIndptr.int (request + 1) > pageIndptr.int request ∧
      pageIndptr.int (request + 1) ≤ pageIndptr.int spec.batchSize ∧ lastPageLen.int request ≥ 1 ∧
      lastPageLen.int request ≤ pagedPrefillPageSize) ↔
    (qoIndptr.int 0 = 0 ∧ qoIndptr.int spec.batchSize = spec.nnzQo) ∧
      PageRangeValid spec.batchSize pageIndptr pageIndices lastPageLen request := by
  rw [qoTotal_iff, ← pageRange_checks]
  exact ⟨fun ⟨a, b, rest⟩ => ⟨⟨a, b⟩, rest⟩, fun ⟨⟨a, b⟩, rest⟩ => ⟨a, b, rest⟩⟩

/-- The tokens of a row, as the kernels compute them. -/
theorem causalCount_eq {request queryRow : Nat} (row : HoldsRow qoIndptr queryRow request)
    {kvLen : Nat} (causal : indptrLen qoIndptr request ≤ kvLen) :
    (do
      let queryIndex ← subUsize queryRow (indptrStart qoIndptr request)
      let maskedTokens ← subUsize kvLen (indptrLen qoIndptr request)
      return some (pageIndptr.int request, maskedTokens + queryIndex + 1) : DeviceM _) =
      .ok (some (pageIndptr.int request, causalCount qoIndptr kvLen request queryRow)) := by
  rw [subUsize_ok row.1, ok_bind, subUsize_ok causal]
  rfl

variable (qoLen_eq : qoIndptr.len = spec.batchSize + 1)
  (indptrLen_eq : pageIndptr.len = spec.batchSize + 1)
  (tailLen_eq : lastPageLen.len = spec.batchSize) {state : Nat} (h : state < spec.lseNumel)
include qoLen_eq indptrLen_eq tailLen_eq h

/-- The guard of the token-parallel kernels. -/
theorem pagedPrefillGuard_total (pageIndices : Slice Int32) {warps : Nat} (hw : 0 < warps) :
    ∃ found,
    pagedPrefillGuard warps spec.batchSize spec.nnzQo spec.maxNumPages spec.numQueryHeads qoIndptr
        pageIndptr pageIndices lastPageLen state = .ok found ∧
      (PrefillRowValid spec qoIndptr pageIndptr pageIndices lastPageLen state →
        found = some (pageIndptr.int (requestOf qoIndptr spec.batchSize (state / spec.numQueryHeads)),
          spec.rowLen qoIndptr pageIndptr lastPageLen state)) ∧
      (¬ PrefillRowValid spec qoIndptr pageIndptr pageIndices lastPageLen state → found = none) := by
  have firstQo : qoIndptr.read 0 = .ok _ := Slice.read_ok (by omega)
  have lastQo : qoIndptr.read spec.batchSize = .ok _ := Slice.read_ok (by omega)
  obtain ⟨found, search, finds⟩ := pagedPrefillSearch_total qoLen_eq spec.nnzQo
    (state / spec.numQueryHeads)
  rw [pagedPrefillGuard, if_neg (show ¬ state ≥ spec.nnzQo * _ from Nat.not_le.mpr h)]
  dsimp only
  rw [search, ok_bind]
  cases found with
  | none =>
    refine ⟨none, rfl, fun valid => ?_, fun _ => rfl⟩
    obtain ⟨-, request, hr, found, -⟩ := valid
    cases (finds request).mpr ⟨hr, found⟩
  | some request =>
    obtain ⟨hr, found⟩ := (finds request).mp rfl
    have only : PrefillRowValid spec qoIndptr pageIndptr pageIndices lastPageLen state →
        PrefillRequestValid spec qoIndptr pageIndptr pageIndices lastPageLen request := by
      rintro ⟨-, other, -, found', valid⟩
      exact found.unique found' ▸ valid
    have qoStart : qoIndptr.read request = .ok _ := Slice.read_ok (by omega)
    have qoEnd : qoIndptr.read (request + 1) = .ok _ := Slice.read_ok (by omega)
    obtain ⟨lastEntry, startEntry, stopEntry, tailEntry, firstEntry⟩ :=
      pageReads_ok indptrLen_eq tailLen_eq hr
    simp only [qoStart, qoEnd, startEntry, stopEntry, lastEntry, tailEntry, firstQo, lastQo,
      firstEntry, ok_bind]
    by_cases checks : (qoIndptr.int 0 = 0 ∧ qoIndptr.int spec.batchSize = spec.nnzQo) ∧
        PageRangeValid spec.batchSize pageIndptr pageIndices lastPageLen request
    · obtain ⟨⟨start, total⟩, range⟩ := checks
      obtain ⟨flag, vote, agree⟩ := pagesValid_range range spec.maxNumPages hw
      rw [decide_eq_true (prefillRange_checks.mpr ⟨⟨start, total⟩, range⟩),
        asUsize_int_sub range.pageStart range.pageEnd, vote, ok_bind]
      cases flag with
      | false =>
        refine ⟨none, rfl, fun valid => ?_, fun _ => rfl⟩
        cases agree.mpr (only valid).pages
      | true =>
        have qoNonneg := found.range.1
        have qoGrows := found.range.2.1
        rw [asUsize_int qoNonneg, asUsize_int (i := request + 1) (by omega),
          subUsize_ok (by have := found.row.1; have := found.row.2; omega), ok_bind,
          subUsize_ok range.len_pos, ok_bind]
        have kvLen := range.kvLen_eq
        have qoLen : indptrStart qoIndptr (request + 1) - indptrStart qoIndptr request =
          indptrLen qoIndptr request := rfl
        simp only [pagedPrefillPageSize] at kvLen ⊢
        rw [kvLen, qoLen]
        by_cases causal : indptrLen qoIndptr request ≤ pagedKvLen pageIndptr lastPageLen request
        · have valid : PrefillRequestValid spec qoIndptr pageIndptr pageIndices lastPageLen request :=
            { range with
              pages := agree.mp rfl
              qoStart := start
              qoTotal := total
              range := found.range
              causal := causal }
          have row : PrefillRowValid spec qoIndptr pageIndptr pageIndices lastPageLen state :=
            ⟨h, request, hr, found, valid⟩
          rw [if_neg (by simp), if_neg (Nat.not_lt.mpr causal), causalCount_eq found.row causal]
          refine ⟨_, rfl, fun _ => ?_, fun no => absurd row no⟩
          rw [Bf16PagedPrefillSpec.rowLen, requestOf_finds start hr found]
        · rw [if_neg (by simp), if_pos (Nat.lt_of_not_le causal)]
          exact ⟨none, rfl, fun valid => absurd (only valid).causal causal, fun _ => rfl⟩
    · rw [decide_eq_false (fun all => checks (prefillRange_checks.mp all)), pagesValid_false hw]
      refine ⟨none, rfl, fun valid => ?_, fun _ => rfl⟩
      have request_valid := only valid
      exact absurd ⟨⟨request_valid.qoStart, request_valid.qoTotal⟩, request_valid.toPageRangeValid⟩
        checks

omit qoLen_eq indptrLen_eq tailLen_eq h in
/-- The check of the pages by the direct kernel. -/
theorem directPages_ok {request : Nat}
    (range : PageRangeValid spec.batchSize pageIndptr pageIndices lastPageLen request) :
    ∃ flag, (allRangeM (asUsize (pageIndptr.int request)) (asUsize (pageIndptr.int (request + 1)))
        fun pageSlot => do
          let physicalPage ← pageIndices.read pageSlot
          return !(physicalPage < 0 || asUsize physicalPage ≥ spec.maxNumPages) : DeviceM Bool) =
        .ok flag ∧
      (flag = true ↔ PagesExist spec.maxNumPages pageIndptr pageIndices request) := by
  have stop : asUsize (pageIndptr.int (request + 1)) = indptrStart pageIndptr (request + 1) :=
    asUsize_int (range.pageStart.trans range.pageEnd.le)
  rw [asUsize_int range.pageStart, stop]
  refine allRangeM_ok fun i _ hi => ⟨_, by rw [Slice.read_ok (hi.trans_le range.end_le)]; rfl, ?_⟩
  rw [← pageExists_iff, pageExists]
  simp only [Bool.not_eq_true', Bool.or_eq_false_iff, Bool.and_eq_true, decide_eq_true_eq,
    decide_eq_false_iff_not, not_lt, ge_iff_le, not_le]

/-- The guard of the direct kernel accepts the same rows. -/
theorem pagedPrefillDirectGuard_total (pageIndices : Slice Int32) {lane : Nat}
    (hl : lane < warpThreads) : ∃ found,
    pagedPrefillDirectGuard spec.batchSize spec.nnzQo spec.maxNumPages spec.numQueryHeads qoIndptr
        pageIndptr pageIndices lastPageLen state lane = .ok found ∧
      (PrefillRowValid spec qoIndptr pageIndptr pageIndices lastPageLen state →
        found = some (pageIndptr.int (requestOf qoIndptr spec.batchSize (state / spec.numQueryHeads)),
          spec.rowLen qoIndptr pageIndptr lastPageLen state)) ∧
      (¬ PrefillRowValid spec qoIndptr pageIndptr pageIndices lastPageLen state → found = none) := by
  have small : ¬ (state ≥ spec.nnzQo * spec.numQueryHeads ∨ lane ≥ warpThreads) :=
    not_or.mpr ⟨Nat.not_le.mpr h, Nat.not_le.mpr hl⟩
  have firstQo : qoIndptr.read 0 = .ok _ := Slice.read_ok (by omega)
  have lastQo : qoIndptr.read spec.batchSize = .ok _ := Slice.read_ok (by omega)
  have firstPage : pageIndptr.read 0 = .ok _ := Slice.read_ok (by omega)
  have lastPage : pageIndptr.read spec.batchSize = .ok _ := Slice.read_ok (by omega)
  rw [pagedPrefillDirectGuard, if_neg small]
  simp only [firstQo, lastQo, firstPage, lastPage, ok_bind]
  split
  · rename_i bad
    refine ⟨none, rfl, ?_, fun _ => rfl⟩
    rintro ⟨-, request, -, -, valid⟩
    obtain ⟨start, total, pageStart, nonneg, pageTotal, -⟩ :=
      prefillRange_checks.mpr ⟨⟨valid.qoStart, valid.qoTotal⟩, valid.toPageRangeValid⟩
    refine absurd bad ?_
    simp only [not_or, not_not, not_lt]
    exact ⟨start, total, pageStart, nonneg, pageTotal⟩
  rename_i ends
  simp only [not_or, not_not, not_lt] at ends
  obtain ⟨found, search, finds⟩ := pagedPrefillSearch_total qoLen_eq spec.nnzQo
    (state / spec.numQueryHeads)
  rw [search, ok_bind]
  cases found with
  | none =>
    refine ⟨none, rfl, fun valid => ?_, fun _ => rfl⟩
    obtain ⟨-, request, hr, found, -⟩ := valid
    cases (finds request).mpr ⟨hr, found⟩
  | some request =>
    obtain ⟨hr, found⟩ := (finds request).mp rfl
    have only : PrefillRowValid spec qoIndptr pageIndptr pageIndices lastPageLen state →
        PrefillRequestValid spec qoIndptr pageIndptr pageIndices lastPageLen request := by
      rintro ⟨-, other, -, found', valid⟩
      exact found.unique found' ▸ valid
    have qoStart : qoIndptr.read request = .ok _ := Slice.read_ok (by omega)
    have qoEnd : qoIndptr.read (request + 1) = .ok _ := Slice.read_ok (by omega)
    obtain ⟨-, startEntry, stopEntry, tailEntry, -⟩ := pageReads_ok indptrLen_eq tailLen_eq hr
    simp only [qoStart, qoEnd, startEntry, stopEntry, tailEntry, ok_bind]
    split
    · rename_i bad
      refine ⟨none, rfl, fun valid => ?_, fun _ => rfl⟩
      have checks := pageRange_checks.mpr (only valid).toPageRangeValid
      simp only [pagedPrefillPageSize, pagedBatchDecodePageSize] at bad checks
      exact absurd bad (by omega)
    rename_i good
    obtain ⟨start, total⟩ : qoIndptr.int 0 = 0 ∧ qoIndptr.int spec.batchSize = spec.nnzQo :=
      ⟨ends.1, qoTotal_iff.mp ends.2.1⟩
    have range : PageRangeValid spec.batchSize pageIndptr pageIndices lastPageLen request := by
      refine pageRange_checks.mp ⟨ends.2.2.1, ends.2.2.2.1, ends.2.2.2.2, ?_⟩
      simp only [pagedPrefillPageSize, pagedBatchDecodePageSize] at good ⊢
      omega
    obtain ⟨flag, pages, agree⟩ := directPages_ok range
    rw [pages, ok_bind]
    cases flag with
    | false =>
      refine ⟨none, rfl, fun valid => ?_, fun _ => rfl⟩
      cases agree.mpr (only valid).pages
    | true =>
      have qoNonneg := found.range.1
      have qoGrows := found.range.2.1
      rw [asUsize_int qoNonneg, asUsize_int (i := request + 1) (by omega),
        asUsize_int_sub range.pageStart range.pageEnd,
        subUsize_ok (found.row.1.trans found.row.2.le), ok_bind, subUsize_ok range.len_pos, ok_bind]
      have kvLen := range.kvLen_eq
      have qoLen : indptrStart qoIndptr (request + 1) - indptrStart qoIndptr request =
        indptrLen qoIndptr request := rfl
      simp only [pagedPrefillPageSize] at kvLen ⊢
      rw [kvLen, qoLen]
      by_cases causal : indptrLen qoIndptr request ≤ pagedKvLen pageIndptr lastPageLen request
      · have valid : PrefillRequestValid spec qoIndptr pageIndptr pageIndices lastPageLen request :=
          { range with
            pages := agree.mp rfl
            qoStart := start
            qoTotal := total
            range := found.range
            causal := causal }
        have row : PrefillRowValid spec qoIndptr pageIndptr pageIndices lastPageLen state :=
          ⟨h, request, hr, found, valid⟩
        rw [if_neg (by simp), if_neg (Nat.not_lt.mpr causal), causalCount_eq found.row causal]
        refine ⟨_, rfl, fun _ => ?_, fun no => absurd row no⟩
        rw [Bf16PagedPrefillSpec.rowLen, requestOf_finds start hr found]
      · rw [if_neg (by simp), if_pos (Nat.lt_of_not_le causal)]
        exact ⟨none, rfl, fun valid => absurd (only valid).causal causal, fun _ => rfl⟩

omit qoLen_eq indptrLen_eq tailLen_eq h in
/-- The look-up of a token of a row of results. -/
theorem rowOffset_found
    (valid : PrefillRowValid spec qoIndptr pageIndptr pageIndices lastPageLen state) {token : Nat}
    (ht : token < spec.rowLen qoIndptr pageIndptr lastPageLen state) :
    pagedKvOffset spec.numKvHeads pageIndices
        (pageIndptr.int (requestOf qoIndptr spec.batchSize (state / spec.numQueryHeads)))
        (state % spec.numQueryHeads / (spec.numQueryHeads / spec.numKvHeads)) token =
      .ok (spec.rowOffset qoIndptr pageIndptr pageIndices state token) := by
  obtain ⟨-, finds, request⟩ := valid.requestOf_valid
  exact pagedKvOffset_valid request.toPageRequestValid
    (ht.trans_le (Memory.causalCount_le finds.row request.causal)) _ _

variable {F B : Type} {ops : DeviceOps F B} {softmaxScaleLog2 : F} {query keyPages valuePages : Nat → B}

/-- The direct prefill kernel on a row that it serves. -/
theorem pagedPrefillDirect_served {lane : Nat} (hl : lane < warpThreads)
    (valid : PrefillRowValid spec qoIndptr pageIndptr pageIndices lastPageLen state) :
    ops.pagedPrefillDirect spec.batchSize spec.nnzQo spec.maxNumPages spec.numQueryHeads
        spec.numKvHeads softmaxScaleLog2 query keyPages valuePages qoIndptr pageIndptr pageIndices
        lastPageLen state lane =
      ops.directRow softmaxScaleLog2 query keyPages valuePages state
        (spec.rowOffset qoIndptr pageIndptr pageIndices state) 0
        (spec.rowLen qoIndptr pageIndptr lastPageLen state) lane := by
  obtain ⟨found, guard, served, -⟩ := pagedPrefillDirectGuard_total qoLen_eq indptrLen_eq
    tailLen_eq h pageIndices hl
  obtain rfl := served valid
  rw [DeviceOps.pagedPrefillDirect, guard, ok_bind]
  dsimp only
  rw [ops.tokenLoop_congr _ _ _ _ _ _ fun token _ hhi => rowOffset_found valid hhi]
  rfl

theorem pagedPrefillDirect_unserved {lane : Nat} (hl : lane < warpThreads)
    (other : ¬ PrefillRowValid spec qoIndptr pageIndptr pageIndices lastPageLen state) :
    ops.pagedPrefillDirect spec.batchSize spec.nnzQo spec.maxNumPages spec.numQueryHeads
        spec.numKvHeads softmaxScaleLog2 query keyPages valuePages qoIndptr pageIndptr pageIndices
        lastPageLen state lane = .ok ⟨[], []⟩ := by
  obtain ⟨found, guard, -, unserved⟩ := pagedPrefillDirectGuard_total qoLen_eq indptrLen_eq
    tailLen_eq h pageIndices hl
  obtain rfl := unserved other
  rw [DeviceOps.pagedPrefillDirect, guard]
  rfl

/-- The token-parallel prefill kernels on a row that they serve. -/
theorem pagedPrefillTokenParallel_served {warps : Nat} (hw : 0 < warps) (partialStates : Nat → F)
    (thread : Nat)
    (valid : PrefillRowValid spec qoIndptr pageIndptr pageIndices lastPageLen state) :
    ops.pagedPrefillTokenParallel warps spec.batchSize spec.nnzQo spec.maxNumPages
        spec.numQueryHeads spec.numKvHeads softmaxScaleLog2 query keyPages valuePages qoIndptr
        pageIndptr pageIndices lastPageLen partialStates state thread =
      ops.tokenParallelRow warps (fun _ => ops.mergeNonempty) ⟨ops.negInf, ops.zero, fun _ => ops.zero⟩
        softmaxScaleLog2 query keyPages valuePages state
        (spec.rowOffset qoIndptr pageIndptr pageIndices state) 0
        (spec.rowLen qoIndptr pageIndptr lastPageLen state) partialStates thread := by
  obtain ⟨found, guard, served, -⟩ := pagedPrefillGuard_total qoLen_eq indptrLen_eq tailLen_eq
    h pageIndices hw
  obtain rfl := served valid
  rw [DeviceOps.pagedPrefillTokenParallel, guard, ok_bind]
  refine tokenParallelBlock_congr ops _ _ (fun warp hwarp => ?_) partialStates state thread
  rw [Nat.zero_add, Nat.zero_add]
  refine ops.tokenLoop_congr _ _ _ _ _ _ fun token _ hhi => ?_
  exact rowOffset_found valid (hhi.trans_le (floorCut_le (show warp + 1 ≤ warps from hwarp)))

theorem pagedPrefillTokenParallel_unserved {warps : Nat} (hw : 0 < warps) (partialStates : Nat → F)
    (thread : Nat)
    (other : ¬ PrefillRowValid spec qoIndptr pageIndptr pageIndices lastPageLen state) :
    ops.pagedPrefillTokenParallel warps spec.batchSize spec.nnzQo spec.maxNumPages
        spec.numQueryHeads spec.numKvHeads softmaxScaleLog2 query keyPages valuePages qoIndptr
        pageIndptr pageIndices lastPageLen partialStates state thread = .ok ⟨[], []⟩ := by
  obtain ⟨found, guard, -, unserved⟩ := pagedPrefillGuard_total qoLen_eq indptrLen_eq tailLen_eq
    h pageIndices hw
  obtain rfl := unserved other
  rw [DeviceOps.pagedPrefillTokenParallel, guard]
  rfl

end Prefill

end LoomKernels
