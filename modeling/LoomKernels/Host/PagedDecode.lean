import LoomKernels.Host.Indptr
import LoomKernels.Host.ReferenceRow

/-!
# Paged batch decode

The page table of a batch: each request owns a range of entries of `page_indices`, all its pages
are full except the last. `PageTableWellFormed` says what the validators establish
(`checkPageTable_eq_ok`); a `Bf16PagedBatchDecodePageTable` carries it as a field. Over a
well-formed table the partial lookups of the source are total functions of the arrays:
`pagedKvLen` and `pagedSlot`.

The decode reference computes the attention of each request's tokens in logical order
(`pagedBatchDecodeBf16Reference_exact`).
-/

namespace LoomKernels

/-- `PAGED_BATCH_DECODE_PAGE_SIZE` -/
abbrev pagedBatchDecodePageSize : Nat := 16

/-! ## Well-formed page tables -/

/-- What the validators check of the arrays of a page table. -/
structure PageTableWellFormed (batchSize maxNumPages : Nat)
    (pageIndptr pageIndices lastPageLen : Slice Int32) : Prop where
  indptr_len : pageIndptr.len = batchSize + 1
  tail_len : lastPageLen.len = batchSize
  start : pageIndptr.int 0 = 0
  increasing : ∀ request < batchSize, pageIndptr.int request < pageIndptr.int (request + 1)
  tail : ∀ request < batchSize,
    1 ≤ lastPageLen.int request ∧ lastPageLen.int request ≤ pagedBatchDecodePageSize
  total : pageIndptr.int batchSize = pageIndices.len
  page : ∀ i < pageIndices.len, 0 ≤ pageIndices.int i ∧ pageIndices.int i < maxNumPages

/-- The number of tokens of a request. -/
def pagedKvLen (pageIndptr lastPageLen : Slice Int32) (request : Nat) : Nat :=
  (indptrStart pageIndptr (request + 1) - indptrStart pageIndptr request - 1) *
    pagedBatchDecodePageSize + (lastPageLen.int request).toNat

/-- The physical page and the offset in it of a request's token. -/
def pagedSlot (pageIndptr pageIndices : Slice Int32) (request token : Nat) : Nat × Nat :=
  ((pageIndices.int (indptrStart pageIndptr request + token / pagedBatchDecodePageSize)).toNat,
    token % pagedBatchDecodePageSize)

/-- Where the key and value of a slot start, for one key/value head. -/
def slotOffset (numKvHeads kvHead : Nat) (slot : Nat × Nat) : Nat :=
  ((slot.1 * pagedBatchDecodePageSize + slot.2) * numKvHeads + kvHead) * singleDecodeHeadDim

/-! The look-ups of the two metadata views, before anything is known of the arrays. -/

section Lookups

variable (batchSize : Nat) (pageIndptr pageIndices lastPageLen : Slice Int32)

/-- `request_page_range` -/
def pageRangeOf (request : Nat) : Option (Nat × Nat) :=
  if request ≥ batchSize then none
  else some (asUsize (pageIndptr.int request), asUsize (pageIndptr.int (request + 1)))

/-- `request_kv_len` -/
def kvLenOf (request : Nat) : Option Nat := do
  let (start, stop) ← pageRangeOf batchSize pageIndptr request
  let full ← checkedMul (stop - start - 1) pagedBatchDecodePageSize
  checkedAdd full (asUsize (lastPageLen.int request))

/-- `physical_page_for_token`. The second look-up of the range is an `expect` in one of the sources;
it finds what the first one found. -/
def physicalPageOf (request logicalToken : Nat) : Option (Nat × Nat) := do
  let kvLen ← kvLenOf batchSize pageIndptr lastPageLen request
  if logicalToken ≥ kvLen then none
  else
    let (pageStart, _) ← pageRangeOf batchSize pageIndptr request
    let pageSlot := logicalToken / pagedBatchDecodePageSize
    let pageOffset := logicalToken % pagedBatchDecodePageSize
    some (asUsize (pageIndices.int (pageStart + pageSlot)), pageOffset)

end Lookups

namespace PageTableWellFormed

variable {batchSize maxNumPages : Nat} {pageIndptr pageIndices lastPageLen : Slice Int32}
  (table : PageTableWellFormed batchSize maxNumPages pageIndptr pageIndices lastPageLen)
include table

/-- The page ranges. -/
theorem indptr : IndptrWellFormed batchSize pageIndices.len pageIndptr :=
  ⟨table.indptr_len, table.start, table.increasing, table.total⟩

theorem asUsize_tail {request : Nat} (h : request < batchSize) :
    asUsize (lastPageLen.int request) = (lastPageLen.int request).toNat := by
  have := table.tail request h
  have := asUsize_of_nonneg (x := lastPageLen.int request) (by omega) (lastPageLen.int_lt request)
  omega

theorem kvLen_pos {request : Nat} (h : request < batchSize) :
    0 < pagedKvLen pageIndptr lastPageLen request := by
  have := table.tail request h
  unfold pagedKvLen
  omega

theorem kvLen_lt {request : Nat} (h : request < batchSize) :
    pagedKvLen pageIndptr lastPageLen request < 2 ^ 36 := by
  have := table.tail request h
  have := table.indptr.total_lt
  have := table.indptr.start_le_total (show request + 1 ≤ batchSize from h)
  unfold pagedKvLen
  simp only [pagedBatchDecodePageSize] at *
  omega

/-- A token's entry lies in its request's range. -/
theorem entry_lt {request token : Nat} (h : request < batchSize)
    (ht : token < pagedKvLen pageIndptr lastPageLen request) :
    indptrStart pageIndptr request + token / pagedBatchDecodePageSize <
      indptrStart pageIndptr (request + 1) := by
  have := table.tail request h
  have := table.indptr.start_lt h
  unfold pagedKvLen at ht
  simp only [pagedBatchDecodePageSize] at *
  omega

theorem entry_lt_len {request token : Nat} (h : request < batchSize)
    (ht : token < pagedKvLen pageIndptr lastPageLen request) :
    indptrStart pageIndptr request + token / pagedBatchDecodePageSize < pageIndices.len :=
  (table.entry_lt h ht).trans_le (table.indptr.start_le_total h)

theorem slot_lt {request token : Nat} (h : request < batchSize)
    (ht : token < pagedKvLen pageIndptr lastPageLen request) :
    (pagedSlot pageIndptr pageIndices request token).1 < maxNumPages ∧
      (pagedSlot pageIndptr pageIndices request token).2 < pagedBatchDecodePageSize := by
  have := table.page _ (table.entry_lt_len h ht)
  refine ⟨?_, Nat.mod_lt _ (by decide)⟩
  simp only [pagedSlot]
  omega

theorem asUsize_page {i : Nat} (h : i < pageIndices.len) :
    asUsize (pageIndices.int i) = (pageIndices.int i).toNat := by
  have := table.page i h
  have := asUsize_of_nonneg (x := pageIndices.int i) (by omega) (pageIndices.int_lt i)
  omega

theorem pageRangeOf_eq {request : Nat} (h : request < batchSize) :
    pageRangeOf batchSize pageIndptr request =
      some (indptrStart pageIndptr request, indptrStart pageIndptr (request + 1)) := by
  rw [pageRangeOf, if_neg (by omega), table.indptr.asUsize_eq_start h.le,
    table.indptr.asUsize_eq_start h]

/-- The length of every request fits, and is the number of its tokens. -/
theorem kvLenOf_eq {request : Nat} (h : request < batchSize) :
    kvLenOf batchSize pageIndptr lastPageLen request =
      some (pagedKvLen pageIndptr lastPageLen request) := by
  have hlt := table.kvLen_lt h
  unfold pagedKvLen at *
  simp only [kvLenOf, table.pageRangeOf_eq h, Option.bind_eq_bind, Option.bind_some]
  rw [checkedMul_of_lt (by simp only [usizeSize]; omega), Option.bind_some, table.asUsize_tail h,
    checkedAdd_of_lt (by simp only [usizeSize]; omega)]

theorem physicalPageOf_eq {request token : Nat} (h : request < batchSize)
    (ht : token < pagedKvLen pageIndptr lastPageLen request) :
    physicalPageOf batchSize pageIndptr pageIndices lastPageLen request token =
      some (pagedSlot pageIndptr pageIndices request token) := by
  simp only [physicalPageOf, table.kvLenOf_eq h, table.pageRangeOf_eq h, Option.bind_eq_bind,
    Option.bind_some]
  rw [if_neg (by omega), table.asUsize_page (table.entry_lt_len h ht)]
  rfl

theorem physicalPageOf_none {request token : Nat} (h : request < batchSize)
    (ht : pagedKvLen pageIndptr lastPageLen request ≤ token) :
    physicalPageOf batchSize pageIndptr pageIndices lastPageLen request token = none := by
  rw [physicalPageOf, table.kvLenOf_eq h, Option.bind_eq_bind, Option.bind_some, if_pos ht]

end PageTableWellFormed

/-! ## Specification -/

/-- A paged decode contract that `new` accepts. -/
structure Bf16PagedBatchDecodeSpec where
  batchSize : Nat
  maxNumPages : Nat
  numQueryHeads : Nat
  numKvHeads : Nat
  batch_pos : 0 < batchSize
  pages_pos : 0 < maxNumPages
  queryHeads_pos : 0 < numQueryHeads
  kvHeads_pos : 0 < numKvHeads
  group : numQueryHeads % numKvHeads = 0
  batch_fits : batchSize + 1 < usizeSize
  query_fits : batchSize * numQueryHeads * singleDecodeHeadDim < usizeSize
  pages_fit :
    maxNumPages * pagedBatchDecodePageSize * numKvHeads * singleDecodeHeadDim < usizeSize

namespace Bf16PagedBatchDecodeSpec

def new (batchSize maxNumPages numQueryHeads numKvHeads headDim pageSize : Nat) :
    Host Bf16PagedBatchDecodeSpec :=
  if zero : batchSize = 0 ∨ maxNumPages = 0 ∨ numQueryHeads = 0 ∨ numKvHeads = 0 ∨
      headDim = 0 ∨ pageSize = 0 then fail .zeroDimension
  else if dim : headDim ≠ singleDecodeHeadDim then
    fail (.unsupportedHeadDimension singleDecodeHeadDim headDim)
  else if size : pageSize ≠ pagedBatchDecodePageSize then
    fail (.unsupportedPageSize pagedBatchDecodePageSize pageSize)
  else if group : numQueryHeads % numKvHeads ≠ 0 then
    fail (.invalidHeadMapping numQueryHeads numKvHeads)
  -- a `checked_add` and chains of `checked_mul` with one error; each last product bounds the others
  else if fits : batchSize + 1 < usizeSize ∧ batchSize * numQueryHeads * headDim < usizeSize ∧
      maxNumPages * pageSize * numKvHeads * headDim < usizeSize then
    have dim := headDim_supported dim
    have size : pageSize = pagedBatchDecodePageSize := not_not.mp size
    .ok {
      batchSize, maxNumPages, numQueryHeads, numKvHeads
      batch_pos := by omega
      pages_pos := by omega
      queryHeads_pos := by omega
      kvHeads_pos := by omega
      group := heads_divide group
      batch_fits := fits.1
      query_fits := dim ▸ fits.2.1
      pages_fit := by rw [← dim, ← size]; exact fits.2.2 }
  else fail .elementCountOverflow

/-- `new` accepts every specification there is. -/
theorem new_self (spec : Bf16PagedBatchDecodeSpec) :
    new spec.batchSize spec.maxNumPages spec.numQueryHeads spec.numKvHeads singleDecodeHeadDim
      pagedBatchDecodePageSize = .ok spec := by
  have h1 := spec.batch_pos
  have h2 := spec.pages_pos
  have h3 := spec.queryHeads_pos
  have h4 := spec.kvHeads_pos
  rw [new, dif_neg (by simp only [singleDecodeHeadDim, pagedBatchDecodePageSize]; omega),
    dif_neg (by simp), dif_neg (by simp), dif_neg (not_not.mpr spec.group),
    dif_pos ⟨spec.batch_fits, spec.query_fits, spec.pages_fit⟩]

variable (spec : Bf16PagedBatchDecodeSpec)

def gqaGroupSize : Nat := spec.numQueryHeads / spec.numKvHeads

def queryNumel : Nat := spec.batchSize * spec.numQueryHeads * singleDecodeHeadDim

def kvPagesNumel : Nat :=
  spec.maxNumPages * pagedBatchDecodePageSize * spec.numKvHeads * singleDecodeHeadDim

def outputNumel : Nat := spec.queryNumel

def lseNumel : Nat := spec.batchSize * spec.numQueryHeads

def pageIndptrNumel : Nat := spec.batchSize + 1

def lastPageLenNumel : Nat := spec.batchSize

def kvHeadForQueryHead (queryHead : Nat) : Option Nat :=
  if queryHead < spec.numQueryHeads then some (queryHead / spec.gqaGroupSize) else none

/-- The checks of one request's range and tail. -/
def checkPageRequest (pageIndptr lastPageLen : Slice Int32) (request : Nat) : Host Unit :=
  let start := pageIndptr.int request
  let stop := pageIndptr.int (request + 1)
  let length := lastPageLen.int request
  do
    ensure (start ≤ stop) (.nonMonotonicPageIndptr request start stop)
    ensure (stop ≠ start) (.emptyPagedRequest request)
    ensure (1 ≤ length ∧ length ≤ pagedBatchDecodePageSize)
      (.invalidLastPageLength request length pagedBatchDecodePageSize)

/-- The check of one physical page. -/
def checkPageIndex (maxNumPages : Nat) (pageIndices : Slice Int32) (position : Nat) : Host Unit :=
  let index := pageIndices.int position
  ensure ((usizeTryFrom index).any (· < maxNumPages))
    (.pageIndexOutOfRange position index maxNumPages)

/-- The checks of `validate_page_table`. -/
def checkPageTable (pageIndptr pageIndices lastPageLen : Slice Int32) : Host Unit := do
  requireLen "page_indptr" pageIndptr.len spec.pageIndptrNumel
  requireLen "last_page_len" lastPageLen.len spec.lastPageLenNumel
  ensure (pageIndptr.int 0 = 0) (.invalidPageIndptrStart (pageIndptr.int 0))
  checkRange 0 spec.batchSize (checkPageRequest pageIndptr lastPageLen)
  let expectedIndices ← okOr (usizeTryFrom (pageIndptr.int spec.batchSize)) .elementCountOverflow
  requireLen "page_indices" pageIndices.len expectedIndices
  checkRange 0 pageIndices.len (checkPageIndex spec.maxNumPages pageIndices)

theorem checkPageRequest_eq_ok {pageIndptr lastPageLen : Slice Int32} {request : Nat} :
    checkPageRequest pageIndptr lastPageLen request = .ok () ↔
      pageIndptr.int request < pageIndptr.int (request + 1) ∧
      1 ≤ lastPageLen.int request ∧ lastPageLen.int request ≤ pagedBatchDecodePageSize := by
  simp only [checkPageRequest, check_bind_eq_ok, ensure_eq_ok]
  omega

theorem checkPageIndex_eq_ok {maxNumPages : Nat} {pageIndices : Slice Int32} {position : Nat} :
    checkPageIndex maxNumPages pageIndices position = .ok () ↔
      0 ≤ pageIndices.int position ∧ pageIndices.int position < maxNumPages := by
  rw [checkPageIndex, ensure_eq_ok, Option.any_eq_true_iff_get]
  simp only [usizeTryFrom]
  split_ifs with h <;> simp <;> omega

/-- The checks succeed exactly on well-formed tables. -/
theorem checkPageTable_eq_ok {pageIndptr pageIndices lastPageLen : Slice Int32} :
    spec.checkPageTable pageIndptr pageIndices lastPageLen = .ok () ↔
      PageTableWellFormed spec.batchSize spec.maxNumPages pageIndptr pageIndices lastPageLen := by
  simp only [checkPageTable, check_bind_eq_ok, okOr_bind_eq_ok, requireLen_eq_ok, ensure_eq_ok,
    checkRange_ok_iff, usizeTryFrom_eq_some, checkPageRequest_eq_ok, checkPageIndex_eq_ok]
  constructor
  · rintro ⟨hi, ht, h0, hr, n, hn, hp, hx⟩
    exact ⟨hi, ht, h0, fun r h => (hr r (Nat.zero_le _) h).1,
      fun r h => (hr r (Nat.zero_le _) h).2, by rw [hn, hp], fun i h => hx i (Nat.zero_le _) h⟩
  · intro table
    exact ⟨table.indptr_len, table.tail_len, table.start,
      fun r _ h => ⟨table.increasing r h, table.tail r h⟩, _, table.total, rfl,
      fun i _ h => table.page i h⟩

end Bf16PagedBatchDecodeSpec

/-! ## The validated table -/

/-- Validated metadata of one invocation. -/
structure Bf16PagedBatchDecodePageTable where
  spec : Bf16PagedBatchDecodeSpec
  pageIndptr : Slice Int32
  pageIndices : Slice Int32
  lastPageLen : Slice Int32
  valid : PageTableWellFormed spec.batchSize spec.maxNumPages pageIndptr pageIndices lastPageLen

def Bf16PagedBatchDecodeSpec.validatePageTable (spec : Bf16PagedBatchDecodeSpec)
    (pageIndptr pageIndices lastPageLen : Slice Int32) : Host Bf16PagedBatchDecodePageTable :=
  match checked : spec.checkPageTable pageIndptr pageIndices lastPageLen with
  | .ok () =>
    .ok ⟨spec, pageIndptr, pageIndices, lastPageLen, spec.checkPageTable_eq_ok.mp checked⟩
  | .error e => .error e

theorem Bf16PagedBatchDecodeSpec.validatePageTable_ok (spec : Bf16PagedBatchDecodeSpec)
    {pageIndptr pageIndices lastPageLen : Slice Int32}
    (valid : PageTableWellFormed spec.batchSize spec.maxNumPages pageIndptr pageIndices lastPageLen) :
    spec.validatePageTable pageIndptr pageIndices lastPageLen =
      .ok ⟨spec, pageIndptr, pageIndices, lastPageLen, valid⟩ := by
  have checked := spec.checkPageTable_eq_ok.mpr valid
  unfold validatePageTable
  split
  · rfl
  · simp_all

theorem Bf16PagedBatchDecodeSpec.validatePageTable_eq_ok (spec : Bf16PagedBatchDecodeSpec)
    {pageIndptr pageIndices lastPageLen : Slice Int32} {table : Bf16PagedBatchDecodePageTable} :
    spec.validatePageTable pageIndptr pageIndices lastPageLen = .ok table ↔
      ∃ valid, table = ⟨spec, pageIndptr, pageIndices, lastPageLen, valid⟩ := by
  constructor
  · unfold validatePageTable
    split
    · rename_i checked
      intro h
      exact ⟨spec.checkPageTable_eq_ok.mp checked, (Except.ok.inj h).symm⟩
    · intro h
      cases h
  · rintro ⟨valid, rfl⟩
    exact spec.validatePageTable_ok valid

namespace Bf16PagedBatchDecodePageTable

variable (table : Bf16PagedBatchDecodePageTable)

def requestPageRange (request : Nat) : Option (Nat × Nat) :=
  pageRangeOf table.spec.batchSize table.pageIndptr request

def requestKvLen (request : Nat) : Option Nat :=
  kvLenOf table.spec.batchSize table.pageIndptr table.lastPageLen request

/-- Maps a logical token to `(physical_page, offset_in_page)`. -/
def physicalPageForToken (request logicalToken : Nat) : Option (Nat × Nat) :=
  physicalPageOf table.spec.batchSize table.pageIndptr table.pageIndices table.lastPageLen request
    logicalToken

variable {request : Nat}

theorem requestKvLen_eq (h : request < table.spec.batchSize) :
    table.requestKvLen request = some (pagedKvLen table.pageIndptr table.lastPageLen request) :=
  table.valid.kvLenOf_eq h

theorem physicalPageForToken_eq {token : Nat} (h : request < table.spec.batchSize)
    (ht : token < pagedKvLen table.pageIndptr table.lastPageLen request) :
    table.physicalPageForToken request token =
      some (pagedSlot table.pageIndptr table.pageIndices request token) :=
  table.valid.physicalPageOf_eq h ht

theorem physicalPageForToken_none {token : Nat} (h : request < table.spec.batchSize)
    (ht : pagedKvLen table.pageIndptr table.lastPageLen request ≤ token) :
    table.physicalPageForToken request token = none :=
  table.valid.physicalPageOf_none h ht

end Bf16PagedBatchDecodePageTable

/-! ## Reference -/

/-- The key/value offset of a logical token, as the reference looks it up. -/
def Bf16PagedBatchDecodePageTable.kvOffset (table : Bf16PagedBatchDecodePageTable)
    (request kvHead token : Nat) : Host Nat := do
  let slot ← expect (table.physicalPageForToken request token)
    "enumerated token is inside the validated request"
  return slotOffset table.spec.numKvHeads kvHead slot

theorem Bf16PagedBatchDecodePageTable.kvOffset_eq (table : Bf16PagedBatchDecodePageTable)
    {request token : Nat} (h : request < table.spec.batchSize)
    (ht : token < pagedKvLen table.pageIndptr table.lastPageLen request) (kvHead : Nat) :
    table.kvOffset request kvHead token =
      .ok (slotOffset table.spec.numKvHeads kvHead
        (pagedSlot table.pageIndptr table.pageIndices request token)) := by
  rw [kvOffset, table.physicalPageForToken_eq h ht]
  rfl

def pagedBatchDecodeBf16Reference {F B : Type} (ops : FloatOps F B)
    (query keyPages valuePages : Slice B) (pageIndptr pageIndices lastPageLen : Slice Int32)
    (output : Slice B) (lse : Slice F) (spec : Bf16PagedBatchDecodeSpec) :
    Host (AttentionOut F B) := do
  requireLen "Q" query.len spec.queryNumel
  requireLen "K_pages" keyPages.len spec.kvPagesNumel
  requireLen "V_pages" valuePages.len spec.kvPagesNumel
  requireLen "O" output.len spec.outputNumel
  requireLen "LSE" lse.len spec.lseNumel
  let table ← spec.validatePageTable pageIndptr pageIndices lastPageLen
  forRangeM 0 spec.batchSize
    (fun request out => do
      let kvLen ← expect (table.requestKvLen request)
        "enumerated request has validated non-empty pages"
      forRangeM 0 spec.numQueryHeads
        (fun queryHead out => do
          let row := request * spec.numQueryHeads + queryHead
          let kvHead ← expect (spec.kvHeadForQueryHead queryHead)
            "enumerated query head is inside the validated specification"
          let s ← ops.attendRow ops.exp (ops.mul · ops.softmaxScale) query.get keyPages.get
            valuePages.get (row * singleDecodeHeadDim) (table.kvOffset request kvHead) 0 kvLen
          return ops.storeRow row s (ops.naturalLse s) out)
        out)
    ⟨output.get, lse.get⟩

section Rows

variable {F B : Type} (ops : FloatOps F B)

/-- The state that the reference normalizes for a row. -/
def Bf16PagedBatchDecodeSpec.rowState (spec : Bf16PagedBatchDecodeSpec)
    (query keyPages valuePages : Nat → B) (pageIndptr pageIndices lastPageLen : Slice Int32)
    (row : Nat) : SoftmaxState F Nat :=
  ops.attend query keyPages valuePages (row * singleDecodeHeadDim)
    (fun token => slotOffset spec.numKvHeads (row % spec.numQueryHeads / spec.gqaGroupSize)
      (pagedSlot pageIndptr pageIndices (row / spec.numQueryHeads) token))
    0 (pagedKvLen pageIndptr lastPageLen (row / spec.numQueryHeads))

theorem Bf16PagedBatchDecodeSpec.rowState_eq (spec : Bf16PagedBatchDecodeSpec)
    (query keyPages valuePages : Nat → B) (pageIndptr pageIndices lastPageLen : Slice Int32)
    (request : Nat) {head : Nat} (hh : head < spec.numQueryHeads) :
    spec.rowState ops query keyPages valuePages pageIndptr pageIndices lastPageLen
        (request * spec.numQueryHeads + head) =
      ops.attend query keyPages valuePages
        ((request * spec.numQueryHeads + head) * singleDecodeHeadDim)
        (fun token => slotOffset spec.numKvHeads (head / spec.gqaGroupSize)
          (pagedSlot pageIndptr pageIndices request token))
        0 (pagedKvLen pageIndptr lastPageLen request) := by
  rw [rowState, row_div hh, row_mod hh]

/-- The reference stores the states of all rows, whatever the arithmetic. -/
theorem pagedBatchDecodeBf16Reference_computed (spec : Bf16PagedBatchDecodeSpec)
    {query keyPages valuePages output : Slice B} {lse : Slice F}
    {pageIndptr pageIndices lastPageLen : Slice Int32} (hq : query.len = spec.queryNumel)
    (hk : keyPages.len = spec.kvPagesNumel) (hv : valuePages.len = spec.kvPagesNumel)
    (ho : output.len = spec.outputNumel) (hl : lse.len = spec.lseNumel)
    (valid : PageTableWellFormed spec.batchSize spec.maxNumPages pageIndptr pageIndices lastPageLen) :
    ∃ out, pagedBatchDecodeBf16Reference ops query keyPages valuePages pageIndptr pageIndices
        lastPageLen output lse spec = .ok out ∧
      Computed ops (spec.rowState ops query.get keyPages.get valuePages.get pageIndptr pageIndices
        lastPageLen) ⟨output.get, lse.get⟩ spec.lseNumel out := by
  rw [pagedBatchDecodeBf16Reference, requireLen_eq_ok.mpr hq, requireLen_eq_ok.mpr hk,
    requireLen_eq_ok.mpr hv, requireLen_eq_ok.mpr ho, requireLen_eq_ok.mpr hl,
    spec.validatePageTable_ok valid]
  simp only [ok_bind]
  refine forRangeM_invariant
    (P := fun request out => Computed ops (spec.rowState ops query.get keyPages.get valuePages.get
      pageIndptr pageIndices lastPageLen) ⟨output.get, lse.get⟩ (request * spec.numQueryHeads) out)
    (Nat.zero_le _) (by rw [Nat.zero_mul]; exact computed_zero _ _) ?_
  intro request out _ hr computed
  rw [Bf16PagedBatchDecodePageTable.requestKvLen_eq _ hr, expect_some, ok_bind, Nat.add_mul,
    Nat.one_mul]
  refine forRangeM_invariant
    (P := fun head out => Computed ops (spec.rowState ops query.get keyPages.get valuePages.get
      pageIndptr pageIndices lastPageLen) ⟨output.get, lse.get⟩
      (request * spec.numQueryHeads + head) out)
    (Nat.zero_le _) computed ?_
  intro head out _ hh computed
  have hkv : spec.kvHeadForQueryHead head = some (head / spec.gqaGroupSize) := if_pos hh
  have offsets : ∀ token, 0 ≤ token → token < pagedKvLen pageIndptr lastPageLen request → _ :=
    fun token _ ht => Bf16PagedBatchDecodePageTable.kvOffset_eq
      ⟨spec, pageIndptr, pageIndices, lastPageLen, valid⟩ hr ht (head / spec.gqaGroupSize)
  rw [hkv, expect_some, ok_bind, attendRow_eq ops offsets, ok_bind]
  exact ⟨_, rfl, storeRow_computed computed (spec.rowState_eq ops _ _ _ _ _ _ request hh).symm⟩

end Rows

section Exact

variable {K : Type} [Field K] [LinearOrder K] [ExactExp K]

/-- The tokens of a range of a paged request, for one row and key/value head. -/
def pagedTokens (query keyPages valuePages : Nat → K) (pageIndptr pageIndices : Slice Int32)
    (numKvHeads request row kvHead lo hi : Nat) : List (Token K (Fin 128)) :=
  rowTokens scoreLog2 query keyPages valuePages (row * 128)
    (fun token => slotOffset numKvHeads kvHead (pagedSlot pageIndptr pageIndices request token)) lo hi

/-- The tokens that row `request * num_query_heads + query_head` attends to. -/
def Bf16PagedBatchDecodeSpec.tokensOfRow (spec : Bf16PagedBatchDecodeSpec)
    (query keyPages valuePages : Nat → K) (pageIndptr pageIndices lastPageLen : Slice Int32)
    (row : Nat) : List (Token K (Fin 128)) :=
  pagedTokens query keyPages valuePages pageIndptr pageIndices spec.numKvHeads
    (row / spec.numQueryHeads) row (row % spec.numQueryHeads / spec.gqaGroupSize) 0
    (pagedKvLen pageIndptr lastPageLen (row / spec.numQueryHeads))

variable [IsStrictOrderedRing K]

/-- The reference computes, for every request and query head, the attention of the request's
tokens in logical order. -/
theorem pagedBatchDecodeBf16Reference_exact (spec : Bf16PagedBatchDecodeSpec)
    {query keyPages valuePages output lse : Slice K}
    {pageIndptr pageIndices lastPageLen : Slice Int32} (hq : query.len = spec.queryNumel)
    (hk : keyPages.len = spec.kvPagesNumel) (hv : valuePages.len = spec.kvPagesNumel)
    (ho : output.len = spec.outputNumel) (hl : lse.len = spec.lseNumel)
    (valid : PageTableWellFormed spec.batchSize spec.maxNumPages pageIndptr pageIndices lastPageLen) :
    ∃ out, pagedBatchDecodeBf16Reference (exactOps K) query keyPages valuePages pageIndptr
        pageIndices lastPageLen output lse spec = .ok out ∧
      Filled (spec.tokensOfRow query.get keyPages.get valuePages.get pageIndptr pageIndices
        lastPageLen) ⟨output.get, lse.get⟩ spec.lseNumel out := by
  obtain ⟨out, run, computed⟩ :=
    pagedBatchDecodeBf16Reference_computed (exactOps K) spec hq hk hv ho hl valid
  refine ⟨out, run, computed.filled fun row hr => ?_⟩
  have request : row / spec.numQueryHeads < spec.batchSize := (lt_rows_iff spec.queryHeads_pos).mpr hr
  exact ⟨_, _, _, _, _, 0, _, valid.kvLen_pos request, rfl, rfl⟩

end Exact

/-! ## One page -/

theorem twoPages_fit : 2 * pagedBatchDecodePageSize * 1 * singleDecodeHeadDim < usizeSize := by
  decide

theorem onePage_fits : 1 * pagedBatchDecodePageSize * 1 * singleDecodeHeadDim < usizeSize := by
  decide

/-- One request, one page and one head. -/
def onePageSpec : Bf16PagedBatchDecodeSpec where
  batchSize := 1
  maxNumPages := 1
  numQueryHeads := 1
  numKvHeads := 1
  batch_pos := Nat.one_pos
  pages_pos := Nat.one_pos
  queryHeads_pos := Nat.one_pos
  kvHeads_pos := Nat.one_pos
  group := oneHead_divides
  batch_fits := oneRequest_fits
  query_fits := oneRow_fits
  pages_fit := by decide

theorem onePage_wellFormed : PageTableWellFormed 1 1 (Slice.ofList [0, 1]) (Slice.ofList [0])
    (Slice.ofList [1]) :=
  onePageSpec.checkPageTable_eq_ok.mp rfl

/-- Two requests of one head over one page. -/
def twoRequestSpec : Bf16PagedBatchDecodeSpec where
  batchSize := 2
  maxNumPages := 1
  numQueryHeads := 1
  numKvHeads := 1
  batch_pos := Nat.two_pos
  pages_pos := Nat.one_pos
  queryHeads_pos := Nat.one_pos
  kvHeads_pos := Nat.one_pos
  group := oneHead_divides
  batch_fits := twoRequests_fit
  query_fits := twoRows_fit
  pages_fit := onePage_fits

/-- The two requests share the page, and hold one token and two. -/
theorem sharedPage_wellFormed : PageTableWellFormed 2 1 (Slice.ofList [0, 1, 2])
    (Slice.ofList [0, 0]) (Slice.ofList [1, 2]) :=
  twoRequestSpec.checkPageTable_eq_ok.mp rfl

theorem lt_two_cases {i : Nat} (h : i < 2) : i = 0 ∨ i = 1 :=
  Nat.le_one_iff_eq_zero_or_eq_one.mp (Nat.le_of_lt_succ h)

theorem lt_two_pair {i j : Nat} (lt : i < j) (h : j < 2) : i = 0 ∧ j = 1 := by
  rcases lt_two_cases h with rfl | rfl
  · exact absurd lt (Nat.not_lt_zero i)
  · exact ⟨Nat.lt_one_iff.mp lt, rfl⟩

end LoomKernels
