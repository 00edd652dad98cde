import LoomKernels.Host.PagedDecode
import LoomKernels.Host.RaggedPrefill

/-!
# Paged causal prefill

The query rows of the ragged contract over the page table of the decode contract. The validator
checks both in one pass (`checkMetadata_eq_ok`), and the reference runs the row and head loops of the
ragged one over tokens found through the page table (`pagedPrefillBf16Reference_exact`).
-/

namespace LoomKernels

/-- `PAGED_PREFILL_PAGE_SIZE` -/
abbrev pagedPrefillPageSize : Nat := 16

/-! ## Specification -/

/-- A paged prefill contract that `new` accepts. -/
structure Bf16PagedPrefillSpec where
  batchSize : Nat
  nnzQo : Nat
  maxNumPages : Nat
  numQueryHeads : Nat
  numKvHeads : Nat
  batch_pos : 0 < batchSize
  qo_pos : 0 < nnzQo
  pages_pos : 0 < maxNumPages
  queryHeads_pos : 0 < numQueryHeads
  kvHeads_pos : 0 < numKvHeads
  group : numQueryHeads % numKvHeads = 0
  qo_lt : nnzQo < 2 ^ 31
  batch_fits : batchSize + 1 < usizeSize
  query_fits : nnzQo * numQueryHeads * singleDecodeHeadDim < usizeSize
  pages_fit : maxNumPages * pagedPrefillPageSize * numKvHeads * singleDecodeHeadDim < usizeSize

namespace Bf16PagedPrefillSpec

def new (batchSize nnzQo maxNumPages numQueryHeads numKvHeads headDim pageSize : Nat) :
    Host Bf16PagedPrefillSpec :=
  if zero : batchSize = 0 ∨ nnzQo = 0 ∨ maxNumPages = 0 ∨ numQueryHeads = 0 ∨ numKvHeads = 0 ∨
      headDim = 0 ∨ pageSize = 0 then fail .zeroDimension
  else if dim : headDim ≠ singleDecodeHeadDim then
    fail (.unsupportedHeadDimension singleDecodeHeadDim headDim)
  else if size : pageSize ≠ pagedPrefillPageSize then
    fail (.unsupportedPageSize pagedPrefillPageSize pageSize)
  else if group : numQueryHeads % numKvHeads ≠ 0 then
    fail (.invalidHeadMapping numQueryHeads numKvHeads)
  -- an `i32::try_from`, a `checked_add` and two chains of `checked_mul` with one error; each last
  -- product bounds the others
  else if fits : nnzQo < 2 ^ 31 ∧ batchSize + 1 < usizeSize ∧
      nnzQo * numQueryHeads * headDim < usizeSize ∧
      maxNumPages * pageSize * numKvHeads * headDim < usizeSize then
    have dim := headDim_supported dim
    have size : pageSize = pagedPrefillPageSize := not_not.mp size
    .ok {
      batchSize, nnzQo, maxNumPages, numQueryHeads, numKvHeads
      batch_pos := by omega
      qo_pos := by omega
      pages_pos := by omega
      queryHeads_pos := by omega
      kvHeads_pos := by omega
      group := heads_divide group
      qo_lt := fits.1
      batch_fits := fits.2.1
      query_fits := dim ▸ fits.2.2.1
      pages_fit := by rw [← dim, ← size]; exact fits.2.2.2 }
  else fail .elementCountOverflow

/-- `new` accepts every specification there is. -/
theorem new_self (spec : Bf16PagedPrefillSpec) :
    new spec.batchSize spec.nnzQo spec.maxNumPages spec.numQueryHeads spec.numKvHeads
      singleDecodeHeadDim pagedPrefillPageSize = .ok spec := by
  have h1 := spec.batch_pos
  have h2 := spec.qo_pos
  have h3 := spec.pages_pos
  have h4 := spec.queryHeads_pos
  have h5 := spec.kvHeads_pos
  rw [new, dif_neg (by simp only [singleDecodeHeadDim, pagedPrefillPageSize]; omega),
    dif_neg (by simp), dif_neg (by simp), dif_neg (not_not.mpr spec.group),
    dif_pos ⟨spec.qo_lt, spec.batch_fits, spec.query_fits, spec.pages_fit⟩]

variable (spec : Bf16PagedPrefillSpec)

def gqaGroupSize : Nat := spec.numQueryHeads / spec.numKvHeads

def queryNumel : Nat := spec.nnzQo * spec.numQueryHeads * singleDecodeHeadDim

def kvPagesNumel : Nat :=
  spec.maxNumPages * pagedPrefillPageSize * spec.numKvHeads * singleDecodeHeadDim

def outputNumel : Nat := spec.queryNumel

def lseNumel : Nat := spec.nnzQo * spec.numQueryHeads

def indptrNumel : Nat := spec.batchSize + 1

def lastPageLenNumel : Nat := spec.batchSize

def kvHeadForQueryHead (queryHead : Nat) : Option Nat :=
  if queryHead < spec.numQueryHeads then some (queryHead / spec.gqaGroupSize) else none

end Bf16PagedPrefillSpec

/-! ## Metadata -/

/-- `validate_query_indptr` -/
def validateQueryIndptr (indptr : Slice Int32) (expectedTotal : Nat) : Host Unit :=
  validateIndptr "qo_indptr" indptr expectedTotal

/-- Metadata that the validator accepts. -/
structure PagedPrefillValid (spec : Bf16PagedPrefillSpec)
    (qoIndptr pageIndptr pageIndices lastPageLen : Slice Int32) : Prop where
  qo : IndptrWellFormed spec.batchSize spec.nnzQo qoIndptr
  table : PageTableWellFormed spec.batchSize spec.maxNumPages pageIndptr pageIndices lastPageLen
  causal : ∀ request < spec.batchSize,
    indptrLen qoIndptr request ≤ pagedKvLen pageIndptr lastPageLen request

/-- The checks of one request. -/
def checkPagedPrefillRequest (qoIndptr pageIndptr lastPageLen : Slice Int32) (request : Nat) :
    Host Unit := do
  let pageStart := pageIndptr.int request
  let pageEnd := pageIndptr.int (request + 1)
  ensure (pageStart ≤ pageEnd) (.nonMonotonicPageIndptr request pageStart pageEnd)
  ensure (pageEnd ≠ pageStart) (.emptyPagedRequest request)
  let tailLen := lastPageLen.int request
  ensure (1 ≤ tailLen ∧ tailLen ≤ pagedPrefillPageSize)
    (.invalidLastPageLength request tailLen pagedPrefillPageSize)
  let qoLen := asUsize (qoIndptr.int (request + 1) - qoIndptr.int request)
  let pageCount := asUsize (pageEnd - pageStart)
  let kvLen ← okOr ((checkedMul (pageCount - 1) pagedPrefillPageSize).bind
    (checkedAdd · (asUsize tailLen))) .elementCountOverflow
  ensure (qoLen ≤ kvLen) (.raggedQueryLongerThanKv request qoLen kvLen)

/-- The checks of `validate_metadata`. -/
def Bf16PagedPrefillSpec.checkMetadata (spec : Bf16PagedPrefillSpec)
    (qoIndptr pageIndptr pageIndices lastPageLen : Slice Int32) : Host Unit := do
  requireLen "qo_indptr" qoIndptr.len spec.indptrNumel
  requireLen "page_indptr" pageIndptr.len spec.indptrNumel
  requireLen "last_page_len" lastPageLen.len spec.lastPageLenNumel
  validateQueryIndptr qoIndptr spec.nnzQo
  ensure (pageIndptr.int 0 = 0) (.invalidPageIndptrStart (pageIndptr.int 0))
  checkRange 0 spec.batchSize (checkPagedPrefillRequest qoIndptr pageIndptr lastPageLen)
  let expectedIndices ← okOr (usizeTryFrom (pageIndptr.int spec.batchSize)) .elementCountOverflow
  requireLen "page_indices" pageIndices.len expectedIndices
  checkRange 0 pageIndices.len
    (Bf16PagedBatchDecodeSpec.checkPageIndex spec.maxNumPages pageIndices)

theorem checkPagedPrefillRequest_eq_ok {qoIndptr pageIndptr lastPageLen : Slice Int32}
    {request : Nat} :
    checkPagedPrefillRequest qoIndptr pageIndptr lastPageLen request = .ok () ↔
      pageIndptr.int request < pageIndptr.int (request + 1) ∧
      (1 ≤ lastPageLen.int request ∧ lastPageLen.int request ≤ pagedPrefillPageSize) ∧
      ∃ kvLen, (checkedMul (asUsize (pageIndptr.int (request + 1) - pageIndptr.int request) - 1)
          pagedPrefillPageSize).bind (checkedAdd · (asUsize (lastPageLen.int request))) =
            some kvLen ∧
        asUsize (qoIndptr.int (request + 1) - qoIndptr.int request) ≤ kvLen := by
  simp only [checkPagedPrefillRequest, check_bind_eq_ok, okOr_bind_eq_ok, ensure_eq_ok]
  constructor
  · rintro ⟨le, ne, tail, rest⟩
    exact ⟨by omega, tail, rest⟩
  · rintro ⟨lt, tail, rest⟩
    exact ⟨by omega, by omega, tail, rest⟩

/-- The length that the validator computes. -/
theorem PageTableWellFormed.checkedKvLen {batchSize maxNumPages : Nat}
    {pageIndptr pageIndices lastPageLen : Slice Int32}
    (table : PageTableWellFormed batchSize maxNumPages pageIndptr pageIndices lastPageLen)
    {request : Nat} (h : request < batchSize) :
    (checkedMul (asUsize (pageIndptr.int (request + 1) - pageIndptr.int request) - 1)
        pagedPrefillPageSize).bind (checkedAdd · (asUsize (lastPageLen.int request))) =
      some (pagedKvLen pageIndptr lastPageLen request) := by
  have hlt := table.kvLen_lt h
  unfold pagedKvLen pagedBatchDecodePageSize at *
  rw [table.indptr.asUsize_len h, table.asUsize_tail h, indptrLen,
    checkedMul_of_lt (by simp only [usizeSize, pagedPrefillPageSize] at *; omega), Option.bind_some,
    checkedAdd_of_lt (by simp only [usizeSize, pagedPrefillPageSize] at *; omega)]

/-- The checks succeed exactly on valid metadata. -/
theorem Bf16PagedPrefillSpec.checkMetadata_eq_ok (spec : Bf16PagedPrefillSpec)
    {qoIndptr pageIndptr pageIndices lastPageLen : Slice Int32} :
    spec.checkMetadata qoIndptr pageIndptr pageIndices lastPageLen = .ok () ↔
      PagedPrefillValid spec qoIndptr pageIndptr pageIndices lastPageLen := by
  simp only [checkMetadata, validateQueryIndptr, check_bind_eq_ok, okOr_bind_eq_ok, requireLen_eq_ok,
    ensure_eq_ok, checkRange_ok_iff, usizeTryFrom_eq_some, checkPagedPrefillRequest_eq_ok,
    Bf16PagedBatchDecodeSpec.checkPageIndex_eq_ok]
  constructor
  · rintro ⟨qoLen, indptrLen, tailLen, hqo, start, requests, n, total, rfl, pages⟩
    have qo := (validateIndptr_eq_ok qoLen).mp hqo
    have table : PageTableWellFormed spec.batchSize spec.maxNumPages pageIndptr pageIndices
        lastPageLen :=
      ⟨indptrLen, tailLen, start, fun r hr => (requests r (Nat.zero_le _) hr).1,
        fun r hr => (requests r (Nat.zero_le _) hr).2.1, total,
        fun i hi => pages i (Nat.zero_le _) hi⟩
    refine ⟨qo, table, fun r hr => ?_⟩
    obtain ⟨kvLen, hkv, le⟩ := (requests r (Nat.zero_le _) hr).2.2
    rw [table.checkedKvLen hr, Option.some.injEq] at hkv
    rw [qo.asUsize_len hr] at le
    exact hkv ▸ le
  · intro valid
    have table := valid.table
    refine ⟨valid.qo.len, table.indptr_len, table.tail_len, (validateIndptr_eq_ok valid.qo.len).mpr
      valid.qo, table.start, fun r _ hr => ⟨table.increasing r hr, table.tail r hr, _,
      table.checkedKvLen hr, ?_⟩, _, table.total, rfl, fun i _ hi => table.page i hi⟩
    rw [valid.qo.asUsize_len hr]
    exact valid.causal r hr

/-- Validated metadata of one invocation. -/
structure Bf16PagedPrefillMetadata where
  spec : Bf16PagedPrefillSpec
  qoIndptr : Slice Int32
  pageIndptr : Slice Int32
  pageIndices : Slice Int32
  lastPageLen : Slice Int32
  valid : PagedPrefillValid spec qoIndptr pageIndptr pageIndices lastPageLen

def Bf16PagedPrefillSpec.validateMetadata (spec : Bf16PagedPrefillSpec)
    (qoIndptr pageIndptr pageIndices lastPageLen : Slice Int32) : Host Bf16PagedPrefillMetadata :=
  match checked : spec.checkMetadata qoIndptr pageIndptr pageIndices lastPageLen with
  | .ok () => .ok ⟨spec, qoIndptr, pageIndptr, pageIndices, lastPageLen,
      spec.checkMetadata_eq_ok.mp checked⟩
  | .error e => .error e

theorem Bf16PagedPrefillSpec.validateMetadata_ok (spec : Bf16PagedPrefillSpec)
    {qoIndptr pageIndptr pageIndices lastPageLen : Slice Int32}
    (valid : PagedPrefillValid spec qoIndptr pageIndptr pageIndices lastPageLen) :
    spec.validateMetadata qoIndptr pageIndptr pageIndices lastPageLen =
      .ok ⟨spec, qoIndptr, pageIndptr, pageIndices, lastPageLen, valid⟩ := by
  have checked := spec.checkMetadata_eq_ok.mpr valid
  unfold validateMetadata
  split
  · rfl
  · simp_all

theorem Bf16PagedPrefillSpec.validateMetadata_eq_ok (spec : Bf16PagedPrefillSpec)
    {qoIndptr pageIndptr pageIndices lastPageLen : Slice Int32}
    {metadata : Bf16PagedPrefillMetadata} :
    spec.validateMetadata qoIndptr pageIndptr pageIndices lastPageLen = .ok metadata ↔
      ∃ valid, metadata = ⟨spec, qoIndptr, pageIndptr, pageIndices, lastPageLen, valid⟩ := by
  constructor
  · unfold validateMetadata
    split
    · rename_i checked
      intro h
      exact ⟨spec.checkMetadata_eq_ok.mp checked, (Except.ok.inj h).symm⟩
    · intro h
      cases h
  · rintro ⟨valid, rfl⟩
    exact spec.validateMetadata_ok valid

namespace Bf16PagedPrefillMetadata

variable (metadata : Bf16PagedPrefillMetadata)

def requestQueryRange (request : Nat) : Option (Nat × Nat) :=
  if request ≥ metadata.spec.batchSize then none
  else some
    (asUsize (metadata.qoIndptr.int request), asUsize (metadata.qoIndptr.int (request + 1)))

def requestPageRange (request : Nat) : Option (Nat × Nat) :=
  pageRangeOf metadata.spec.batchSize metadata.pageIndptr request

def requestKvLen (request : Nat) : Option Nat :=
  kvLenOf metadata.spec.batchSize metadata.pageIndptr metadata.lastPageLen request

def causalKvEnd (request queryIndex : Nat) : Option Nat := do
  let (qoStart, qoEnd) ← metadata.requestQueryRange request
  let qoLen := qoEnd - qoStart
  let kvLen ← metadata.requestKvLen request
  if queryIndex ≥ qoLen then none else some (kvLen - qoLen + queryIndex + 1)

def physicalPageForToken (request logicalToken : Nat) : Option (Nat × Nat) :=
  physicalPageOf metadata.spec.batchSize metadata.pageIndptr metadata.pageIndices
    metadata.lastPageLen request logicalToken

variable {request : Nat}

theorem requestQueryRange_eq (h : request < metadata.spec.batchSize) :
    metadata.requestQueryRange request =
      some (indptrStart metadata.qoIndptr request, indptrStart metadata.qoIndptr (request + 1)) := by
  rw [requestQueryRange, if_neg (by omega), metadata.valid.qo.asUsize_eq_start h.le,
    metadata.valid.qo.asUsize_eq_start h]

theorem causalKvEnd_eq {queryRow : Nat} (h : request < metadata.spec.batchSize)
    (lo : indptrStart metadata.qoIndptr request ≤ queryRow)
    (hi : queryRow < indptrStart metadata.qoIndptr (request + 1)) :
    metadata.causalKvEnd request (queryRow - indptrStart metadata.qoIndptr request) =
      some (causalCount metadata.qoIndptr (pagedKvLen metadata.pageIndptr metadata.lastPageLen
        request) request queryRow) := by
  have kvLen : metadata.requestKvLen request =
      some (pagedKvLen metadata.pageIndptr metadata.lastPageLen request) :=
    metadata.valid.table.kvLenOf_eq h
  simp only [causalKvEnd, metadata.requestQueryRange_eq h, kvLen, Option.bind_eq_bind,
    Option.bind_some]
  rw [if_neg (by omega)]
  rfl

/-- The tokens of a row are tokens of its request. -/
theorem causalCount_le {queryRow : Nat} (h : request < metadata.spec.batchSize)
    (lo : indptrStart metadata.qoIndptr request ≤ queryRow)
    (hi : queryRow < indptrStart metadata.qoIndptr (request + 1)) :
    causalCount metadata.qoIndptr (pagedKvLen metadata.pageIndptr metadata.lastPageLen request)
        request queryRow ≤ pagedKvLen metadata.pageIndptr metadata.lastPageLen request := by
  have := metadata.valid.causal request h
  unfold causalCount
  unfold indptrLen at *
  omega

/-- The key/value offset of a logical token, as the reference looks it up. -/
def kvOffset (request kvHead token : Nat) : Host Nat := do
  let slot ← expect (metadata.physicalPageForToken request token)
    "causal token is inside the validated request"
  return slotOffset metadata.spec.numKvHeads kvHead slot

theorem kvOffset_eq {token : Nat} (h : request < metadata.spec.batchSize)
    (ht : token < pagedKvLen metadata.pageIndptr metadata.lastPageLen request) (kvHead : Nat) :
    metadata.kvOffset request kvHead token =
      .ok (slotOffset metadata.spec.numKvHeads kvHead
        (pagedSlot metadata.pageIndptr metadata.pageIndices request token)) := by
  have slot : metadata.physicalPageForToken request token =
      some (pagedSlot metadata.pageIndptr metadata.pageIndices request token) :=
    metadata.valid.table.physicalPageOf_eq h ht
  rw [kvOffset, slot]
  rfl

end Bf16PagedPrefillMetadata

/-! ## Reference -/

def pagedPrefillBf16Reference {F B : Type} (ops : FloatOps F B)
    (query keyPages valuePages : Slice B) (qoIndptr pageIndptr pageIndices lastPageLen : Slice Int32)
    (output : Slice B) (lse : Slice F) (spec : Bf16PagedPrefillSpec) :
    Host (AttentionOut F B) := do
  requireLen "Q" query.len spec.queryNumel
  requireLen "K_pages" keyPages.len spec.kvPagesNumel
  requireLen "V_pages" valuePages.len spec.kvPagesNumel
  requireLen "O" output.len spec.outputNumel
  requireLen "LSE" lse.len spec.lseNumel
  let metadata ← spec.validateMetadata qoIndptr pageIndptr pageIndices lastPageLen
  forRangeM 0 spec.batchSize
    (fun request out => do
      let (qoStart, qoEnd) ← expect (metadata.requestQueryRange request)
        "enumerated request has a validated query range"
      prefillRequest ops spec.numQueryHeads spec.kvHeadForQueryHead query.get keyPages.get
        valuePages.get qoStart qoEnd (metadata.causalKvEnd request) (metadata.kvOffset request) 0 out)
    ⟨output.get, lse.get⟩

section Rows

variable {F B : Type} (ops : FloatOps F B)

/-- The state that the reference normalizes for a row. -/
def Bf16PagedPrefillSpec.rowState (spec : Bf16PagedPrefillSpec) (query keyPages valuePages : Nat → B)
    (qoIndptr pageIndptr pageIndices lastPageLen : Slice Int32) (row : Nat) : SoftmaxState F Nat :=
  let request := requestOf qoIndptr spec.batchSize (row / spec.numQueryHeads)
  ops.attend query keyPages valuePages (row * singleDecodeHeadDim)
    (fun token => slotOffset spec.numKvHeads (row % spec.numQueryHeads / spec.gqaGroupSize)
      (pagedSlot pageIndptr pageIndices request token))
    0 (causalCount qoIndptr (pagedKvLen pageIndptr lastPageLen request) request
      (row / spec.numQueryHeads))

/-- The reference stores the states of all rows, whatever the arithmetic. -/
theorem pagedPrefillBf16Reference_computed (spec : Bf16PagedPrefillSpec)
    {query keyPages valuePages output : Slice B} {lse : Slice F}
    {qoIndptr pageIndptr pageIndices lastPageLen : Slice Int32} (hq : query.len = spec.queryNumel)
    (hk : keyPages.len = spec.kvPagesNumel) (hv : valuePages.len = spec.kvPagesNumel)
    (ho : output.len = spec.outputNumel) (hl : lse.len = spec.lseNumel)
    (valid : PagedPrefillValid spec qoIndptr pageIndptr pageIndices lastPageLen) :
    ∃ out, pagedPrefillBf16Reference ops query keyPages valuePages qoIndptr pageIndptr pageIndices
        lastPageLen output lse spec = .ok out ∧
      Computed ops (spec.rowState ops query.get keyPages.get valuePages.get qoIndptr pageIndptr
        pageIndices lastPageLen) ⟨output.get, lse.get⟩ spec.lseNumel out := by
  rw [pagedPrefillBf16Reference, requireLen_eq_ok.mpr hq, requireLen_eq_ok.mpr hk,
    requireLen_eq_ok.mpr hv, requireLen_eq_ok.mpr ho, requireLen_eq_ok.mpr hl,
    spec.validateMetadata_ok valid]
  simp only [ok_bind]
  rw [Bf16PagedPrefillSpec.lseNumel, ← valid.qo.start_total]
  refine forRangeM_invariant
    (P := fun request out => Computed ops (spec.rowState ops query.get keyPages.get valuePages.get
      qoIndptr pageIndptr pageIndices lastPageLen) ⟨output.get, lse.get⟩
      (indptrStart qoIndptr request * spec.numQueryHeads) out)
    (Nat.zero_le _) (by rw [valid.qo.start_zero, Nat.zero_mul]; exact computed_zero _ _) ?_
  intro request out _ hr computed
  let metadata : Bf16PagedPrefillMetadata :=
    ⟨spec, qoIndptr, pageIndptr, pageIndices, lastPageLen, valid⟩
  rw [Bf16PagedPrefillMetadata.requestQueryRange_eq _ hr, expect_some, ok_bind]
  refine prefillRequest_computed ops (fun head => head / spec.gqaGroupSize)
    (fun kvHead token =>
      slotOffset spec.numKvHeads kvHead (pagedSlot pageIndptr pageIndices request token))
    (causalCount qoIndptr (pagedKvLen pageIndptr lastPageLen request) request)
    (valid.qo.start_lt hr).le computed (fun head hh => if_pos hh)
    (fun row hlo hhi => metadata.causalKvEnd_eq hr hlo hhi)
    (fun row hlo hhi kvHead t _ ht => metadata.kvOffset_eq hr
      (ht.trans_le (metadata.causalCount_le hr hlo hhi)) kvHead) fun row hlo hhi head hh => ?_
  rw [Bf16PagedPrefillSpec.rowState, row_div hh, row_mod hh, valid.qo.requestOf_eq hr hlo hhi]

end Rows

section Exact

variable {K : Type} [Field K] [LinearOrder K] [ExactExp K]

/-- The tokens that row `query_row * num_query_heads + query_head` attends to. -/
def Bf16PagedPrefillSpec.tokensOfRow (spec : Bf16PagedPrefillSpec)
    (query keyPages valuePages : Nat → K) (qoIndptr pageIndptr pageIndices lastPageLen : Slice Int32)
    (row : Nat) : List (Token K (Fin 128)) :=
  let request := requestOf qoIndptr spec.batchSize (row / spec.numQueryHeads)
  pagedTokens query keyPages valuePages pageIndptr pageIndices spec.numKvHeads request row
    (row % spec.numQueryHeads / spec.gqaGroupSize) 0
    (causalCount qoIndptr (pagedKvLen pageIndptr lastPageLen request) request
      (row / spec.numQueryHeads))

variable [IsStrictOrderedRing K]

/-- The reference computes, for every query row and head, the attention of the row's tokens. -/
theorem pagedPrefillBf16Reference_exact (spec : Bf16PagedPrefillSpec)
    {query keyPages valuePages output lse : Slice K}
    {qoIndptr pageIndptr pageIndices lastPageLen : Slice Int32} (hq : query.len = spec.queryNumel)
    (hk : keyPages.len = spec.kvPagesNumel) (hv : valuePages.len = spec.kvPagesNumel)
    (ho : output.len = spec.outputNumel) (hl : lse.len = spec.lseNumel)
    (valid : PagedPrefillValid spec qoIndptr pageIndptr pageIndices lastPageLen) :
    ∃ out, pagedPrefillBf16Reference (exactOps K) query keyPages valuePages qoIndptr pageIndptr
        pageIndices lastPageLen output lse spec = .ok out ∧
      Filled (spec.tokensOfRow query.get keyPages.get valuePages.get qoIndptr pageIndptr pageIndices
        lastPageLen) ⟨output.get, lse.get⟩ spec.lseNumel out := by
  obtain ⟨out, run, computed⟩ :=
    pagedPrefillBf16Reference_computed (exactOps K) spec hq hk hv ho hl valid
  exact ⟨out, run, computed.filled fun row _ =>
    ⟨_, _, _, _, _, 0, _, Nat.succ_pos _, rfl, rfl⟩⟩

end Exact

end LoomKernels
