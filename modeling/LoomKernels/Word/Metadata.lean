import LoomKernels.Word.Specs

/-!
# Metadata on words of any size

The validators of the attention contracts and the look-ups of their metadata views, on words of `w`
bits and with every array access checked. The validators accept the same arrays on every word size
that holds the totals (`validateIndptr_eq_ok`, `validatePageTable_eq_ok`, `validateMetadata_eq_ok`).
The look-ups do not agree on all of them: `request_kv_len` is checked arithmetic, and has a value
exactly when the length of the request is a word (`kvLenOf_ok`).
-/

namespace LoomKernels.Word

/-- `array[i]` of an `i32` array. -/
def entry (array : Slice Int32) (i : Nat) : Machine HostFailure Int := do
  inBounds i array.len
  return array.int i

theorem entry_ok {array : Slice Int32} {i : Nat} (h : i < array.len) :
    entry array i = .ok (array.int i) := by
  rw [entry, inBounds_ok h]
  rfl

section Inversion

variable {α : Type} {x : α}

theorem entry_bind_eq_ok {array : Slice Int32} {i : Nat} {f : Int → Machine HostFailure α} :
    (entry array i >>= f) = .ok x ↔ i < array.len ∧ f (array.int i) = .ok x := by
  rw [entry, bind_assoc, check_bind_eq_ok, inBounds_eq_ok]
  rfl

theorem lift_okOr_bind_eq_ok {β : Type} {option : Option β} {error : ContractError}
    {f : β → Machine HostFailure α} :
    (lift (okOr option error) >>= f) = .ok x ↔ ∃ a, option = some a ∧ f a = .ok x := by
  simp only [bind_eq_ok, lift_eq_ok, okOr_eq_ok]

end Inversion

/-- The cast of an entry that is a word. -/
theorem asUsize_int {w : Nat} {array : Slice Int32} {i : Nat} (h : 0 ≤ array.int i)
    (h' : (array.int i).toNat < 2 ^ w) : asUsize w (array.int i) = (array.int i).toNat := by
  have cast : ((2 ^ w : Nat) : Int) = 2 ^ w := by push_cast; rfl
  exact asUsize_of_lt h (by omega)

/-! ## Index pointers -/

section Indptr

variable (w : Nat)

/-- One request of `validate_indptr`. -/
def checkIndptrRequest (buffer : String) (indptr : Slice Int32) (request : Nat) :
    Machine HostFailure Unit := do
  let start ← entry indptr request
  let stop ← entry indptr (← addWord w request 1)
  lift (ensure (start ≤ stop) (.nonMonotonicIndptr buffer request start stop))
  lift (ensure (stop ≠ start) (.emptyRaggedRequest buffer request))

def validateIndptr (buffer : String) (indptr : Slice Int32) (expectedTotal : Nat) :
    Machine HostFailure Unit := do
  let first ← entry indptr 0
  lift (ensure (first = 0) (.invalidIndptrStart buffer first))
  checkRange 0 (← subWord indptr.len 1) (checkIndptrRequest w buffer indptr)
  let last ← entry indptr (← subWord indptr.len 1)
  let actualTotal ← lift (okOr (usizeTryFrom w last) .elementCountOverflow)
  lift (requireLen buffer actualTotal expectedTotal)

variable {w} {buffer : String} {indptr : Slice Int32} {count total : Nat}

theorem checkIndptrRequest_eq_ok {request : Nat} :
    checkIndptrRequest w buffer indptr request = .ok () ↔
      request + 1 < indptr.len ∧ request + 1 < 2 ^ w ∧
        indptr.int request < indptr.int (request + 1) := by
  simp only [checkIndptrRequest, entry_bind_eq_ok, addWord_bind_eq_ok, check_bind_eq_ok, lift_eq_ok,
    ensure_eq_ok]
  omega

variable (len : indptr.len = count + 1) (fits : count + 1 < 2 ^ w)
include len fits

theorem validateIndptr_eq_ok (total_fits : total < 2 ^ w) :
    validateIndptr w buffer indptr total = .ok () ↔ IndptrWellFormed count total indptr := by
  simp only [validateIndptr, entry_bind_eq_ok, subWord_bind_eq_ok, check_bind_eq_ok, lift_eq_ok,
    ensure_eq_ok, lift_okOr_bind_eq_ok, requireLen_eq_ok, checkRange_ok_iff,
    checkIndptrRequest_eq_ok, usizeTryFrom_eq_some, len, Nat.add_sub_cancel]
  constructor
  · rintro ⟨_, start, _, requests, _, _, _, ⟨last, _⟩, rfl⟩
    exact ⟨len, start, fun r hr => (requests r (Nat.zero_le _) hr).2.2, last⟩
  · intro valid
    exact ⟨by omega, valid.start, by omega, fun r _ hr => ⟨by omega, by omega,
      valid.increasing r hr⟩, by omega, by omega, _, ⟨valid.total, total_fits⟩, rfl⟩

/-- The checks of an indptr array have no defect, whatever it holds. -/
theorem validateIndptr_avoids : Avoids Halt.isFault (validateIndptr w buffer indptr total) := by
  rw [validateIndptr, entry_ok (by omega), ok_bind]
  refine (avoids_lift _).bind fun _ => ?_
  rw [subWord_ok (by omega), ok_bind, len, Nat.add_sub_cancel]
  refine Avoids.bind (Avoids.checkRange fun request _ hr _ => ?_) fun _ => ?_
  · rw [checkIndptrRequest, entry_ok (by omega), ok_bind, addWord_ok (by omega), ok_bind,
      entry_ok (by omega), ok_bind]
    exact (avoids_lift _).bind fun _ => avoids_lift _
  · rw [ok_bind, entry_ok (by omega), ok_bind]
    exact (avoids_lift _).bind fun _ => avoids_lift _

end Indptr

/-! ## Page tables -/

section Lookups

variable (w batchSize : Nat) (pageIndptr pageIndices lastPageLen : Slice Int32)

/-- `request_page_range` -/
def pageRangeOf (request : Nat) : Machine HostFailure (Option (Nat × Nat)) := do
  if request ≥ batchSize then return none
  else
    let start ← entry pageIndptr request
    let stop ← entry pageIndptr (← addWord w request 1)
    return some (asUsize w start, asUsize w stop)

/-- `request_kv_len` -/
def kvLenOf (request : Nat) : Machine HostFailure (Option Nat) := do
  match ← pageRangeOf w batchSize pageIndptr request with
  | none => return none
  | some (start, stop) =>
    match checkedMul w (← subWord (← subWord stop start) 1) pagedBatchDecodePageSize with
    | none => return none
    | some full =>
      let tail ← entry lastPageLen request
      return checkedAdd w full (asUsize w tail)

/-- `physical_page_for_token`, once the page range of the request is found. -/
def slotInRange (pageStart logicalToken : Nat) : Machine HostFailure (Option (Nat × Nat)) := do
  let pageSlot := logicalToken / pagedBatchDecodePageSize
  let pageOffset := logicalToken % pagedBatchDecodePageSize
  let page ← entry pageIndices (← addWord w pageStart pageSlot)
  return some (asUsize w page, pageOffset)

end Lookups

/-- The length of a request is a word. -/
abbrev KvLenFits (w : Nat) (pageIndptr lastPageLen : Slice Int32) (request : Nat) : Prop :=
  pagedKvLen pageIndptr lastPageLen request < 2 ^ w

/-- The range of a request of a well-formed array. -/
theorem pageRangeOf_ok {w count total : Nat} {indptr : Slice Int32}
    (valid : IndptrWellFormed count total indptr) (fits : count + 1 < 2 ^ w)
    (total_fits : total < 2 ^ w) (request : Nat) :
    pageRangeOf w count indptr request =
      .ok (if request < count then
        some (indptrStart indptr request, indptrStart indptr (request + 1))
      else none) := by
  unfold pageRangeOf
  by_cases h : request < count
  · have len := valid.len
    have cast : ∀ i ≤ count, asUsize w (indptr.int i) = indptrStart indptr i :=
      fun i hi => asUsize_int (valid.int_nonneg hi) ((valid.start_le_total hi).trans_lt total_fits)
    rw [if_neg (by omega), if_pos h, entry_ok (by omega), ok_bind, addWord_ok (by omega), ok_bind,
      entry_ok (by omega), ok_bind, cast request h.le, cast (request + 1) h]
    rfl
  · rw [if_pos (by omega), if_neg h]
    rfl

section Table

variable {w batchSize maxNumPages : Nat} {pageIndptr pageIndices lastPageLen : Slice Int32}
  (table : PageTableWellFormed batchSize maxNumPages pageIndptr pageIndices lastPageLen)
  (indices_fit : pageIndices.len < 2 ^ w)
include table indices_fit

/-- A token below the length of its request has a page of the cache and an offset inside it. -/
theorem slotInRange_ok (pages_fit : maxNumPages < 2 ^ w) {request token : Nat}
    (h : request < batchSize) (ht : token < pagedKvLen pageIndptr lastPageLen request) :
    slotInRange w pageIndices (indptrStart pageIndptr request) token =
      .ok (some (pagedSlot pageIndptr pageIndices request token)) := by
  have inside := table.entry_lt_len h ht
  have page := table.page _ inside
  rw [slotInRange, addWord_ok (by omega), ok_bind, entry_ok inside, ok_bind,
    asUsize_int page.1 (by omega)]
  rfl

variable (batch_fits : batchSize + 1 < 2 ^ w)
include batch_fits

variable (page_fits : pagedBatchDecodePageSize < 2 ^ w)
include page_fits

theorem kvLenOf_ok (request : Nat) :
    kvLenOf w batchSize pageIndptr lastPageLen request =
      .ok (if request < batchSize ∧ KvLenFits w pageIndptr lastPageLen request then
        some (pagedKvLen pageIndptr lastPageLen request)
      else none) := by
  rw [kvLenOf, pageRangeOf_ok table.indptr batch_fits indices_fit, ok_bind]
  by_cases h : request < batchSize
  · have tail := table.tail request h
    have tail_len := table.tail_len
    have start := table.indptr.start_lt h
    have cast : asUsize w (lastPageLen.int request) = (lastPageLen.int request).toNat :=
      asUsize_int (by omega) (by omega)
    rw [if_pos h]
    dsimp only
    rw [subWord_ok start.le, ok_bind, subWord_ok (by omega), ok_bind]
    unfold checkedMul checkedAdd
    by_cases full : (indptrStart pageIndptr (request + 1) - indptrStart pageIndptr request - 1) *
        pagedBatchDecodePageSize < 2 ^ w
    · rw [if_pos full]
      dsimp only
      rw [entry_ok (by omega), ok_bind, cast]
      exact congrArg Except.ok (if_congr (and_iff_right h).symm rfl rfl)
    · rw [if_neg full, if_neg fun both => full (Nat.lt_of_le_of_lt (Nat.le_add_right _ _) both.2)]
      rfl
  · rw [if_neg h, if_neg fun both => h both.1]
    rfl

end Table

/-! ## The validated table -/

/-- `Bf16PagedBatchDecodePageTable` -/
structure PageTable (w : Nat) where
  spec : Bf16PagedBatchDecodeSpec w
  pageIndptr : Slice Int32
  pageIndices : Slice Int32
  lastPageLen : Slice Int32

namespace PageTable

variable {w : Nat} (table : PageTable w)

def requestPageRange (request : Nat) : Machine HostFailure (Option (Nat × Nat)) :=
  pageRangeOf w table.spec.batchSize table.pageIndptr request

def requestKvLen (request : Nat) : Machine HostFailure (Option Nat) :=
  kvLenOf w table.spec.batchSize table.pageIndptr table.lastPageLen request

def physicalPageForToken (request logicalToken : Nat) :
    Machine HostFailure (Option (Nat × Nat)) := do
  match ← table.requestKvLen request with
  | none => return none
  | some kvLen =>
    if logicalToken ≥ kvLen then return none
    else
      let (pageStart, _) ← lift (expect (← table.requestPageRange request)
        "validated request has a page range")
      slotInRange w table.pageIndices pageStart logicalToken

/-- The arrays of the table are well formed, and as long as an array can be. -/
structure Valid : Prop where
  wellFormed : PageTableWellFormed table.spec.batchSize table.spec.maxNumPages table.pageIndptr
    table.pageIndices table.lastPageLen
  indices_fit : table.pageIndices.len < 2 ^ w

end PageTable

namespace Bf16PagedBatchDecodeSpec

variable {w : Nat} (spec : Bf16PagedBatchDecodeSpec w)

theorem max_pages_fit : spec.maxNumPages < 2 ^ w :=
  mul_lt_of_mul_lt (by decide)
    (mul_lt_of_mul_lt spec.kvHeads_pos (mul_lt_of_mul_lt (show 0 < singleDecodeHeadDim by decide)
      spec.pages_fit))

include spec in
theorem page_fits : pagedBatchDecodePageSize < 2 ^ w := by
  have tokens := mul_lt_of_mul_lt spec.kvHeads_pos
    (mul_lt_of_mul_lt (show 0 < singleDecodeHeadDim by decide) spec.pages_fit)
  exact (Nat.le_mul_of_pos_left _ spec.pages_pos).trans_lt tokens

/-- The checks of one request's range and tail. -/
def checkPageRequest (w : Nat) (pageIndptr lastPageLen : Slice Int32) (request : Nat) :
    Machine HostFailure Unit := do
  let start ← entry pageIndptr request
  let stop ← entry pageIndptr (← addWord w request 1)
  lift (ensure (start ≤ stop) (.nonMonotonicPageIndptr request start stop))
  lift (ensure (stop ≠ start) (.emptyPagedRequest request))
  let length ← entry lastPageLen request
  lift (ensure (1 ≤ length ∧ length ≤ pagedBatchDecodePageSize)
    (.invalidLastPageLength request length pagedBatchDecodePageSize))

/-- The check of one physical page. -/
def checkPageIndex (w maxNumPages : Nat) (pageIndices : Slice Int32) (position : Nat) :
    Machine HostFailure Unit := do
  let index ← entry pageIndices position
  lift (ensure ((usizeTryFrom w index).any (· < maxNumPages))
    (.pageIndexOutOfRange position index maxNumPages))

def validatePageTable (pageIndptr pageIndices lastPageLen : Slice Int32) :
    Machine HostFailure (PageTable w) := do
  lift (requireLen "page_indptr" pageIndptr.len (← spec.pageIndptrNumel))
  lift (requireLen "last_page_len" lastPageLen.len spec.lastPageLenNumel)
  let first ← entry pageIndptr 0
  lift (ensure (first = 0) (.invalidPageIndptrStart first))
  checkRange 0 spec.batchSize (checkPageRequest w pageIndptr lastPageLen)
  let last ← entry pageIndptr spec.batchSize
  let expectedIndices ← lift (okOr (usizeTryFrom w last) .elementCountOverflow)
  lift (requireLen "page_indices" pageIndices.len expectedIndices)
  checkRange 0 pageIndices.len (checkPageIndex w spec.maxNumPages pageIndices)
  return ⟨spec, pageIndptr, pageIndices, lastPageLen⟩

theorem checkPageRequest_eq_ok {pageIndptr lastPageLen : Slice Int32} {request : Nat} :
    checkPageRequest w pageIndptr lastPageLen request = .ok () ↔
      (request + 1 < pageIndptr.len ∧ request + 1 < 2 ^ w ∧ request < lastPageLen.len) ∧
      pageIndptr.int request < pageIndptr.int (request + 1) ∧
      1 ≤ lastPageLen.int request ∧ lastPageLen.int request ≤ pagedBatchDecodePageSize := by
  simp only [checkPageRequest, entry_bind_eq_ok, addWord_bind_eq_ok, check_bind_eq_ok, lift_eq_ok,
    ensure_eq_ok]
  omega

theorem checkPageIndex_eq_ok {maxNumPages : Nat} {pageIndices : Slice Int32} {position : Nat}
    (pages_fit : maxNumPages < 2 ^ w) :
    checkPageIndex w maxNumPages pageIndices position = .ok () ↔
      position < pageIndices.len ∧ 0 ≤ pageIndices.int position ∧
        pageIndices.int position < maxNumPages := by
  have cast : ((2 ^ w : Nat) : Int) = 2 ^ w := by push_cast; rfl
  rw [checkPageIndex, entry_bind_eq_ok, lift_eq_ok, ensure_eq_ok, usizeTryFrom]
  split
  · simp only [Option.any_some, decide_eq_true_eq]
    omega
  · simp only [Option.any_none, Bool.false_eq_true, and_false, false_iff]
    omega

/-- The validator accepts exactly the well-formed tables whose page list is an array. -/
theorem validatePageTable_eq_ok {pageIndptr pageIndices lastPageLen : Slice Int32}
    {table : PageTable w} :
    spec.validatePageTable pageIndptr pageIndices lastPageLen = .ok table ↔
      table = ⟨spec, pageIndptr, pageIndices, lastPageLen⟩ ∧ table.Valid := by
  simp only [validatePageTable, spec.pageIndptrNumel_ok, ok_bind, entry_bind_eq_ok, check_bind_eq_ok,
    lift_eq_ok, ensure_eq_ok, lift_okOr_bind_eq_ok, requireLen_eq_ok, checkRange_ok_iff,
    checkPageRequest_eq_ok, checkPageIndex_eq_ok spec.max_pages_fit, usizeTryFrom_eq_some,
    lastPageLenNumel]
  constructor
  · rintro ⟨hi, ht, _, h0, hr, _, n, ⟨hn, hw⟩, rfl, hx, he⟩
    obtain rfl := Except.ok.inj he
    exact ⟨rfl, ⟨hi, ht, h0, fun r h => (hr r (Nat.zero_le _) h).2.1,
      fun r h => (hr r (Nat.zero_le _) h).2.2, hn, fun i h => (hx i (Nat.zero_le _) h).2⟩, hw⟩
  · rintro ⟨rfl, table, hw⟩
    have hi := table.indptr_len
    have ht := table.tail_len
    have hb := spec.batch_fits
    dsimp only at hi ht
    exact ⟨hi, ht, by omega, table.start, fun r _ h => ⟨⟨by omega, by omega, by omega⟩,
      table.increasing r h, table.tail r h⟩, by omega, _, ⟨table.total, hw⟩, rfl,
      fun i _ h => ⟨h, table.page i h⟩, rfl⟩

/-- The validator has no defect, whatever the arrays hold. -/
theorem validatePageTable_avoids (pageIndptr pageIndices lastPageLen : Slice Int32) :
    Avoids Halt.isFault (spec.validatePageTable pageIndptr pageIndices lastPageLen) := by
  have hb := spec.batch_fits
  rw [validatePageTable, spec.pageIndptrNumel_ok, ok_bind]
  refine (avoids_lift _).andThen fun _ len => (avoids_lift _).andThen fun _ tail_len => ?_
  rw [lift_eq_ok, requireLen_eq_ok] at len tail_len
  rw [lastPageLenNumel] at tail_len
  rw [entry_ok (by omega), ok_bind]
  refine (avoids_lift _).bind fun _ => Avoids.bind (Avoids.checkRange fun request _ hr _ => ?_)
    fun _ => ?_
  · rw [checkPageRequest, entry_ok (by omega), ok_bind, addWord_ok (by omega), ok_bind,
      entry_ok (by omega), ok_bind]
    refine (avoids_lift _).bind fun _ => (avoids_lift _).bind fun _ => ?_
    rw [entry_ok (by omega), ok_bind]
    exact avoids_lift _
  · rw [entry_ok (by omega), ok_bind]
    refine (avoids_lift _).bind fun _ => (avoids_lift _).bind fun _ =>
      Avoids.bind (Avoids.checkRange fun position _ hp _ => ?_) fun _ => avoids_ok _
    rw [checkPageIndex, entry_ok hp, ok_bind]
    exact avoids_lift _

end Bf16PagedBatchDecodeSpec

namespace PageTable.Valid

variable {w : Nat} {table : PageTable w} (valid : table.Valid)
include valid

theorem requestPageRange_ok (request : Nat) :
    table.requestPageRange request =
      .ok (if request < table.spec.batchSize then
        some (indptrStart table.pageIndptr request, indptrStart table.pageIndptr (request + 1))
      else none) :=
  pageRangeOf_ok valid.wellFormed.indptr table.spec.batch_fits valid.indices_fit request

/-- `request_kv_len` has a value exactly when the length of the request is a word. -/
theorem requestKvLen_ok (request : Nat) :
    table.requestKvLen request =
      .ok (if request < table.spec.batchSize ∧
          KvLenFits w table.pageIndptr table.lastPageLen request then
        some (pagedKvLen table.pageIndptr table.lastPageLen request)
      else none) :=
  kvLenOf_ok valid.wellFormed valid.indices_fit table.spec.batch_fits table.spec.page_fits request

/-- `physical_page_for_token` has a value exactly for the tokens below the length. -/
theorem physicalPageForToken_ok (request token : Nat) :
    table.physicalPageForToken request token =
      .ok (if (request < table.spec.batchSize ∧
          KvLenFits w table.pageIndptr table.lastPageLen request) ∧
          token < pagedKvLen table.pageIndptr table.lastPageLen request then
        some (pagedSlot table.pageIndptr table.pageIndices request token)
      else none) := by
  rw [PageTable.physicalPageForToken, valid.requestKvLen_ok, ok_bind]
  by_cases h : request < table.spec.batchSize ∧
      KvLenFits w table.pageIndptr table.lastPageLen request
  · rw [if_pos h]
    dsimp only
    by_cases ht : token < pagedKvLen table.pageIndptr table.lastPageLen request
    · rw [if_neg (by omega), valid.requestPageRange_ok, if_pos h.1, if_pos ⟨h, ht⟩]
      exact slotInRange_ok valid.wellFormed valid.indices_fit table.spec.max_pages_fit h.1 ht
    · rw [if_pos (by omega), if_neg fun both => ht both.2]
      rfl
  · rw [if_neg h, if_neg fun both => h both.1]
    rfl

end PageTable.Valid

/-! ## Append -/

namespace Bf16RopePagedKvAppendSpec

variable {w : Nat} (spec : Bf16RopePagedKvAppendSpec w)

/-- The slot of a request's final token, as the validator looks it up. -/
def finalSlot (table : PageTable w) (request : Nat) : Machine HostFailure (Nat × Nat) := do
  let kvLen ← lift (expect (← table.requestKvLen request) "validated request has a KV length")
  let position ← subWord kvLen 1
  lift (expect (← table.physicalPageForToken request position)
    "validated final token maps to a physical slot")

/-- One request's final slot against those of the requests after it. -/
def checkFinalSlots (table : PageTable w) (firstRequest : Nat) : Machine HostFailure Unit := do
  let firstSlot ← finalSlot table firstRequest
  checkRange (← addWord w firstRequest 1) spec.paged.batchSize fun secondRequest => do
    let secondSlot ← finalSlot table secondRequest
    lift (ensure (firstSlot ≠ secondSlot)
      (.duplicatePageAppendSlot firstRequest secondRequest firstSlot.1 firstSlot.2))

def validatePageTable (pageIndptr pageIndices lastPageLen : Slice Int32) :
    Machine HostFailure (PageTable w) := do
  let table ← spec.paged.validatePageTable pageIndptr pageIndices lastPageLen
  checkRange 0 spec.paged.batchSize (spec.checkFinalSlots table)
  return table

end Bf16RopePagedKvAppendSpec

namespace Bf16RopePagedKvAppendTokensSpec

variable {w : Nat} (spec : Bf16RopePagedKvAppendTokensSpec w)

/-- One token of `validate_metadata`, after the slots of the tokens before it. -/
def validateToken (table : PageTable w) (batchIndices positions : Slice Int32) (token : Nat)
    (slots : List (Nat × Nat)) : Machine HostFailure (List (Nat × Nat)) := do
  let index ← entry batchIndices token
  let request ← lift (okOr (usizeTryFrom w index)
    (.appendBatchIndexOutOfRange token index spec.paged.batchSize))
  lift (ensure (request < spec.paged.batchSize)
    (.appendBatchIndexOutOfRange token index spec.paged.batchSize))
  let kvLen ← lift (expect (← table.requestKvLen request) "validated request has a KV length")
  let position ← entry positions token
  let logical ← lift (okOr (usizeTryFrom w position)
    (.appendPositionOutOfRange token request position kvLen))
  let slot ← lift (okOr (← table.physicalPageForToken request logical)
    (.appendPositionOutOfRange token request position kvLen))
  lift (LoomKernels.Bf16RopePagedKvAppendTokensSpec.recordSlot token slots slot)

/-- The table, and the physical slot of every token. -/
def validateMetadata (batchIndices positions pageIndptr pageIndices lastPageLen : Slice Int32) :
    Machine HostFailure (PageTable w × List (Nat × Nat)) := do
  lift (requireLen "batch_indices" batchIndices.len spec.tokens)
  lift (requireLen "positions" positions.len spec.tokens)
  let table ← spec.paged.validatePageTable pageIndptr pageIndices lastPageLen
  let slots ← forRangeM 0 spec.tokens (spec.validateToken table batchIndices positions) []
  return (table, slots)

end Bf16RopePagedKvAppendTokensSpec

/-! ## Ragged prefill -/

/-- `Bf16RaggedPrefillMetadata` -/
structure RaggedMetadata (w : Nat) where
  spec : Bf16RaggedPrefillSpec w
  qoIndptr : Slice Int32
  kvIndptr : Slice Int32

namespace RaggedMetadata

variable {w : Nat} (metadata : RaggedMetadata w)

def requestRowRanges (request : Nat) :
    Machine HostFailure (Option ((Nat × Nat) × (Nat × Nat))) := do
  if request ≥ metadata.spec.batchSize then return none
  else
    let next ← addWord w request 1
    let qoStart ← entry metadata.qoIndptr request
    let qoEnd ← entry metadata.qoIndptr next
    let kvStart ← entry metadata.kvIndptr request
    let kvEnd ← entry metadata.kvIndptr next
    return some ((asUsize w qoStart, asUsize w qoEnd), (asUsize w kvStart, asUsize w kvEnd))

def causalKvEnd (request queryIndex : Nat) : Machine HostFailure (Option Nat) := do
  match ← metadata.requestRowRanges request with
  | none => return none
  | some ((qoStart, qoEnd), (kvStart, kvEnd)) =>
    let qoLen ← subWord qoEnd qoStart
    let kvLen ← subWord kvEnd kvStart
    if queryIndex ≥ qoLen then return none
    else
      let first ← subWord (← addWord w kvStart kvLen) qoLen
      return some (← addWord w (← addWord w first queryIndex) 1)

/-- What the validator establishes. -/
structure Valid : Prop where
  qo : IndptrWellFormed metadata.spec.batchSize metadata.spec.nnzQo metadata.qoIndptr
  kv : IndptrWellFormed metadata.spec.batchSize metadata.spec.nnzKv metadata.kvIndptr
  causal : ∀ request < metadata.spec.batchSize,
    indptrLen metadata.qoIndptr request ≤ indptrLen metadata.kvIndptr request

end RaggedMetadata

namespace Bf16RaggedPrefillSpec

variable {w : Nat} (spec : Bf16RaggedPrefillSpec w)

/-- The check that a request has no more query rows than tokens. -/
def checkRaggedRequest (w : Nat) (qoIndptr kvIndptr : Slice Int32) (request : Nat) :
    Machine HostFailure Unit := do
  let next ← addWord w request 1
  let qoLen ← subSigned 32 (← entry qoIndptr next) (← entry qoIndptr request)
  let kvLen ← subSigned 32 (← entry kvIndptr next) (← entry kvIndptr request)
  lift (ensure (asUsize w qoLen ≤ asUsize w kvLen)
    (.raggedQueryLongerThanKv request (asUsize w qoLen) (asUsize w kvLen)))

def validateMetadata (qoIndptr kvIndptr : Slice Int32) :
    Machine HostFailure (RaggedMetadata w) := do
  lift (requireLen "qo_indptr" qoIndptr.len (← spec.indptrNumel))
  lift (requireLen "kv_indptr" kvIndptr.len (← spec.indptrNumel))
  validateIndptr w "qo_indptr" qoIndptr spec.nnzQo
  validateIndptr w "kv_indptr" kvIndptr spec.nnzKv
  checkRange 0 spec.batchSize (checkRaggedRequest w qoIndptr kvIndptr)
  return ⟨spec, qoIndptr, kvIndptr⟩

theorem qo_fits : spec.nnzQo < 2 ^ w :=
  mul_lt_of_mul_lt spec.queryHeads_pos (mul_lt_of_mul_lt (by decide) spec.query_fits)

theorem kv_count_fits : spec.nnzKv < 2 ^ w :=
  mul_lt_of_mul_lt spec.kvHeads_pos (mul_lt_of_mul_lt (by decide) spec.kv_fits)

end Bf16RaggedPrefillSpec

section Lengths

variable {w count total : Nat} {indptr : Slice Int32}
  (valid : IndptrWellFormed count total indptr) {request : Nat} (h : request < count)
include valid h

/-- The length of a request of a well-formed array is an `i32`. -/
theorem requestLen_signed :
    -2 ^ 31 ≤ indptr.int (request + 1) - indptr.int request ∧
      indptr.int (request + 1) - indptr.int request < 2 ^ 31 := by
  have start := valid.int_nonneg h.le
  have increasing := valid.increasing request h
  have bound := indptr.int_lt (request + 1)
  omega

theorem subSigned_entries :
    subSigned 32 (indptr.int (request + 1)) (indptr.int request) =
      (.ok (indptr.int (request + 1) - indptr.int request) : Machine HostFailure Int) :=
  if_pos (requestLen_signed valid h)

theorem asUsize_requestLen (total_fits : total < 2 ^ w) :
    asUsize w (indptr.int (request + 1) - indptr.int request) = indptrLen indptr request := by
  have start := valid.int_nonneg h.le
  have increasing := valid.increasing request h
  have bound := valid.start_le_total (show request + 1 ≤ count from h)
  have cast : ((2 ^ w : Nat) : Int) = 2 ^ w := by push_cast; rfl
  unfold indptrLen indptrStart at *
  rw [asUsize_of_lt (by omega) (by omega)]
  omega

end Lengths

namespace Bf16RaggedPrefillSpec

variable {w : Nat} (spec : Bf16RaggedPrefillSpec w) {qoIndptr kvIndptr : Slice Int32}

/-- Over well-formed arrays, the check of a request compares its two lengths. -/
theorem checkRaggedRequest_eq (qo : IndptrWellFormed spec.batchSize spec.nnzQo qoIndptr)
    (kv : IndptrWellFormed spec.batchSize spec.nnzKv kvIndptr) {request : Nat}
    (h : request < spec.batchSize) :
    checkRaggedRequest w qoIndptr kvIndptr request =
      lift (ensure (indptrLen qoIndptr request ≤ indptrLen kvIndptr request)
        (.raggedQueryLongerThanKv request (indptrLen qoIndptr request)
          (indptrLen kvIndptr request))) := by
  have hb := spec.batch_fits
  have qoLen := qo.len
  have kvLen := kv.len
  rw [checkRaggedRequest, addWord_ok (by omega), ok_bind, entry_ok (by omega), ok_bind,
    entry_ok (by omega), ok_bind, subSigned_entries qo h, ok_bind, entry_ok (by omega), ok_bind,
    entry_ok (by omega), ok_bind, subSigned_entries kv h, ok_bind,
    asUsize_requestLen qo h spec.qo_fits, asUsize_requestLen kv h spec.kv_count_fits]

/-- The validator accepts exactly the valid metadata. -/
theorem validateMetadata_eq_ok {metadata : RaggedMetadata w} :
    spec.validateMetadata qoIndptr kvIndptr = .ok metadata ↔
      metadata = ⟨spec, qoIndptr, kvIndptr⟩ ∧ metadata.Valid := by
  simp only [validateMetadata, spec.indptrNumel_ok, ok_bind, check_bind_eq_ok, lift_eq_ok,
    requireLen_eq_ok, checkRange_ok_iff]
  constructor
  · rintro ⟨qoLen, kvLen, hqo, hkv, requests, he⟩
    obtain rfl := Except.ok.inj he
    have qo := (validateIndptr_eq_ok qoLen spec.batch_fits spec.qo_fits).mp hqo
    have kv := (validateIndptr_eq_ok kvLen spec.batch_fits spec.kv_count_fits).mp hkv
    refine ⟨rfl, qo, kv, fun r hr => ?_⟩
    have checked := requests r (Nat.zero_le _) hr
    rwa [spec.checkRaggedRequest_eq qo kv hr, lift_eq_ok, ensure_eq_ok] at checked
  · rintro ⟨rfl, valid⟩
    refine ⟨valid.qo.len, valid.kv.len,
      (validateIndptr_eq_ok valid.qo.len spec.batch_fits spec.qo_fits).mpr valid.qo,
      (validateIndptr_eq_ok valid.kv.len spec.batch_fits spec.kv_count_fits).mpr valid.kv,
      fun r _ hr => ?_, rfl⟩
    rw [spec.checkRaggedRequest_eq valid.qo valid.kv hr, lift_eq_ok, ensure_eq_ok]
    exact valid.causal r hr

/-- The validator has no defect, whatever the arrays hold. -/
theorem validateMetadata_avoids (qoIndptr kvIndptr : Slice Int32) :
    Avoids Halt.isFault (spec.validateMetadata qoIndptr kvIndptr) := by
  rw [validateMetadata, spec.indptrNumel_ok, ok_bind]
  refine (avoids_lift _).andThen fun _ qoLen => ?_
  rw [ok_bind]
  refine (avoids_lift _).andThen fun _ kvLen => ?_
  rw [lift_eq_ok, requireLen_eq_ok] at qoLen kvLen
  refine (validateIndptr_avoids qoLen spec.batch_fits).andThen fun _ hqo =>
    (validateIndptr_avoids kvLen spec.batch_fits).andThen fun _ hkv =>
      Avoids.bind (Avoids.checkRange fun request _ hr _ => ?_) fun _ => avoids_ok _
  have qo := (validateIndptr_eq_ok qoLen spec.batch_fits spec.qo_fits).mp hqo
  have kv := (validateIndptr_eq_ok kvLen spec.batch_fits spec.kv_count_fits).mp hkv
  rw [spec.checkRaggedRequest_eq qo kv hr]
  exact avoids_lift _

end Bf16RaggedPrefillSpec

/-! ## Paged prefill -/

/-- `Bf16PagedPrefillMetadata` -/
structure PrefillMetadata (w : Nat) where
  spec : Bf16PagedPrefillSpec w
  qoIndptr : Slice Int32
  pageIndptr : Slice Int32
  pageIndices : Slice Int32
  lastPageLen : Slice Int32

namespace PrefillMetadata

variable {w : Nat} (metadata : PrefillMetadata w)

def requestQueryRange (request : Nat) : Machine HostFailure (Option (Nat × Nat)) :=
  pageRangeOf w metadata.spec.batchSize metadata.qoIndptr request

def requestPageRange (request : Nat) : Machine HostFailure (Option (Nat × Nat)) :=
  pageRangeOf w metadata.spec.batchSize metadata.pageIndptr request

def requestKvLen (request : Nat) : Machine HostFailure (Option Nat) :=
  kvLenOf w metadata.spec.batchSize metadata.pageIndptr metadata.lastPageLen request

def causalKvEnd (request queryIndex : Nat) : Machine HostFailure (Option Nat) := do
  match ← metadata.requestQueryRange request with
  | none => return none
  | some (qoStart, qoEnd) =>
    let qoLen ← subWord qoEnd qoStart
    match ← metadata.requestKvLen request with
    | none => return none
    | some kvLen =>
      if queryIndex ≥ qoLen then return none
      else return some (← addWord w (← addWord w (← subWord kvLen qoLen) queryIndex) 1)

def physicalPageForToken (request logicalToken : Nat) :
    Machine HostFailure (Option (Nat × Nat)) := do
  match ← metadata.requestKvLen request with
  | none => return none
  | some kvLen =>
    if logicalToken ≥ kvLen then return none
    else
      match ← metadata.requestPageRange request with
      | none => return none
      | some (pageStart, _) => slotInRange w metadata.pageIndices pageStart logicalToken

/-- What the validator establishes. -/
structure Valid : Prop where
  qo : IndptrWellFormed metadata.spec.batchSize metadata.spec.nnzQo metadata.qoIndptr
  table : PageTableWellFormed metadata.spec.batchSize metadata.spec.maxNumPages
    metadata.pageIndptr metadata.pageIndices metadata.lastPageLen
  indices_fit : metadata.pageIndices.len < 2 ^ w
  lengths_fit : ∀ request < metadata.spec.batchSize,
    KvLenFits w metadata.pageIndptr metadata.lastPageLen request
  causal : ∀ request < metadata.spec.batchSize, indptrLen metadata.qoIndptr request ≤
    pagedKvLen metadata.pageIndptr metadata.lastPageLen request

end PrefillMetadata

namespace Bf16PagedPrefillSpec

variable {w : Nat} (spec : Bf16PagedPrefillSpec w)

theorem max_pages_fit : spec.maxNumPages < 2 ^ w :=
  mul_lt_of_mul_lt (by decide)
    (mul_lt_of_mul_lt spec.kvHeads_pos (mul_lt_of_mul_lt (show 0 < singleDecodeHeadDim by decide)
      spec.pages_fit))

include spec in
theorem page_fits : pagedPrefillPageSize < 2 ^ w := by
  have tokens := mul_lt_of_mul_lt spec.kvHeads_pos
    (mul_lt_of_mul_lt (show 0 < singleDecodeHeadDim by decide) spec.pages_fit)
  exact (Nat.le_mul_of_pos_left _ spec.pages_pos).trans_lt tokens

theorem qo_fits : spec.nnzQo < 2 ^ w :=
  mul_lt_of_mul_lt spec.queryHeads_pos (mul_lt_of_mul_lt (by decide) spec.query_fits)

/-- The checks of one request. -/
def checkPagedPrefillRequest (w : Nat) (qoIndptr pageIndptr lastPageLen : Slice Int32)
    (request : Nat) : Machine HostFailure Unit := do
  let next ← addWord w request 1
  let pageStart ← entry pageIndptr request
  let pageEnd ← entry pageIndptr next
  lift (ensure (pageStart ≤ pageEnd) (.nonMonotonicPageIndptr request pageStart pageEnd))
  lift (ensure (pageEnd ≠ pageStart) (.emptyPagedRequest request))
  let tailLen ← entry lastPageLen request
  lift (ensure (1 ≤ tailLen ∧ tailLen ≤ pagedPrefillPageSize)
    (.invalidLastPageLength request tailLen pagedPrefillPageSize))
  let qoLen ← subSigned 32 (← entry qoIndptr next) (← entry qoIndptr request)
  let pageCount ← subSigned 32 pageEnd pageStart
  let full ← subWord (asUsize w pageCount) 1
  let kvLen ← lift (okOr ((checkedMul w full pagedPrefillPageSize).bind
    (checkedAdd w · (asUsize w tailLen))) .elementCountOverflow)
  lift (ensure (asUsize w qoLen ≤ kvLen)
    (.raggedQueryLongerThanKv request (asUsize w qoLen) kvLen))

def validateMetadata (qoIndptr pageIndptr pageIndices lastPageLen : Slice Int32) :
    Machine HostFailure (PrefillMetadata w) := do
  lift (requireLen "qo_indptr" qoIndptr.len (← spec.indptrNumel))
  lift (requireLen "page_indptr" pageIndptr.len (← spec.indptrNumel))
  lift (requireLen "last_page_len" lastPageLen.len spec.lastPageLenNumel)
  validateIndptr w "qo_indptr" qoIndptr spec.nnzQo
  let first ← entry pageIndptr 0
  lift (ensure (first = 0) (.invalidPageIndptrStart first))
  checkRange 0 spec.batchSize (checkPagedPrefillRequest w qoIndptr pageIndptr lastPageLen)
  let last ← entry pageIndptr spec.batchSize
  let expectedIndices ← lift (okOr (usizeTryFrom w last) .elementCountOverflow)
  lift (requireLen "page_indices" pageIndices.len expectedIndices)
  checkRange 0 pageIndices.len
    (Bf16PagedBatchDecodeSpec.checkPageIndex w spec.maxNumPages pageIndices)
  return ⟨spec, qoIndptr, pageIndptr, pageIndices, lastPageLen⟩

/-- The length of a request, as the validator computes it. -/
theorem checkedKvLen {batchSize maxNumPages : Nat} {pageIndptr pageIndices lastPageLen : Slice Int32}
    (table : PageTableWellFormed batchSize maxNumPages pageIndptr pageIndices lastPageLen)
    (indices_fit : pageIndices.len < 2 ^ w) (page_fits : pagedBatchDecodePageSize < 2 ^ w)
    {request : Nat} (h : request < batchSize) :
    (checkedMul w (asUsize w (pageIndptr.int (request + 1) - pageIndptr.int request) - 1)
        pagedPrefillPageSize).bind (checkedAdd w · (asUsize w (lastPageLen.int request))) =
      if KvLenFits w pageIndptr lastPageLen request then
        some (pagedKvLen pageIndptr lastPageLen request)
      else none := by
  have tail := table.tail request h
  rw [asUsize_requestLen table.indptr h indices_fit, asUsize_int (by omega) (by omega)]
  unfold checkedMul checkedAdd
  by_cases full : (indptrLen pageIndptr request - 1) * pagedPrefillPageSize < 2 ^ w
  · rw [if_pos full]
    rfl
  · have short : ¬ KvLenFits w pageIndptr lastPageLen request := fun fits =>
      full (Nat.lt_of_le_of_lt (Nat.le_add_right _ _) fits)
    rw [if_neg full, if_neg short]
    rfl

theorem checkPagedPrefillRequest_eq_ok {qoIndptr pageIndptr lastPageLen : Slice Int32}
    {request : Nat} :
    checkPagedPrefillRequest w qoIndptr pageIndptr lastPageLen request = .ok () ↔
      (request + 1 < 2 ^ w ∧ request + 1 < pageIndptr.len ∧ request + 1 < qoIndptr.len ∧
        request < lastPageLen.len) ∧
      pageIndptr.int request < pageIndptr.int (request + 1) ∧
      (1 ≤ lastPageLen.int request ∧ lastPageLen.int request ≤ pagedPrefillPageSize) ∧
      (-2 ^ 31 ≤ qoIndptr.int (request + 1) - qoIndptr.int request ∧
        qoIndptr.int (request + 1) - qoIndptr.int request < 2 ^ 31) ∧
      (-2 ^ 31 ≤ pageIndptr.int (request + 1) - pageIndptr.int request ∧
        pageIndptr.int (request + 1) - pageIndptr.int request < 2 ^ 31) ∧
      1 ≤ asUsize w (pageIndptr.int (request + 1) - pageIndptr.int request) ∧
      ∃ kvLen, (checkedMul w (asUsize w (pageIndptr.int (request + 1) - pageIndptr.int request) - 1)
          pagedPrefillPageSize).bind (checkedAdd w · (asUsize w (lastPageLen.int request))) =
            some kvLen ∧
        asUsize w (qoIndptr.int (request + 1) - qoIndptr.int request) ≤ kvLen := by
  simp only [checkPagedPrefillRequest, addWord_bind_eq_ok, entry_bind_eq_ok, check_bind_eq_ok,
    lift_eq_ok, ensure_eq_ok, subSigned_bind_eq_ok, subWord_bind_eq_ok, lift_okOr_bind_eq_ok,
    Nat.reduceSub]
  constructor
  · rintro ⟨hw, hp, hp', le, ne, ht, tail, hq', hq, sub, sub', one, kvLen⟩
    exact ⟨⟨hw, hp', hq', ht⟩, by omega, tail, sub, sub', one, kvLen⟩
  · rintro ⟨⟨hw, hp, hq, ht⟩, lt, tail, sub, sub', one, kvLen⟩
    exact ⟨hw, by omega, hp, by omega, by omega, ht, tail, hq, by omega, sub, sub', one, kvLen⟩

/-- The validator accepts exactly the valid metadata. -/
theorem validateMetadata_eq_ok {qoIndptr pageIndptr pageIndices lastPageLen : Slice Int32}
    {metadata : PrefillMetadata w} :
    spec.validateMetadata qoIndptr pageIndptr pageIndices lastPageLen = .ok metadata ↔
      metadata = ⟨spec, qoIndptr, pageIndptr, pageIndices, lastPageLen⟩ ∧ metadata.Valid := by
  simp only [validateMetadata, spec.indptrNumel_ok, ok_bind, entry_bind_eq_ok, check_bind_eq_ok,
    lift_eq_ok, ensure_eq_ok, lift_okOr_bind_eq_ok, requireLen_eq_ok, checkRange_ok_iff,
    checkPagedPrefillRequest_eq_ok,
    Bf16PagedBatchDecodeSpec.checkPageIndex_eq_ok spec.max_pages_fit, usizeTryFrom_eq_some,
    lastPageLenNumel]
  constructor
  · rintro ⟨qoLen, indptrLen, tailLen, hqo, _, start, requests, _, n, ⟨total, fits⟩, rfl, pages,
      he⟩
    obtain rfl := Except.ok.inj he
    have qo := (validateIndptr_eq_ok qoLen spec.batch_fits spec.qo_fits).mp hqo
    have table : PageTableWellFormed spec.batchSize spec.maxNumPages pageIndptr pageIndices
        lastPageLen :=
      ⟨indptrLen, tailLen, start, fun r hr => (requests r (Nat.zero_le _) hr).2.1,
        fun r hr => (requests r (Nat.zero_le _) hr).2.2.1, total,
        fun i hi => (pages i (Nat.zero_le _) hi).2⟩
    have lengths : ∀ r < spec.batchSize, KvLenFits w pageIndptr lastPageLen r ∧
        LoomKernels.indptrLen qoIndptr r ≤ pagedKvLen pageIndptr lastPageLen r := by
      intro r hr
      obtain ⟨kvLen, hkv, le⟩ := (requests r (Nat.zero_le _) hr).2.2.2.2.2.2
      rw [checkedKvLen table fits spec.page_fits hr] at hkv
      rw [asUsize_requestLen qo hr spec.qo_fits] at le
      by_cases h : KvLenFits w pageIndptr lastPageLen r
      · rw [if_pos h, Option.some.injEq] at hkv
        exact ⟨h, hkv ▸ le⟩
      · rw [if_neg h] at hkv
        cases hkv
    exact ⟨rfl, qo, table, fits, fun r hr => (lengths r hr).1, fun r hr => (lengths r hr).2⟩
  · rintro ⟨rfl, valid⟩
    have qo := valid.qo
    have table := valid.table
    have qoLen := qo.len
    have indptrLen := table.indptr_len
    have tailLen := table.tail_len
    have hb := spec.batch_fits
    dsimp only at qoLen indptrLen tailLen qo table
    refine ⟨qoLen, indptrLen, tailLen, (validateIndptr_eq_ok qoLen hb spec.qo_fits).mpr qo,
      by omega, table.start, fun r _ hr => ?_, by omega, _, ⟨table.total, valid.indices_fit⟩, rfl,
      fun i _ hi => ⟨hi, table.page i hi⟩, rfl⟩
    have pageCount := asUsize_requestLen table.indptr hr valid.indices_fit
    have pos := table.indptr.len_pos hr
    refine ⟨⟨by omega, by omega, by omega, by omega⟩, table.increasing r hr, table.tail r hr,
      requestLen_signed qo hr, requestLen_signed table.indptr hr, by omega, _,
      by rw [checkedKvLen table valid.indices_fit spec.page_fits hr,
        if_pos (valid.lengths_fit r hr)], ?_⟩
    rw [asUsize_requestLen qo hr spec.qo_fits]
    exact valid.causal r hr

/-- The validator has no defect, whatever the arrays hold: when it subtracts two page boundaries,
the boundaries before them are known to ascend from zero. -/
theorem validateMetadata_avoids (wide : 32 ≤ w)
    (qoIndptr pageIndptr pageIndices lastPageLen : Slice Int32) :
    Avoids Halt.isFault (spec.validateMetadata qoIndptr pageIndptr pageIndices lastPageLen) := by
  have hb := spec.batch_fits
  rw [validateMetadata, spec.indptrNumel_ok, ok_bind]
  refine (avoids_lift _).andThen fun _ qoLen => ?_
  rw [ok_bind]
  refine (avoids_lift _).andThen fun _ pageLen => (avoids_lift _).andThen fun _ tailLen => ?_
  rw [lift_eq_ok, requireLen_eq_ok] at qoLen pageLen tailLen
  rw [lastPageLenNumel] at tailLen
  refine (validateIndptr_avoids qoLen hb).andThen fun _ hqo => ?_
  have qo := (validateIndptr_eq_ok qoLen hb spec.qo_fits).mp hqo
  rw [entry_ok (by omega), ok_bind]
  refine (avoids_lift _).andThen fun _ start => Avoids.bind
    (Avoids.checkRange fun request _ hr before => ?_) fun _ => ?_
  · rw [lift_eq_ok, ensure_eq_ok] at start
    have nonneg : ∀ r ≤ request, 0 ≤ pageIndptr.int r := by
      intro r
      induction r with
      | zero => exact fun _ => start.ge
      | succ r ih =>
        intro hr
        have passed := before r (Nat.zero_le _) hr
        exact (ih (by omega)).trans (checkPagedPrefillRequest_eq_ok.mp passed).2.1.le
    have first := nonneg request le_rfl
    have bound := pageIndptr.int_lt (request + 1)
    rw [checkPagedPrefillRequest, addWord_ok (by omega), ok_bind, entry_ok (by omega), ok_bind,
      entry_ok (by omega), ok_bind]
    refine (avoids_lift _).andThen fun _ le => (avoids_lift _).andThen fun _ ne => ?_
    rw [lift_eq_ok, ensure_eq_ok] at le ne
    rw [entry_ok (by omega), ok_bind]
    refine (avoids_lift _).bind fun _ => ?_
    have word : (2 : Int) ^ 31 ≤ 2 ^ w := pow_le_pow_right₀ (by decide) (by omega)
    have count : asUsize w (pageIndptr.int (request + 1) - pageIndptr.int request) =
        (pageIndptr.int (request + 1) - pageIndptr.int request).toNat :=
      asUsize_of_lt (by omega) (by omega)
    rw [entry_ok (by omega), ok_bind, entry_ok (by omega), ok_bind, subSigned_entries qo hr, ok_bind,
      subSigned, if_pos ⟨by omega, by omega⟩, ok_bind, subWord_ok (by omega), ok_bind]
    exact (avoids_lift _).bind fun _ => avoids_lift _
  · rw [entry_ok (by omega), ok_bind]
    refine (avoids_lift _).bind fun _ => (avoids_lift _).bind fun _ =>
      Avoids.bind (Avoids.checkRange fun position _ hp _ => ?_) fun _ => avoids_ok _
    rw [Bf16PagedBatchDecodeSpec.checkPageIndex, entry_ok hp, ok_bind]
    exact avoids_lift _

end Bf16PagedPrefillSpec

/-! ## Look-ups of valid metadata -/

namespace RaggedMetadata.Valid

variable {w : Nat} {metadata : RaggedMetadata w} (valid : metadata.Valid)
include valid

theorem requestRowRanges_ok (request : Nat) :
    metadata.requestRowRanges request =
      .ok (if request < metadata.spec.batchSize then
        some ((indptrStart metadata.qoIndptr request, indptrStart metadata.qoIndptr (request + 1)),
          (indptrStart metadata.kvIndptr request, indptrStart metadata.kvIndptr (request + 1)))
      else none) := by
  have hb := metadata.spec.batch_fits
  have qoLen := valid.qo.len
  have kvLen := valid.kv.len
  unfold requestRowRanges
  by_cases h : request < metadata.spec.batchSize
  · have qoCast : ∀ i ≤ metadata.spec.batchSize,
        asUsize w (metadata.qoIndptr.int i) = indptrStart metadata.qoIndptr i := fun i hi =>
      asUsize_int (valid.qo.int_nonneg hi)
        ((valid.qo.start_le_total hi).trans_lt metadata.spec.qo_fits)
    have kvCast : ∀ i ≤ metadata.spec.batchSize,
        asUsize w (metadata.kvIndptr.int i) = indptrStart metadata.kvIndptr i := fun i hi =>
      asUsize_int (valid.kv.int_nonneg hi)
        ((valid.kv.start_le_total hi).trans_lt metadata.spec.kv_count_fits)
    rw [if_neg (by omega), if_pos h, addWord_ok (by omega), ok_bind, entry_ok (by omega), ok_bind,
      entry_ok (by omega), ok_bind, entry_ok (by omega), ok_bind, entry_ok (by omega), ok_bind,
      qoCast request h.le, qoCast (request + 1) h, kvCast request h.le, kvCast (request + 1) h]
    rfl
  · rw [if_pos (by omega), if_neg h]
    rfl

/-- The causal end of a query row of a request, as the source computes it. -/
theorem causalKvEnd_ok {request queryRow : Nat} (h : request < metadata.spec.batchSize)
    (lo : indptrStart metadata.qoIndptr request ≤ queryRow)
    (hi : queryRow < indptrStart metadata.qoIndptr (request + 1)) :
    metadata.causalKvEnd request (queryRow - indptrStart metadata.qoIndptr request) =
      .ok (some (raggedCausalEnd metadata.qoIndptr metadata.kvIndptr request queryRow)) := by
  have causal := valid.causal request h
  have qo := valid.qo.start_lt h
  have kv := valid.kv.start_lt h
  have bound := valid.kv.start_le_total (show request + 1 ≤ _ from h)
  have fits := metadata.spec.kv_count_fits
  unfold indptrLen at causal
  rw [causalKvEnd, valid.requestRowRanges_ok, ok_bind, if_pos h]
  dsimp only
  rw [subWord_ok qo.le, ok_bind, subWord_ok kv.le, ok_bind, if_neg (by omega),
    addWord_ok (by omega), ok_bind, subWord_ok (by omega), ok_bind, addWord_ok (by omega), ok_bind,
    addWord_ok (by omega), ok_bind]
  refine congrArg (fun n => Except.ok (some n)) ?_
  unfold raggedCausalEnd causalCount indptrLen
  omega

end RaggedMetadata.Valid

namespace PrefillMetadata.Valid

variable {w : Nat} {metadata : PrefillMetadata w} (valid : metadata.Valid)
include valid

theorem requestQueryRange_ok (request : Nat) :
    metadata.requestQueryRange request =
      .ok (if request < metadata.spec.batchSize then
        some (indptrStart metadata.qoIndptr request, indptrStart metadata.qoIndptr (request + 1))
      else none) :=
  pageRangeOf_ok valid.qo metadata.spec.batch_fits metadata.spec.qo_fits request

theorem requestPageRange_ok (request : Nat) :
    metadata.requestPageRange request =
      .ok (if request < metadata.spec.batchSize then
        some (indptrStart metadata.pageIndptr request,
          indptrStart metadata.pageIndptr (request + 1))
      else none) :=
  pageRangeOf_ok valid.table.indptr metadata.spec.batch_fits valid.indices_fit request

/-- The validator has checked that the length of every request is a word. -/
theorem requestKvLen_ok (request : Nat) :
    metadata.requestKvLen request =
      .ok (if request < metadata.spec.batchSize then
        some (pagedKvLen metadata.pageIndptr metadata.lastPageLen request)
      else none) := by
  rw [PrefillMetadata.requestKvLen,
    kvLenOf_ok valid.table valid.indices_fit metadata.spec.batch_fits metadata.spec.page_fits]
  exact congrArg Except.ok (if_congr ⟨And.left, fun h => ⟨h, valid.lengths_fit request h⟩⟩ rfl rfl)

theorem causalKvEnd_ok {request queryRow : Nat} (h : request < metadata.spec.batchSize)
    (lo : indptrStart metadata.qoIndptr request ≤ queryRow)
    (hi : queryRow < indptrStart metadata.qoIndptr (request + 1)) :
    metadata.causalKvEnd request (queryRow - indptrStart metadata.qoIndptr request) =
      .ok (some (causalCount metadata.qoIndptr (pagedKvLen metadata.pageIndptr metadata.lastPageLen
        request) request queryRow)) := by
  have causal := valid.causal request h
  have qo := valid.qo.start_lt h
  have fits := valid.lengths_fit request h
  unfold indptrLen at causal
  rw [causalKvEnd, valid.requestQueryRange_ok, ok_bind, if_pos h]
  dsimp only
  rw [subWord_ok qo.le, ok_bind, valid.requestKvLen_ok, ok_bind, if_pos h]
  dsimp only
  rw [if_neg (by omega), subWord_ok causal, ok_bind, addWord_ok (by omega), ok_bind,
    addWord_ok (by omega), ok_bind]
  rfl

/-- `physical_page_for_token` has a value exactly for the tokens below the length. -/
theorem physicalPageForToken_ok (request token : Nat) :
    metadata.physicalPageForToken request token =
      .ok (if request < metadata.spec.batchSize ∧
          token < pagedKvLen metadata.pageIndptr metadata.lastPageLen request then
        some (pagedSlot metadata.pageIndptr metadata.pageIndices request token)
      else none) := by
  rw [PrefillMetadata.physicalPageForToken, valid.requestKvLen_ok, ok_bind]
  by_cases h : request < metadata.spec.batchSize
  · rw [if_pos h]
    dsimp only
    by_cases ht : token < pagedKvLen metadata.pageIndptr metadata.lastPageLen request
    · rw [if_neg (by omega), valid.requestPageRange_ok, ok_bind, if_pos h, if_pos ⟨h, ht⟩]
      exact slotInRange_ok valid.table valid.indices_fit metadata.spec.max_pages_fit h ht
    · rw [if_pos (by omega), if_neg fun both => ht both.2]
      rfl
  · rw [if_neg h, if_neg fun both => h both.1]
    rfl

end PrefillMetadata.Valid

end LoomKernels.Word
