import LoomKernels.Device.Machine
import LoomKernels.Host.AppendEffect

/-!
# The guards of the append kernels

Before it writes, every thread of an append kernel checks the page table. The single-token kernel
scans the whole table in each thread; the multi-token kernel splits the scan over the 64 threads of
a block and votes twice.

`appendGuard_ok` says exactly when a block of the single-token kernel gets to its writes, and
`tokensGuard_iff` that a block of the multi-token kernel does so exactly when the host validator
accepts. In both, no guard faults, whatever the arrays hold.
-/

namespace LoomKernels

/-- `ROTARY_PAIRS` -/
abbrev rotaryPairs : Nat := 64

/-- `BLOCK_THREADS` -/
abbrev ropeBlockThreads : Nat := rotaryPairs

/-- The lengths of a page table's arrays that the enqueue checks. -/
structure PageTableLengths (batchSize : Nat) (pageIndptr pageIndices lastPageLen : Slice Int32) :
    Prop where
  indptr : pageIndptr.len = batchSize + 1
  indices : batchSize ≤ pageIndices.len
  tail : lastPageLen.len = batchSize

/-! ## Single-token kernel -/

/-- Where a request's new token goes: its position, page and offset. -/
def appendSlot (request batchSize maxNumPages : Nat)
    (pageIndptr pageIndices lastPageLen : Slice Int32) : DeviceM (Option (Nat × Nat × Nat)) := do
  if request ≥ batchSize then return none
  else
    let pageStart ← pageIndptr.read request
    let pageEnd ← pageIndptr.read (request + 1)
    let tail ← lastPageLen.read request
    if pageStart < 0 ∨ pageEnd ≤ pageStart ∨ asUsize pageEnd > pageIndices.len ∨
        ¬ (1 ≤ tail ∧ tail ≤ pagedBatchDecodePageSize) then return none
    else
      let pageSlot := asUsize (pageEnd - pageStart - 1)
      let physicalPage ← pageIndices.read (asUsize pageStart + pageSlot)
      if physicalPage < 0 ∨ asUsize physicalPage ≥ maxNumPages then return none
      else
        let position ← subUsize (pageSlot * pagedBatchDecodePageSize + asUsize tail) 1
        let pageOffset ← subUsize (asUsize tail) 1
        return some (position, asUsize physicalPage, pageOffset)

/-- `physical_page >= 0 && (physical_page as usize) < max_num_pages` of one entry. -/
def pageInRange (maxNumPages : Nat) (pageIndices : Slice Int32) (page : Nat) : DeviceM Bool := do
  let physicalPage ← pageIndices.read page
  return !(physicalPage < 0 || asUsize physicalPage ≥ maxNumPages)

/-- One pass of the duplicate scan of a block that owns `request`. -/
def otherSlotDiffers (request batchSize maxNumPages : Nat)
    (pageIndptr pageIndices lastPageLen : Slice Int32) (physicalPage pageOffset other : Nat) :
    DeviceM Bool := do
  if other ≠ request then
    match ← appendSlot other batchSize maxNumPages pageIndptr pageIndices lastPageLen with
    | none => return false
    | some (_, otherPage, otherOffset) =>
      return !(physicalPage == otherPage && pageOffset == otherOffset)
  else return true

/-- The guard of the single-token kernel in one thread: the position and slot to write, or `none`
where the kernel returns. -/
def appendGuard (batchSize maxNumPages queryHeads keyHeads : Nat)
    (pageIndptr pageIndices lastPageLen : Slice Int32) (state pair : Nat) :
    DeviceM (Option (Nat × Nat × Nat)) := do
  let heads := queryHeads + keyHeads
  if state ≥ batchSize * heads ∨ pair ≥ rotaryPairs then return none
  else
    let first ← pageIndptr.read 0
    let last ← pageIndptr.read batchSize
    if first ≠ 0 ∨ asUsize last ≠ pageIndices.len then return none
    else
      let pagesValid ← allRangeM 0 pageIndices.len (pageInRange maxNumPages pageIndices)
      if !pagesValid then return none
      else
        let request := state / heads
        match ← appendSlot request batchSize maxNumPages pageIndptr pageIndices lastPageLen with
        | none => return none
        | some (position, physicalPage, pageOffset) =>
          let distinct ← allRangeM 0 batchSize
            (otherSlotDiffers request batchSize maxNumPages pageIndptr pageIndices lastPageLen
              physicalPage pageOffset)
          if !distinct then return none
          else return some (position, physicalPage, pageOffset)

/-! ## Multi-token kernel -/

/-- One pass of the scan over the requests. -/
def requestInvalid (pageIndptr pageIndices lastPageLen : Slice Int32) (request : Nat) :
    DeviceM Bool := do
  let start ← pageIndptr.read request
  let stop ← pageIndptr.read (request + 1)
  let tail ← lastPageLen.read request
  return start < 0 || stop ≤ start || asUsize stop > pageIndices.len ||
    !(1 ≤ tail && tail ≤ pagedBatchDecodePageSize)

/-- One pass of the scan over the pages. -/
def pageInvalid (maxNumPages : Nat) (pageIndices : Slice Int32) (page : Nat) : DeviceM Bool := do
  let physicalPage ← pageIndices.read page
  return physicalPage < 0 || asUsize physicalPage ≥ maxNumPages

/-- What thread `pair` finds wrong in its share of the page table. -/
def pageTablePartitionInvalid (pair batchSize maxNumPages : Nat)
    (pageIndptr pageIndices lastPageLen : Slice Int32) : DeviceM Bool := do
  let ends ← if pair = 0 then do
      let finalIndptr ← pageIndptr.read batchSize
      let first ← pageIndptr.read 0
      pure (first != 0 || finalIndptr < 0 || asUsize finalIndptr != pageIndices.len)
    else pure false
  let ranges ← (strided pair ropeBlockThreads batchSize).foldlM
    (fun invalid request => do
      return invalid || (← requestInvalid pageIndptr pageIndices lastPageLen request))
    ends
  (strided pair ropeBlockThreads pageIndices.len).foldlM
    (fun invalid page => do return invalid || (← pageInvalid maxNumPages pageIndices page))
    ranges

/-- The vote of a block: the leader of each of the two warps publishes its warp's result, and after
the barrier every thread reads both. -/
def blockHasInvalid (invalid : Nat → Bool) : Bool :=
  let flags := warpAny invalid
  flags 0 || flags 1

/-- Where a token of a multi-token append goes: request, position, page and offset. -/
def explicitAppendSlot (token batchSize : Nat)
    (batchIndices positions pageIndptr pageIndices lastPageLen : Slice Int32) :
    DeviceM (Option (Nat × Nat × Nat × Nat)) := do
  let request ← batchIndices.read token
  let position ← positions.read token
  if request < 0 ∨ asUsize request ≥ batchSize ∨ position < 0 then return none
  else
    let request := asUsize request
    let pageStart := asUsize (← pageIndptr.read request)
    let pageEnd := asUsize (← pageIndptr.read (request + 1))
    let pageCount ← subUsize pageEnd pageStart
    let fullPages ← subUsize pageCount 1
    let kvLen := fullPages * pagedBatchDecodePageSize + asUsize (← lastPageLen.read request)
    let position := asUsize position
    if position ≥ kvLen then return none
    else
      let pageSlot := position / pagedBatchDecodePageSize
      let pageOffset := position % pagedBatchDecodePageSize
      let physicalPage := asUsize (← pageIndices.read (pageStart + pageSlot))
      return some (request, position, physicalPage, pageOffset)

/-- One pass of thread `pair`'s scan: the second token has a slot, and another one. -/
def secondSlotDiffers (batchSize : Nat)
    (batchIndices positions pageIndptr pageIndices lastPageLen : Slice Int32)
    (firstPage firstOffset secondToken : Nat) : DeviceM Bool := do
  match ← explicitAppendSlot secondToken batchSize batchIndices positions pageIndptr pageIndices
    lastPageLen with
  | none => return false
  | some (_, _, secondPage, secondOffset) =>
    return !(firstPage == secondPage && firstOffset == secondOffset)

/-- What thread `pair` finds wrong with token `pair`. -/
def tokenMappingInvalid (pair tokens batchSize : Nat)
    (batchIndices positions pageIndptr pageIndices lastPageLen : Slice Int32) : DeviceM Bool := do
  if pair < tokens then
    match ← explicitAppendSlot pair batchSize batchIndices positions pageIndptr pageIndices
      lastPageLen with
    | none => return true
    | some (_, _, firstPage, firstOffset) =>
      let passed ← allRangeM (pair + 1) tokens
        (secondSlotDiffers batchSize batchIndices positions pageIndptr pageIndices lastPageLen
          firstPage firstOffset)
      return !passed
  else return false

/-- The guard of the multi-token kernel in one thread. The two stages are run by all 64 threads of
the block; the vote needs the results of all. -/
def tokensGuard (tokens batchSize maxNumPages queryHeads keyHeads : Nat)
    (batchIndices positions pageIndptr pageIndices lastPageLen : Slice Int32) (state pair : Nat) :
    DeviceM (Option (Nat × Nat × Nat × Nat)) := do
  let heads := queryHeads + keyHeads
  if state ≥ tokens * heads ∨ pair ≥ rotaryPairs ∨ tokens > ropePagedKvAppendMaxTokens then
    return none
  else
    let tableInvalid ← collectRange ropeBlockThreads fun pair =>
      pageTablePartitionInvalid pair batchSize maxNumPages pageIndptr pageIndices lastPageLen
    if blockHasInvalid fun pair => tableInvalid[pair]! then return none
    else
      let mappingInvalid ← collectRange ropeBlockThreads fun pair =>
        tokenMappingInvalid pair tokens batchSize batchIndices positions pageIndptr pageIndices
          lastPageLen
      if blockHasInvalid fun pair => mappingInvalid[pair]! then return none
      else
        explicitAppendSlot (state / heads) batchSize batchIndices positions pageIndptr pageIndices
          lastPageLen

/-! ## What the guards test -/

section Guards

variable {batchSize maxNumPages : Nat} {pageIndptr pageIndices lastPageLen : Slice Int32}

/-- A request whose range and tail pass. -/
structure RequestInRange (pageIndptr pageIndices lastPageLen : Slice Int32) (request : Nat) :
    Prop where
  start_nonneg : 0 ≤ pageIndptr.int request
  increasing : pageIndptr.int request < pageIndptr.int (request + 1)
  stop_le : pageIndptr.int (request + 1) ≤ pageIndices.len
  tail : 1 ≤ lastPageLen.int request ∧ lastPageLen.int request ≤ pagedBatchDecodePageSize

/-- A page that passes. -/
def PageInRange (maxNumPages : Nat) (pageIndices : Slice Int32) (page : Nat) : Prop :=
  0 ≤ pageIndices.int page ∧ pageIndices.int page < maxNumPages

theorem requestInRange_iff {request : Nat} :
    RequestInRange pageIndptr pageIndices lastPageLen request ↔
      ¬ (pageIndptr.int request < 0 ∨ pageIndptr.int (request + 1) ≤ pageIndptr.int request ∨
        asUsize (pageIndptr.int (request + 1)) > pageIndices.len ∨
        ¬ (1 ≤ lastPageLen.int request ∧
          lastPageLen.int request ≤ pagedBatchDecodePageSize)) := by
  have cast := fun h => asUsize_of_nonneg (x := pageIndptr.int (request + 1)) h
    (pageIndptr.int_lt (request + 1))
  constructor
  · rintro ⟨h1, h2, h3, h4⟩
    have := cast (by omega)
    omega
  · intro h
    have := cast (by omega)
    exact ⟨by omega, by omega, by omega, by omega⟩

theorem pageInRange_iff {page : Nat} :
    PageInRange maxNumPages pageIndices page ↔
      ¬ (pageIndices.int page < 0 ∨ asUsize (pageIndices.int page) ≥ maxNumPages) := by
  have cast := fun h => asUsize_of_nonneg (x := pageIndices.int page) h (pageIndices.int_lt page)
  constructor
  · rintro ⟨h1, h2⟩
    have := cast h1
    omega
  · intro h
    have := cast (by omega)
    exact ⟨by omega, by omega⟩

instance (request : Nat) : Decidable (RequestInRange pageIndptr pageIndices lastPageLen request) :=
  decidable_of_iff _ requestInRange_iff.symm

instance (page : Nat) : Decidable (PageInRange maxNumPages pageIndices page) :=
  inferInstanceAs (Decidable (_ ∧ _))

theorem PageTableWellFormed.requestInRange
    (table : PageTableWellFormed batchSize maxNumPages pageIndptr pageIndices lastPageLen)
    {request : Nat} (hr : request < batchSize) :
    RequestInRange pageIndptr pageIndices lastPageLen request :=
  ⟨table.indptr.int_nonneg hr.le, table.increasing request hr, table.indptr.int_le_total hr,
    table.tail request hr⟩

theorem PageTableWellFormed.lengths
    (table : PageTableWellFormed batchSize maxNumPages pageIndptr pageIndices lastPageLen) :
    PageTableLengths batchSize pageIndptr pageIndices lastPageLen :=
  ⟨table.indptr_len, table.indptr.count_le_total, table.tail_len⟩

/-- A table is well formed when it starts at zero, ends at the number of pages, and every request
and every page passes. -/
theorem wellFormed_iff (maxNumPages : Nat)
    (lengths : PageTableLengths batchSize pageIndptr pageIndices lastPageLen)
    (batch_pos : 0 < batchSize) :
    PageTableWellFormed batchSize maxNumPages pageIndptr pageIndices lastPageLen ↔
      (pageIndptr.int 0 = 0 ∧ asUsize (pageIndptr.int batchSize) = pageIndices.len) ∧
      (∀ request < batchSize, RequestInRange pageIndptr pageIndices lastPageLen request) ∧
      ∀ page < pageIndices.len, PageInRange maxNumPages pageIndices page := by
  constructor
  · intro table
    refine ⟨⟨table.start, ?_⟩, fun request hr => table.requestInRange hr, table.page⟩
    have := asUsize_of_nonneg (table.indptr.int_nonneg le_rfl) (pageIndptr.int_lt batchSize)
    have := table.total
    omega
  · rintro ⟨⟨start, total⟩, requests, pages⟩
    refine ⟨lengths.indptr, lengths.tail, start, fun r hr => (requests r hr).increasing,
      fun r hr => (requests r hr).tail, ?_, pages⟩
    -- the last request ends at a positive entry, so the cast is exact
    have last := requests (batchSize - 1) (by omega)
    have h1 := last.start_nonneg
    have h2 := last.increasing
    rw [Nat.sub_add_cancel batch_pos] at h2
    have := asUsize_of_nonneg (x := pageIndptr.int batchSize) (by omega) (pageIndptr.int_lt batchSize)
    omega

/-! ## The single-token guard -/

/-- Looking up a slot does not fault, and finds one only for a request whose range passes. -/
theorem appendSlot_ok (maxNumPages : Nat)
    (lengths : PageTableLengths batchSize pageIndptr pageIndices lastPageLen) {request : Nat} (hr : request < batchSize) :
    ∃ slot, appendSlot request batchSize maxNumPages pageIndptr pageIndices lastPageLen = .ok slot ∧
      (slot ≠ none → RequestInRange pageIndptr pageIndices lastPageLen request) := by
  have h1 := lengths.indptr
  have h2 := lengths.tail
  simp only [appendSlot, if_neg (show ¬ request ≥ batchSize by omega),
    Slice.read_ok (show request < pageIndptr.len by omega),
    Slice.read_ok (show request + 1 < pageIndptr.len by omega),
    Slice.read_ok (show request < lastPageLen.len by omega), ok_bind]
  split
  · exact ⟨none, rfl, fun h => absurd rfl h⟩
  · rename_i passed
    have range := requestInRange_iff.mpr passed
    have := range.start_nonneg
    have := range.increasing
    have := range.stop_le
    have := range.tail
    have castStart := asUsize_of_nonneg (x := pageIndptr.int request) (by omega)
      (pageIndptr.int_lt request)
    have castSlot := asUsize_of_nonneg
      (x := pageIndptr.int (request + 1) - pageIndptr.int request - 1) (by omega)
      (by have := pageIndptr.int_lt (request + 1); omega)
    have castTail := asUsize_of_nonneg (x := lastPageLen.int request) (by omega)
      (lastPageLen.int_lt request)
    rw [Slice.read_ok (by omega), ok_bind]
    split
    · exact ⟨none, rfl, fun h => absurd rfl h⟩
    · rw [subUsize_ok (by omega), ok_bind, subUsize_ok (by omega), ok_bind]
      exact ⟨_, rfl, fun _ => range⟩

/-- Over a well-formed table, the slot is that of the request's final token. -/
theorem appendSlot_eq
    (table : PageTableWellFormed batchSize maxNumPages pageIndptr pageIndices lastPageLen)
    {request : Nat} (hr : request < batchSize) :
    appendSlot request batchSize maxNumPages pageIndptr pageIndices lastPageLen =
      .ok (some (pagedKvLen pageIndptr lastPageLen request - 1,
        pagedFinalSlot pageIndptr pageIndices lastPageLen request)) := by
  have h1 := table.indptr_len
  have h2 := table.tail_len
  have tail := table.tail request hr
  have lt := table.indptr.start_lt hr
  have start := table.indptr.int_eq_start hr.le
  have stop := table.indptr.int_eq_start (show request + 1 ≤ batchSize from hr)
  have castTail := table.asUsize_tail hr
  have slotCast : asUsize (pageIndptr.int (request + 1) - pageIndptr.int request - 1) =
      indptrStart pageIndptr (request + 1) - indptrStart pageIndptr request - 1 := by
    have := pageIndptr.int_lt (request + 1)
    have := asUsize_of_nonneg
      (x := pageIndptr.int (request + 1) - pageIndptr.int request - 1) (by omega) (by omega)
    omega
  -- the final token is in the last page, whose entry is the last of the request
  have kvLen : pagedKvLen pageIndptr lastPageLen request =
      (indptrStart pageIndptr (request + 1) - indptrStart pageIndptr request - 1) * 16 +
        (lastPageLen.int request).toNat := rfl
  have entry : indptrStart pageIndptr request +
      (indptrStart pageIndptr (request + 1) - indptrStart pageIndptr request - 1) =
      indptrStart pageIndptr request + (pagedKvLen pageIndptr lastPageLen request - 1) / 16 := by
    simp only [pagedBatchDecodePageSize] at tail
    omega
  have offset : (pagedKvLen pageIndptr lastPageLen request - 1) % 16 =
      (lastPageLen.int request).toNat - 1 := by
    simp only [pagedBatchDecodePageSize] at tail
    omega
  have inside : indptrStart pageIndptr request +
      (pagedKvLen pageIndptr lastPageLen request - 1) / 16 < pageIndices.len :=
    table.entry_lt_len hr (by have := table.kvLen_pos hr; omega)
  have page := table.page _ inside
  have pageCast := table.asUsize_page inside
  simp only [appendSlot, if_neg (show ¬ request ≥ batchSize by omega),
    Slice.read_ok (show request < pageIndptr.len by omega),
    Slice.read_ok (show request + 1 < pageIndptr.len by omega),
    Slice.read_ok (show request < lastPageLen.len by omega), ok_bind]
  rw [if_neg (requestInRange_iff.mp (table.requestInRange hr)), table.indptr.asUsize_eq_start hr.le,
    slotCast, entry, Slice.read_ok inside, ok_bind, if_neg (pageInRange_iff.mp page), castTail,
    subUsize_ok (by omega), ok_bind, subUsize_ok (by omega), ok_bind, pageCast, ← offset]
  rfl

/-- A page scan does not fault. -/
theorem pagesScan_ok (maxNumPages : Nat) (pageIndices : Slice Int32) :
    ∃ passed, allRangeM 0 pageIndices.len (pageInRange maxNumPages pageIndices) = .ok passed ∧
      (passed = true ↔ ∀ page < pageIndices.len, PageInRange maxNumPages pageIndices page) := by
  have pass : ∀ page, 0 ≤ page → page < pageIndices.len → ∃ b,
      pageInRange maxNumPages pageIndices page = .ok b ∧
      (b = true ↔ PageInRange maxNumPages pageIndices page) := by
    intro page _ hp
    refine ⟨_, by rw [pageInRange, Slice.read_ok hp, ok_bind]; rfl, ?_⟩
    rw [pageInRange_iff]
    simp
  obtain ⟨passed, run, iff⟩ := allRangeM_ok pass
  exact ⟨passed, run, iff.trans ⟨fun h page => h page (Nat.zero_le _), fun h page _ => h page⟩⟩

theorem slotDiffers_iff {a b : Nat × Nat} : (!(a.1 == b.1 && a.2 == b.2)) = true ↔ a ≠ b := by
  simp [Prod.ext_iff, imp_iff_not_or]

/-- The duplicate scan does not fault. It gets through when every other request has a slot, and not
the given one. -/
theorem duplicateScan_ok (maxNumPages : Nat)
    (lengths : PageTableLengths batchSize pageIndptr pageIndices lastPageLen) (request : Nat) (slot : Nat × Nat) :
    ∃ passed, allRangeM 0 batchSize (otherSlotDiffers request batchSize maxNumPages pageIndptr
        pageIndices lastPageLen slot.1 slot.2) = .ok passed ∧
      (passed = true ↔ ∀ other < batchSize, other ≠ request → ∃ position otherSlot,
        appendSlot other batchSize maxNumPages pageIndptr pageIndices lastPageLen =
          .ok (some (position, otherSlot)) ∧ slot ≠ otherSlot) := by
  have pass : ∀ other, 0 ≤ other → other < batchSize → ∃ b, otherSlotDiffers request batchSize
      maxNumPages pageIndptr pageIndices lastPageLen slot.1 slot.2 other = .ok b ∧
      (b = true ↔ (other ≠ request → ∃ position otherSlot,
        appendSlot other batchSize maxNumPages pageIndptr pageIndices lastPageLen =
          .ok (some (position, otherSlot)) ∧ slot ≠ otherSlot)) := by
    intro other _ ho
    unfold otherSlotDiffers
    by_cases own : other = request
    · exact ⟨true, if_neg (not_not.mpr own), iff_of_true rfl fun h => absurd own h⟩
    · rw [if_pos own]
      obtain ⟨otherSlot, run, -⟩ := appendSlot_ok maxNumPages lengths ho
      rw [run]
      cases otherSlot with
      | none => exact ⟨false, rfl, by simp [own]⟩
      | some found =>
        obtain ⟨position, page, offset⟩ := found
        refine ⟨_, rfl, (slotDiffers_iff (a := slot) (b := (page, offset))).trans
          ⟨fun h _ => ⟨position, _, rfl, h⟩, fun h => ?_⟩⟩
        obtain ⟨_, _, found, differs⟩ := h own
        cases found
        exact differs
  obtain ⟨passed, run, iff⟩ := allRangeM_ok pass
  exact ⟨passed, run, iff.trans ⟨fun h other => h other (Nat.zero_le _), fun h other _ => h other⟩⟩

/-- No other request ends in the final slot of `request`. -/
def FinalSlotUnique (batchSize : Nat) (pageIndptr pageIndices lastPageLen : Slice Int32)
    (request : Nat) : Prop :=
  ∀ other < batchSize, other ≠ request →
    pagedFinalSlot pageIndptr pageIndices lastPageLen request ≠
      pagedFinalSlot pageIndptr pageIndices lastPageLen other

/-- A block of the single-token kernel gets to its writes exactly when the table is well formed and
its request shares its final slot with no other. A duplicate between two other requests does not
stop it. -/
theorem appendGuard_ok (maxNumPages : Nat) {queryHeads keyHeads state pair : Nat}
    (lengths : PageTableLengths batchSize pageIndptr pageIndices lastPageLen)
    (hs : state < batchSize * (queryHeads + keyHeads)) (hp : pair < rotaryPairs) :
    ∃ found, appendGuard batchSize maxNumPages queryHeads keyHeads pageIndptr pageIndices lastPageLen
        state pair = .ok found ∧
      ∀ slot, found = some slot ↔
        PageTableWellFormed batchSize maxNumPages pageIndptr pageIndices lastPageLen ∧
        FinalSlotUnique batchSize pageIndptr pageIndices lastPageLen
          (state / (queryHeads + keyHeads)) ∧
        slot = (pagedKvLen pageIndptr lastPageLen (state / (queryHeads + keyHeads)) - 1,
          pagedFinalSlot pageIndptr pageIndices lastPageLen (state / (queryHeads + keyHeads))) := by
  have batch_pos : 0 < batchSize := Nat.pos_of_ne_zero fun h => by simp [h] at hs
  have hr : state / (queryHeads + keyHeads) < batchSize := Nat.div_lt_of_lt_mul (by
    rwa [Nat.mul_comm])
  have h1 := lengths.indptr
  have wf := wellFormed_iff maxNumPages lengths batch_pos
  rw [appendGuard, if_neg (by omega), Slice.read_ok (by omega), ok_bind, Slice.read_ok (by omega),
    ok_bind]
  have stops : ∀ {P : Nat × Nat × Nat → Prop},
      ¬ PageTableWellFormed batchSize maxNumPages pageIndptr pageIndices lastPageLen →
      ∀ slot, (none : Option (Nat × Nat × Nat)) = some slot ↔
        PageTableWellFormed batchSize maxNumPages pageIndptr pageIndices lastPageLen ∧ P slot :=
    fun h _ => iff_of_false (by simp) fun h' => h h'.1
  split
  · rename_i ends
    exact ⟨none, rfl, stops fun table => by have := (wf.mp table).1; omega⟩
  rename_i ends
  obtain ⟨pagesValid, run, pages⟩ := pagesScan_ok maxNumPages pageIndices
  rw [run, ok_bind]
  cases pagesValid with
  | false => exact ⟨none, rfl, stops fun table => by simpa using pages.mpr (wf.mp table).2.2⟩
  | true =>
    obtain ⟨own, run, ownRange⟩ := appendSlot_ok maxNumPages lengths hr
    simp only [Bool.not_true, Bool.false_eq_true, if_false]
    cases own with
    | none =>
      refine ⟨none, by rw [run]; rfl, stops fun table => ?_⟩
      rw [appendSlot_eq table hr] at run
      cases run
    | some own =>
      obtain ⟨position, page, offset⟩ := own
      rw [run, ok_bind]
      obtain ⟨distinct, scan, others⟩ := duplicateScan_ok maxNumPages lengths
        (state / (queryHeads + keyHeads)) (page, offset)
      dsimp only at scan ⊢
      rw [scan, ok_bind]
      by_cases table : PageTableWellFormed batchSize maxNumPages pageIndptr pageIndices lastPageLen
      · rw [appendSlot_eq table hr] at run
        obtain ⟨rfl, slot_eq⟩ : _ = position ∧ _ = (page, offset) := by simpa using run
        rw [← slot_eq] at others ⊢
        have scanned : distinct = true ↔ FinalSlotUnique batchSize pageIndptr pageIndices lastPageLen
            (state / (queryHeads + keyHeads)) := by
          refine others.trans (forall_congr' fun other => forall_congr' fun ho => forall_congr'
            fun _ => ?_)
          rw [appendSlot_eq table ho]
          refine ⟨fun ⟨_, otherSlot, found, differs⟩ => ?_, fun h => ⟨_, _, rfl, h⟩⟩
          cases found
          exact differs
        cases distinct with
        | false => exact ⟨none, rfl, fun _ => iff_of_false (by simp) fun h => by
            simpa using scanned.mpr h.2.1⟩
        | true =>
          exact ⟨_, rfl, fun _ => ⟨fun h => ⟨table, scanned.mp rfl, (Option.some.inj h).symm⟩,
            fun h => by rw [h.2.2]⟩⟩
      · cases distinct with
        | false => exact ⟨none, rfl, stops table⟩
        | true =>
          -- every request has a slot, so the table is well formed
          refine absurd (wf.mpr ⟨by omega, fun request hq => ?_, pages.mp rfl⟩) table
          by_cases mine : request = state / (queryHeads + keyHeads)
          · exact mine ▸ ownRange (by simp)
          · obtain ⟨position, otherSlot, found, -⟩ := others.mp rfl request hq mine
            obtain ⟨slot, found', range⟩ := appendSlot_ok maxNumPages lengths hq
            rw [found] at found'
            exact range (by cases found'; simp)

/-! ## The multi-token guard -/

/-- The vote of a block over results that do not fault: some thread has found something wrong. -/
theorem blockVote_ok {found : Nat → DeviceM Bool} {P : Nat → Prop}
    (each : ∀ pair < ropeBlockThreads, ∃ b, found pair = .ok b ∧ (b = true ↔ P pair)) :
    ∃ results, collectRange ropeBlockThreads found = .ok results ∧
      (blockHasInvalid (fun pair => results[pair]!) = true ↔
        ∃ pair < ropeBlockThreads, P pair) := by
  obtain ⟨results, run⟩ := collectRange_total fun pair hp => (each pair hp).imp fun _ h => h.1
  obtain ⟨len, entries⟩ := collectRange_eq_ok.mp run
  refine ⟨results, run, warpAny_two.trans (exists_congr fun pair => and_congr_right fun hp => ?_)⟩
  obtain ⟨b, hb, iff⟩ := each pair hp
  have entry := entries pair (len ▸ hp)
  rw [hb, Except.ok.injEq] at entry
  rw [getElem!_pos results pair (len ▸ hp), ← entry, iff]

theorem requestInvalid_eq (lengths : PageTableLengths batchSize pageIndptr pageIndices lastPageLen)
    {request : Nat} (hr : request < batchSize) :
    requestInvalid pageIndptr pageIndices lastPageLen request =
      .ok (!decide (RequestInRange pageIndptr pageIndices lastPageLen request)) := by
  have h1 := lengths.indptr
  have h2 := lengths.tail
  rw [requestInvalid, Slice.read_ok (by omega), ok_bind, Slice.read_ok (by omega), ok_bind,
    Slice.read_ok (by omega), ok_bind]
  refine congrArg Except.ok (Bool.eq_iff_iff.mpr ?_)
  rw [Bool.not_eq_true', decide_eq_false_iff_not, requestInRange_iff, not_not]
  simp only [Bool.or_eq_true, Bool.not_eq_true', Bool.and_eq_false_iff, decide_eq_true_eq,
    decide_eq_false_iff_not]
  omega

theorem pageInvalid_eq {page : Nat} (hp : page < pageIndices.len) :
    pageInvalid maxNumPages pageIndices page =
      .ok (!decide (PageInRange maxNumPages pageIndices page)) := by
  rw [pageInvalid, Slice.read_ok hp, ok_bind]
  refine congrArg Except.ok (Bool.eq_iff_iff.mpr ?_)
  rw [Bool.not_eq_true', decide_eq_false_iff_not, pageInRange_iff, not_not]
  simp

/-- A thread's share of the page table does not fault. -/
theorem pageTablePartitionInvalid_ok (maxNumPages : Nat)
    (lengths : PageTableLengths batchSize pageIndptr pageIndices lastPageLen) (pair : Nat) :
    ∃ invalid, pageTablePartitionInvalid pair batchSize maxNumPages pageIndptr pageIndices
        lastPageLen = .ok invalid ∧
      (invalid = true ↔
        (pair = 0 ∧ ¬ (pageIndptr.int 0 = 0 ∧ 0 ≤ pageIndptr.int batchSize ∧
          asUsize (pageIndptr.int batchSize) = pageIndices.len)) ∨
        (∃ request ∈ strided pair ropeBlockThreads batchSize,
          ¬ RequestInRange pageIndptr pageIndices lastPageLen request) ∨
        ∃ page ∈ strided pair ropeBlockThreads pageIndices.len,
          ¬ PageInRange maxNumPages pageIndices page) := by
  have h1 := lengths.indptr
  have threads : 0 < ropeBlockThreads := by decide
  have requests : ∀ ends, (strided pair ropeBlockThreads batchSize).foldlM
      (fun invalid request => do
        return invalid || (← requestInvalid pageIndptr pageIndices lastPageLen request)) ends = _ :=
    fun ends => foldlM_or_ok _ ends fun request hr invalid => by
      rw [requestInvalid_eq lengths (lt_of_mem_strided threads hr)]
      rfl
  have pages : ∀ ranges, (strided pair ropeBlockThreads pageIndices.len).foldlM
      (fun invalid page => do
        return invalid || (← pageInvalid maxNumPages pageIndices page)) ranges = _ :=
    fun ranges => foldlM_or_ok _ ranges fun page hp invalid => by
      rw [pageInvalid_eq (lt_of_mem_strided threads hp)]
      rfl
  unfold pageTablePartitionInvalid
  by_cases first : pair = 0
  · rw [if_pos first, Slice.read_ok (by omega), Slice.read_ok (by omega)]
    simp only [ok_bind, pure_bind, requests, pages]
    refine ⟨_, rfl, ?_⟩
    rw [Bool.or_eq_true, Bool.or_eq_true, or_assoc]
    refine or_congr ?_ (by simp)
    simp [first, imp_iff_not_or, or_assoc]
  · rw [if_neg first]
    simp only [ok_bind, pure_bind, requests, pages]
    refine ⟨_, rfl, ?_⟩
    simp [first]

/-- The vote on the page table: it is not well formed. -/
theorem tableVote_ok (maxNumPages : Nat)
    (lengths : PageTableLengths batchSize pageIndptr pageIndices lastPageLen)
    (batch_pos : 0 < batchSize) :
    ∃ results, collectRange ropeBlockThreads (fun pair => pageTablePartitionInvalid pair batchSize
        maxNumPages pageIndptr pageIndices lastPageLen) = .ok results ∧
      (blockHasInvalid (fun pair => results[pair]!) = true ↔
        ¬ PageTableWellFormed batchSize maxNumPages pageIndptr pageIndices lastPageLen) := by
  obtain ⟨results, run, vote⟩ := blockVote_ok fun pair _ =>
    pageTablePartitionInvalid_ok maxNumPages lengths pair
  have wf := wellFormed_iff maxNumPages lengths batch_pos
  refine ⟨results, run, vote.trans ⟨?_, fun malformed => ?_⟩⟩
  · rintro ⟨pair, -, ⟨-, ends⟩ | ⟨request, hr, bad⟩ | ⟨page, hp, bad⟩⟩ table
    · exact ends ⟨table.start, table.indptr.int_nonneg le_rfl, (wf.mp table).1.2⟩
    · exact bad (table.requestInRange (lt_of_mem_strided (by decide) hr))
    · exact bad (table.page page (lt_of_mem_strided (by decide) hp))
  · -- whatever is malformed is in the share of some thread
    by_contra none
    refine malformed (wf.mpr ⟨?_, fun request hr => ?_, fun page hp => ?_⟩)
    · by_contra ends
      exact none ⟨0, by decide, Or.inl ⟨rfl, fun h => ends ⟨h.1, h.2.2⟩⟩⟩
    · by_contra bad
      obtain ⟨pair, hpair, mine⟩ := exists_mem_strided (show 0 < ropeBlockThreads by decide) hr
      exact none ⟨pair, hpair, Or.inr (Or.inl ⟨request, mine, bad⟩)⟩
    · by_contra bad
      obtain ⟨pair, hpair, mine⟩ := exists_mem_strided (show 0 < ropeBlockThreads by decide) hp
      exact none ⟨pair, hpair, Or.inr (Or.inr ⟨page, mine, bad⟩)⟩

variable {tokens : Nat} {batchIndices positions : Slice Int32}

/-- Over a well-formed table, a token has a slot exactly when it is in range. -/
theorem explicitAppendSlot_ok
    (table : PageTableWellFormed batchSize maxNumPages pageIndptr pageIndices lastPageLen)
    (batch_len : batchIndices.len = tokens) (positions_len : positions.len = tokens) {token : Nat}
    (ht : token < tokens) :
    ∃ found, explicitAppendSlot token batchSize batchIndices positions pageIndptr pageIndices
        lastPageLen = .ok found ∧
      ∀ slot, found = some slot ↔
        AppendTokenInRange batchSize batchIndices positions pageIndptr lastPageLen token ∧
        slot = (appendRequest batchIndices token, appendPosition positions token,
          appendSlotOf batchIndices positions pageIndptr pageIndices token) := by
  rw [explicitAppendSlot, Slice.read_ok (by omega), ok_bind, Slice.read_ok (by omega), ok_bind]
  have castRequest := fun h => asUsize_of_nonneg (x := batchIndices.int token) h
    (batchIndices.int_lt token)
  have castPosition := fun h => asUsize_of_nonneg (x := positions.int token) h
    (positions.int_lt token)
  split
  · rename_i outside
    refine ⟨none, rfl, fun slot => iff_of_false (by simp) fun h => ?_⟩
    have h1 := h.1.request_nonneg
    have h2 := h.1.request_lt
    have h3 := h.1.position_nonneg
    have := castRequest h1
    unfold appendRequest at h2
    omega
  · rename_i inside
    have hrequest : asUsize (batchIndices.int token) = appendRequest batchIndices token := by
      have := castRequest (by omega)
      unfold appendRequest
      omega
    have hposition : asUsize (positions.int token) = appendPosition positions token := by
      have := castPosition (by omega)
      unfold appendPosition
      omega
    have hr : appendRequest batchIndices token < batchSize := by omega
    have h1 := table.indptr_len
    have h2 := table.tail_len
    have lt := table.indptr.start_lt hr
    rw [hrequest, hposition]
    dsimp only
    rw [Slice.read_ok (by omega), ok_bind, Slice.read_ok (by omega), ok_bind,
      table.indptr.asUsize_eq_start hr.le, table.indptr.asUsize_eq_start hr, subUsize_ok lt.le, ok_bind,
      subUsize_ok (by omega), ok_bind, Slice.read_ok (by omega), ok_bind, table.asUsize_tail hr,
      ← pagedKvLen]
    by_cases before : appendPosition positions token <
        pagedKvLen pageIndptr lastPageLen (appendRequest batchIndices token)
    · have entry := table.entry_lt_len hr before
      have range : AppendTokenInRange batchSize batchIndices positions pageIndptr lastPageLen token :=
        ⟨by omega, hr, by omega, before⟩
      refine ⟨some (appendRequest batchIndices token, appendPosition positions token,
        appendSlotOf batchIndices positions pageIndptr pageIndices token), ?_, fun slot => ?_⟩
      · rw [if_neg (Nat.not_le.mpr before), Slice.read_ok entry, ok_bind, table.asUsize_page entry]
        rfl
      · rw [Option.some.injEq, eq_comm]
        exact ⟨fun h => ⟨range, h⟩, fun h => h.2⟩
    · refine ⟨none, if_pos (Nat.not_lt.mp before), fun slot => iff_of_false (by simp) fun h => ?_⟩
      exact before h.1.position_lt

/-- What is in order about one token: it and the tokens after it are in range, and none of them
shares its slot. -/
def TokenInOrder (tokens batchSize : Nat)
    (batchIndices positions pageIndptr pageIndices lastPageLen : Slice Int32) (token : Nat) : Prop :=
  AppendTokenInRange batchSize batchIndices positions pageIndptr lastPageLen token ∧
    ∀ second, token + 1 ≤ second → second < tokens →
      AppendTokenInRange batchSize batchIndices positions pageIndptr lastPageLen second ∧
      appendSlotOf batchIndices positions pageIndptr pageIndices token ≠
        appendSlotOf batchIndices positions pageIndptr pageIndices second

/-- A thread's share of the token mapping does not fault over a well-formed table. -/
theorem tokenMappingInvalid_ok
    (table : PageTableWellFormed batchSize maxNumPages pageIndptr pageIndices lastPageLen)
    (batch_len : batchIndices.len = tokens) (positions_len : positions.len = tokens) (pair : Nat) :
    ∃ invalid, tokenMappingInvalid pair tokens batchSize batchIndices positions pageIndptr pageIndices
        lastPageLen = .ok invalid ∧
      (invalid = true ↔ pair < tokens ∧
        ¬ TokenInOrder tokens batchSize batchIndices positions pageIndptr pageIndices lastPageLen
          pair) := by
  unfold tokenMappingInvalid
  by_cases own : pair < tokens
  · rw [if_pos own]
    obtain ⟨first, run, firstSlot⟩ := explicitAppendSlot_ok table batch_len positions_len own
    rw [run, ok_bind]
    cases first with
    | none =>
      refine ⟨true, rfl, iff_of_true rfl ⟨own, fun h => ?_⟩⟩
      simpa using (firstSlot _).mpr ⟨h.1, rfl⟩
    | some first =>
      obtain ⟨range, rfl⟩ := (firstSlot first).mp rfl
      have pass : ∀ second, pair + 1 ≤ second → second < tokens → ∃ b, secondSlotDiffers batchSize
          batchIndices positions pageIndptr pageIndices lastPageLen
          (appendSlotOf batchIndices positions pageIndptr pageIndices pair).1
          (appendSlotOf batchIndices positions pageIndptr pageIndices pair).2 second = .ok b ∧
          (b = true ↔
            AppendTokenInRange batchSize batchIndices positions pageIndptr lastPageLen second ∧
            appendSlotOf batchIndices positions pageIndptr pageIndices pair ≠
              appendSlotOf batchIndices positions pageIndptr pageIndices second) := by
        intro second _ hs
        obtain ⟨found, run, secondSlot⟩ := explicitAppendSlot_ok table batch_len positions_len hs
        rw [secondSlotDiffers, run, ok_bind]
        cases found with
        | none =>
          refine ⟨false, rfl, iff_of_false (by simp) fun h => ?_⟩
          simpa using (secondSlot _).mpr ⟨h.1, rfl⟩
        | some found =>
          obtain ⟨range, rfl⟩ := (secondSlot found).mp rfl
          exact ⟨_, rfl, (slotDiffers_iff
            (a := appendSlotOf batchIndices positions pageIndptr pageIndices pair)
            (b := appendSlotOf batchIndices positions pageIndptr pageIndices second)).trans
            ⟨fun h => ⟨range, h⟩, fun h => h.2⟩⟩
      obtain ⟨passed, scan, iff⟩ := allRangeM_ok pass
      refine ⟨!passed, by dsimp only; rw [scan]; rfl, ?_⟩
      rw [Bool.not_eq_true', ← Bool.not_eq_true, iff]
      simp [own, TokenInOrder, range]
  · exact ⟨false, if_neg own, iff_of_false (by simp) fun h => own h.1⟩

/-- The vote on the token mapping: over a well-formed table, some token is out of range or two
tokens share a slot. -/
theorem mappingVote_ok
    (table : PageTableWellFormed batchSize maxNumPages pageIndptr pageIndices lastPageLen)
    (batch_len : batchIndices.len = tokens) (positions_len : positions.len = tokens)
    (tokens_le : tokens ≤ ropePagedKvAppendMaxTokens) :
    ∃ results, collectRange ropeBlockThreads (fun pair => tokenMappingInvalid pair tokens batchSize
        batchIndices positions pageIndptr pageIndices lastPageLen) = .ok results ∧
      (blockHasInvalid (fun pair => results[pair]!) = false ↔ ∀ token < tokens,
        TokenInOrder tokens batchSize batchIndices positions pageIndptr pageIndices lastPageLen
          token) := by
  obtain ⟨results, run, vote⟩ := blockVote_ok fun pair _ =>
    tokenMappingInvalid_ok table batch_len positions_len pair
  refine ⟨results, run, ?_⟩
  rw [← Bool.not_eq_true, vote]
  -- one thread for every token: a block has 64 threads and there are at most 64 tokens
  constructor
  · intro none token ht
    by_contra h
    exact none ⟨token, ht.trans_le tokens_le, ht, h⟩
  · rintro order ⟨pair, -, hp, bad⟩
    exact bad (order pair hp)

/-- A block of the multi-token kernel gets to its writes exactly on valid metadata, whatever its
token, head and thread. -/
theorem tokensGuard_ok (spec : Bf16RopePagedKvAppendTokensSpec)
    (lengths : PageTableLengths spec.batchSize pageIndptr pageIndices lastPageLen)
    (batch_len : batchIndices.len = spec.tokens) (positions_len : positions.len = spec.tokens)
    {state pair : Nat} (hs : state < spec.tokens * (spec.numQueryHeads + spec.numKvHeads))
    (hp : pair < rotaryPairs) :
    ∃ found, tokensGuard spec.tokens spec.batchSize spec.maxNumPages spec.numQueryHeads
        spec.numKvHeads batchIndices positions pageIndptr pageIndices lastPageLen state pair =
        .ok found ∧
      ∀ slot, found = some slot ↔
        AppendTokensValid spec batchIndices positions pageIndptr pageIndices lastPageLen ∧
        slot = (appendRequest batchIndices (state / (spec.numQueryHeads + spec.numKvHeads)),
          appendPosition positions (state / (spec.numQueryHeads + spec.numKvHeads)),
          appendSlotOf batchIndices positions pageIndptr pageIndices
            (state / (spec.numQueryHeads + spec.numKvHeads))) := by
  have tokens_le := spec.tokens_le
  have ht : state / (spec.numQueryHeads + spec.numKvHeads) < spec.tokens :=
    Nat.div_lt_of_lt_mul (by rwa [Nat.mul_comm])
  rw [tokensGuard, if_neg (by omega)]
  obtain ⟨tableInvalid, run, malformed⟩ := tableVote_ok spec.maxNumPages lengths
    spec.paged.batch_pos
  rw [run, ok_bind]
  split
  · rename_i vote
    exact ⟨none, rfl, fun _ => iff_of_false (by simp) fun h => malformed.mp vote h.1.table⟩
  rename_i vote
  have table := not_not.mp (malformed.not.mp vote)
  obtain ⟨mappingInvalid, run, order⟩ := mappingVote_ok table batch_len positions_len tokens_le
  rw [run, ok_bind]
  split
  · rename_i vote
    refine ⟨none, rfl, fun _ => iff_of_false (by simp) fun h => ?_⟩
    rw [order.mpr fun token ht => ⟨h.1.token token ht, fun second hlt hs =>
      ⟨h.1.token second hs, h.1.distinct token second hlt hs⟩⟩] at vote
    cases vote
  · rename_i vote
    have order := order.mp (Bool.not_eq_true _ ▸ vote)
    have valid : AppendTokensValid spec batchIndices positions pageIndptr pageIndices lastPageLen :=
      ⟨batch_len, positions_len, table, fun token ht => (order token ht).1,
        fun first second hlt hs => ((order first (hlt.trans hs)).2 second hlt hs).2⟩
    obtain ⟨found, run, slots⟩ := explicitAppendSlot_ok table batch_len positions_len ht
    exact ⟨found, run, fun slot => (slots slot).trans
      ⟨fun h => ⟨valid, h.2⟩, fun h => ⟨valid.token _ ht, h.2⟩⟩⟩

/-- The guard of the multi-token kernel and the host validator decide alike: no thread of the grid
faults, and all of them take one decision, to write exactly when `validate_metadata` returns `Ok`. -/
theorem tokensGuard_iff (spec : Bf16RopePagedKvAppendTokensSpec)
    (batchIndices positions pageIndptr pageIndices lastPageLen : Slice Int32)
    (lengths : PageTableLengths spec.batchSize pageIndptr pageIndices lastPageLen)
    (batch_len : batchIndices.len = spec.tokens) (positions_len : positions.len = spec.tokens) :
    ∃ writes : Bool,
      (writes = true ↔ ∃ metadata, spec.validateMetadata batchIndices positions pageIndptr pageIndices
        lastPageLen = .ok metadata) ∧
      ∀ state < spec.tokens * (spec.numQueryHeads + spec.numKvHeads), ∀ pair < ropeBlockThreads,
        ∃ found, tokensGuard spec.tokens spec.batchSize spec.maxNumPages spec.numQueryHeads
          spec.numKvHeads batchIndices positions pageIndptr pageIndices lastPageLen state pair =
          .ok found ∧ found.isSome = writes := by
  classical
  refine ⟨decide (AppendTokensValid spec batchIndices positions pageIndptr pageIndices lastPageLen),
    ?_, fun state hs pair hp => ?_⟩
  · rw [decide_eq_true_eq]
    exact ⟨fun valid => ⟨_, spec.validateMetadata_eq_ok.mpr ⟨valid, rfl⟩⟩,
      fun ⟨_, h⟩ => (spec.validateMetadata_eq_ok.mp h).1⟩
  · obtain ⟨found, run, slots⟩ := tokensGuard_ok spec lengths batch_len positions_len hs hp
    refine ⟨found, run, Bool.eq_iff_iff.mpr ?_⟩
    rw [Option.isSome_iff_exists, decide_eq_true_eq]
    exact ⟨fun ⟨slot, h⟩ => ((slots slot).mp h).1, fun valid => ⟨_, (slots _).mpr ⟨valid, rfl⟩⟩⟩

end Guards

/-- Two requests share a page. Tokens for slots 0 and 1 of it are written by all threads, and two
tokens for slot 0 by none. -/
theorem tokensGuard_iff_sharedPage :
    (∀ state < 2 * (1 + 1), ∀ pair < ropeBlockThreads,
      ∃ found, tokensGuard 2 2 1 1 1 (Slice.ofList [0, 1]) (Slice.ofList [0, 1])
        (Slice.ofList [0, 1, 2]) (Slice.ofList [0, 0]) (Slice.ofList [1, 2]) state pair =
          .ok found ∧ found.isSome = true) ∧
    ∀ state < 2 * (1 + 1), ∀ pair < ropeBlockThreads,
      ∃ found, tokensGuard 2 2 1 1 1 (Slice.ofList [0, 1]) (Slice.ofList [0, 0])
        (Slice.ofList [0, 1, 2]) (Slice.ofList [0, 0]) (Slice.ofList [1, 2]) state pair =
          .ok found ∧ found.isSome = false := by
  have guard := fun positions (len : positions.len = 2) => tokensGuard_iff sharedPageTokensSpec
    (Slice.ofList [0, 1]) positions (Slice.ofList [0, 1, 2]) (Slice.ofList [0, 0])
    (Slice.ofList [1, 2]) ⟨rfl, by decide, rfl⟩ rfl len
  constructor
  · obtain ⟨writes, accepts, threads⟩ := guard (Slice.ofList [0, 1]) rfl
    obtain rfl : writes = true := accepts.mpr
      ⟨_, sharedPageTokensSpec.validateMetadata_eq_ok.mpr ⟨sharedPage_tokensValid, rfl⟩⟩
    exact threads
  · obtain ⟨writes, accepts, threads⟩ := guard (Slice.ofList [0, 0]) rfl
    obtain rfl : writes = false := by
      refine Bool.eq_false_iff.mpr fun yes => ?_
      obtain ⟨_, accepted⟩ := accepts.mp yes
      obtain ⟨valid, -⟩ := sharedPageTokensSpec.validateMetadata_eq_ok.mp accepted
      exact valid.distinct 0 1 Nat.one_pos Nat.one_lt_two rfl
    exact threads

end LoomKernels
