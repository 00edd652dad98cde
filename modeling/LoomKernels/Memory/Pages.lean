import LoomKernels.Device.PagedTokenParallel
import LoomKernels.Memory.Kernel

/-!
# Page tables in device memory

What the paged kernels do with a page table: they read the range of a request, check its pages, and
look up the page of a token. The table is three arrays of any contents. `PageRangeValid` is what the
guards check of the range of a request, `PageRequestValid` adds that all its pages exist.

In the token-parallel kernels a block checks the pages together. Each thread scans its share, each
warp votes, and lane zero of the warp sets a flag between two barriers; after the second one every
thread reads all flags. The range is read before the first barrier by code that does not depend on
the thread, so it is the same for the whole block. `votePages_safe` says what the threads conclude.
-/

namespace LoomKernels.Memory

/-! ## Kernel code -/

/-- The range of a request in the page table, and `metadata_valid`. -/
structure PageRange where
  pageStart : Int
  pageEnd : Int
  tailLen : Int
  valid : Bool

/-- `num_pages`, and from it `kv_len` -/
def PageRange.kvLen (range : PageRange) : Machine Empty Nat := do
  let numPages := asUsize (← subSigned 32 range.pageEnd range.pageStart)
  addWord 64 (← mulWord 64 (← subWord numPages 1) pagedBatchDecodePageSize) (asUsize range.tailLen)

/-- What the kernels ask of a physical page. -/
def pageExists (maxNumPages : Nat) (physicalPage : Int) : Bool :=
  0 ≤ physicalPage && asUsize physicalPage < maxNumPages

/-- `page_indices[page_start as usize + page_slot]` -/
def readSlot (pageIndices : Slice Int32) (pageStart : Int) (pageSlot : Nat) : KernelM Int := do
  readI32 .pageIndices pageIndices (← compute (addWord 64 (asUsize pageStart) pageSlot))

/-- The physical page of a token. -/
def readPage (pageIndices : Slice Int32) (pageStart : Int) (token : Nat) : KernelM Int := do
  readSlot pageIndices pageStart (← compute (divWord token pagedBatchDecodePageSize))

/-- `kv_pair_offset` of a token on a physical page. -/
def pagedKvPairOffset (numKvHeads kvHead lane : Nat) (physicalPage : Int) (token : Nat) :
    Machine Empty Nat := do
  let page ← mulWord 64 (asUsize physicalPage) pagedBatchDecodePageSize
  let slot ← addWord 64 page (← modWord token pagedBatchDecodePageSize)
  kvPairOffset numKvHeads kvHead lane slot

/-- A thread's share of the pages of a request. -/
def scanPages (threads maxNumPages : Nat) (pageIndices : Slice Int32) (pageStart pageEnd : Int)
    (thread : Nat) : KernelM Bool := do
  let numPages := asUsize (← compute (subSigned 32 pageEnd pageStart))
  (strided thread threads numPages).foldlM
    (fun localValid pageSlot => do
      let physicalPage ← readSlot pageIndices pageStart pageSlot
      let _next ← compute (addWord 64 pageSlot threads)
      return localValid && pageExists maxNumPages physicalPage)
    true

/-- The flags after the second barrier. -/
def pageFlags (warps : Nat) (metadataValid : Bool) (scan : Nat → KernelM Bool) :
    Machine Empty (List Bool) :=
  collectRange warps fun warp =>
    if metadataValid then do
      let votes ← collectRange warpThreads fun lane => (scan (warp * warpThreads + lane)).result
      return votes.all id
    else return metadataValid

/-- Lane zero of a warp writes its flag. -/
def writeFlag (thread : Nat) : KernelM Unit :=
  if thread % warpThreads = 0 then storeWord .pageValid (thread / warpThreads) else return ()

/-- Between the barriers: the scan, and the flag again. -/
def scanAndVote (metadataValid : Bool) (scan : Nat → KernelM Bool) (thread : Nat) : KernelM Unit :=
  if metadataValid then do
    let _localValid ← scan thread
    writeFlag thread
  else return ()

/-- From the first write of the flags to their reads: whether the thread goes on. -/
def votePages (warps maxNumPages : Nat) (pageIndices : Slice Int32) (range : PageRange)
    (thread : Nat) : KernelM Bool := do
  let scan :=
    scanPages (warps * warpThreads) maxNumPages pageIndices range.pageStart range.pageEnd
  writeFlag thread
  scanAndVote range.valid scan thread
  let flags ← compute (pageFlags warps range.valid scan)
  forEach 0 warps (loadWord .pageValid)
  return flags.all id

/-! ## Requests in range -/

section Valid

variable (batchSize maxNumPages : Nat) (pageIndptr pageIndices lastPageLen : Slice Int32)
  (request : Nat)

/-- The table starts at zero and ends at its total, and the range and the tail of the request are
good. -/
structure PageRangeValid : Prop where
  start : pageIndptr.int 0 = 0
  total : pageIndptr.int batchSize = pageIndices.len
  pageStart : 0 ≤ pageIndptr.int request
  pageEnd : pageIndptr.int request < pageIndptr.int (request + 1)
  inside : pageIndptr.int (request + 1) ≤ pageIndptr.int batchSize
  tail_pos : 1 ≤ lastPageLen.int request
  tail_le : lastPageLen.int request ≤ 16

/-- Every page of the request exists. -/
def PagesExist : Prop :=
  ∀ i, indptrStart pageIndptr request ≤ i → i < indptrStart pageIndptr (request + 1) →
    0 ≤ pageIndices.int i ∧ pageIndices.int i < maxNumPages

/-- What the guards of the paged kernels check of the page table for a request. -/
structure PageRequestValid : Prop extends
    PageRangeValid batchSize pageIndptr pageIndices lastPageLen request where
  pages : PagesExist maxNumPages pageIndptr pageIndices request

end Valid

/-- Every request of a table that the host validator accepts is valid. -/
theorem requestValid_of_table {batchSize maxNumPages request : Nat}
    {pageIndptr pageIndices lastPageLen : Slice Int32}
    (table : PageTableWellFormed batchSize maxNumPages pageIndptr pageIndices lastPageLen)
    (h : request < batchSize) :
    PageRequestValid batchSize maxNumPages pageIndptr pageIndices lastPageLen request where
  start := table.start
  total := table.total
  pageStart := table.indptr.int_nonneg h.le
  pageEnd := table.increasing request h
  inside := by
    rw [table.total]
    exact table.indptr.int_le_total h
  tail_pos := (table.tail request h).1
  tail_le := (table.tail request h).2
  pages i _ hi := table.page i (hi.trans_le (table.indptr.start_le_total h))

/-- The lengths of the arrays of a page table. -/
structure PageTableLens (len : KernelBuffer → Nat) (batchSize : Nat)
    (pageIndptr pageIndices lastPageLen : Slice Int32) : Prop where
  indptr : len .pageIndptr = pageIndptr.len
  indices : len .pageIndices = pageIndices.len
  tail : len .lastPageLen = lastPageLen.len
  indptr_len : pageIndptr.len = batchSize + 1
  tail_len : lastPageLen.len = batchSize
  batch_fits : batchSize + 1 < 2 ^ 64

/-! ## A request in range -/

section Range

variable {batchSize maxNumPages request : Nat} {pageIndptr pageIndices lastPageLen : Slice Int32}

theorem pageExists_iff {i : Nat} : pageExists maxNumPages (pageIndices.int i) = true ↔
    0 ≤ pageIndices.int i ∧ pageIndices.int i < maxNumPages := by
  have small := pageIndices.int_lt i
  rw [pageExists, Bool.and_eq_true, decide_eq_true_eq, decide_eq_true_eq]
  constructor
  · rintro ⟨nonneg, lt⟩
    have := asUsize_of_nonneg nonneg small
    omega
  · rintro ⟨nonneg, lt⟩
    have := asUsize_of_nonneg nonneg small
    omega

variable (valid : PageRangeValid batchSize pageIndptr pageIndices lastPageLen request)
include valid

theorem PageRangeValid.start_lt :
    indptrStart pageIndptr request < indptrStart pageIndptr (request + 1) := by
  have nonneg := valid.pageStart
  have increasing := valid.pageEnd
  unfold indptrStart
  omega

theorem PageRangeValid.end_le : indptrStart pageIndptr (request + 1) ≤ pageIndices.len := by
  have inside := valid.inside
  rw [valid.total] at inside
  unfold indptrStart
  omega

theorem PageRangeValid.subSigned_ok :
    subSigned 32 (pageIndptr.int (request + 1)) (pageIndptr.int request) =
      (.ok (pageIndptr.int (request + 1) - pageIndptr.int request) : Machine Empty Int) := by
  have nonneg := valid.pageStart
  have increasing := valid.pageEnd
  exact LoomKernels.subSigned_ok (by omega) nonneg (pageIndptr.int_lt _) (pageIndptr.int_lt _)

theorem PageRangeValid.kvLen_ok {checked : Bool} :
    (PageRange.mk (pageIndptr.int request) (pageIndptr.int (request + 1)) (lastPageLen.int request)
      checked).kvLen = .ok (pagedKvLen pageIndptr lastPageLen request) := by
  have nonneg := valid.pageStart
  have increasing := valid.pageEnd
  have lt := valid.start_lt
  have small := pageIndptr.int_lt (request + 1)
  have tailPos := valid.tail_pos
  have tailLe := valid.tail_le
  have tail : asUsize (lastPageLen.int request) = (lastPageLen.int request).toNat := by
    have := asUsize_of_nonneg (x := lastPageLen.int request) (by omega) (by omega)
    omega
  have pages : indptrLen pageIndptr request < 2 ^ 31 := by
    unfold indptrLen indptrStart
    omega
  unfold PageRange.kvLen pagedKvLen pagedBatchDecodePageSize
  dsimp only
  rw [valid.subSigned_ok, ok_bind, asUsize_int_sub nonneg increasing, tail]
  unfold indptrLen at pages ⊢
  rw [subWord_ok (by omega), ok_bind, mulWord_ok (by omega), ok_bind, addWord_ok (by omega)]

theorem PageRangeValid.kvLen_lt : pagedKvLen pageIndptr lastPageLen request < 2 ^ 59 := by
  have small := pageIndptr.int_lt (request + 1)
  have tailLe := valid.tail_le
  unfold pagedKvLen indptrStart pagedBatchDecodePageSize
  omega

/-- The page of a token is one of the request's. -/
theorem PageRangeValid.slot_lt {token : Nat}
    (h : token < pagedKvLen pageIndptr lastPageLen request) :
    indptrStart pageIndptr request + token / 16 < indptrStart pageIndptr (request + 1) := by
  have lt := valid.start_lt
  have tailPos := valid.tail_pos
  have tailLe := valid.tail_le
  unfold pagedKvLen pagedBatchDecodePageSize at h
  omega

variable {len : KernelBuffer → Nat} {own : Nat → Prop}
  (lens : PageTableLens len batchSize pageIndptr pageIndices lastPageLen)
include lens

theorem readSlot_safe {slot : Nat}
    (inside : indptrStart pageIndptr request + slot < pageIndices.len) :
    Safe (Contained len own) (readSlot pageIndices (pageIndptr.int request) slot)
      (· = pageIndices.int (indptrStart pageIndptr request + slot)) := by
  have total := valid.total
  have small := pageIndptr.int_lt batchSize
  unfold readSlot
  rw [asUsize_int valid.pageStart]
  refine (safe_compute (addWord_ok (by omega))).step ?_
  exact readI32_safe inside lens.indices rfl

theorem readPage_safe {token : Nat} (h : token < pagedKvLen pageIndptr lastPageLen request) :
    Safe (Contained len own) (readPage pageIndices (pageIndptr.int request) token)
      (· = pageIndices.int (indptrStart pageIndptr request + token / 16)) := by
  have inside := (valid.slot_lt h).trans_le valid.end_le
  exact (safe_compute (divWord_ok (by decide))).step (readSlot_safe valid lens inside)

theorem scanPages_safe {threads : Nat} (ht : 0 < threads) (fits : threads ≤ 512) (thread : Nat) :
    Safe (Contained len own)
      (scanPages threads maxNumPages pageIndices (pageIndptr.int request)
        (pageIndptr.int (request + 1)) thread)
      (· = (strided thread threads (indptrLen pageIndptr request)).all fun slot =>
        pageExists maxNumPages (pageIndices.int (indptrStart pageIndptr request + slot))) := by
  have small := pageIndptr.int_lt (request + 1)
  have lt := valid.start_lt
  have le := valid.end_le
  unfold scanPages
  refine (safe_compute valid.subSigned_ok).step ?_
  rw [asUsize_int_sub valid.pageStart valid.pageEnd]
  refine (safe_foldlM_and fun slot mem flag => ?_).mono fun r hr => hr.trans (Bool.true_and _)
  have inside := lt_of_mem_strided ht mem
  unfold indptrLen at inside
  have slots : slot < 2 ^ 31 := by
    unfold indptrStart at inside
    omega
  refine (readSlot_safe valid lens (by omega)).step ?_
  exact (safe_compute (addWord_ok (by omega))).step (safe_pure rfl)

end Range

/-! ## The vote -/

section Vote

variable {batchSize maxNumPages request warps thread : Nat}
  {pageIndptr pageIndices lastPageLen : Slice Int32} {len : KernelBuffer → Nat} {own : Nat → Prop}

theorem pageFlags_false (scan : Nat → KernelM Bool) :
    pageFlags warps false scan = .ok ((List.range warps).map fun _ => false) :=
  collectRange_ok fun _ _ => rfl

theorem pageFlags_true {scan : Nat → KernelM Bool} {vote : Nat → Bool}
    (h : ∀ thread, (scan thread).result = .ok (vote thread)) :
    pageFlags warps true scan = .ok ((List.range warps).map (warpAll vote)) := by
  refine collectRange_ok fun warp _ => ?_
  have votes := collectRange_ok (n := warpThreads) fun lane _ => h (warp * warpThreads + lane)
  rw [if_pos rfl, votes, ok_bind]
  refine congrArg Except.ok ?_
  rw [List.all_map]
  rfl

/-- The shares of the threads of a block are all the pages of a request. -/
theorem all_scanned (hw : 0 < warps) : ((List.range warps).all fun warp =>
      warpAll (fun thread => (strided thread (warps * warpThreads)
        (indptrLen pageIndptr request)).all fun slot =>
          pageExists maxNumPages (pageIndices.int (indptrStart pageIndptr request + slot))) warp) =
        true ↔ PagesExist maxNumPages pageIndptr pageIndices request := by
  have threads : 0 < warps * warpThreads := Nat.mul_pos hw (by decide)
  rw [warpAll_block]
  simp only [List.all_eq_true, pageExists_iff]
  constructor
  · intro scanned i lo hi
    have small : i - indptrStart pageIndptr request < indptrLen pageIndptr request := by
      unfold indptrLen
      omega
    obtain ⟨thread, ht, mem⟩ := exists_mem_strided threads small
    have := scanned thread ht _ mem
    rwa [Nat.add_sub_cancel' lo] at this
  · intro all thread _ slot mem
    have small := lt_of_mem_strided threads mem
    unfold indptrLen at small
    exact all _ (Nat.le_add_right _ _) (by omega)

variable (shared : len .pageValid = warps)
include shared

theorem writeFlag_safe (ht : thread < warps * 32) :
    Safe (Contained len own) (writeFlag thread) (· = ()) := by
  unfold writeFlag warpThreads
  split
  · refine storeWord_safe ?_ nofun
    rw [shared]
    change 4 * (thread / 32) + 4 ≤ warps * 4
    omega
  · exact safe_pure rfl

/-- A thread concludes that the metadata is valid and that every page of its request exists,
whichever thread of the block it is. -/
theorem votePages_safe (hw : 0 < warps) (le : warps ≤ 16) (ht : thread < warps * 32)
    {checked : Bool} {tailLen : Int}
    (checks : checked = true → PageRangeValid batchSize pageIndptr pageIndices lastPageLen request)
    (lens : PageTableLens len batchSize pageIndptr pageIndices lastPageLen) :
    Safe (Contained len own)
      (votePages warps maxNumPages pageIndices
        ⟨pageIndptr.int request, pageIndptr.int (request + 1), tailLen, checked⟩ thread)
      (fun goes => goes = true ↔
        checked = true ∧ PagesExist maxNumPages pageIndptr pageIndices request) := by
  have flag : Safe (Contained len own) (writeFlag thread) (· = ()) := writeFlag_safe shared ht
  have reads : Safe (Contained len own) (forEach 0 warps (loadWord .pageValid)) (· = ()) := by
    refine safe_forEach fun warp _ small => loadWord_safe ?_
    rw [shared]
    change 4 * warp + 4 ≤ warps * 4
    omega
  unfold votePages
  refine flag.step ?_
  cases checked with
  | false =>
    refine (safe_pure rfl).step ((safe_compute (pageFlags_false _)).step (reads.step (safe_pure ?_)))
    refine iff_of_false ?_ fun valid => Bool.noConfusion valid.1
    rw [List.all_map, List.all_eq_true]
    exact fun all => Bool.noConfusion (all 0 (List.mem_range.mpr hw))
  | true =>
    have threads : 0 < warps * warpThreads := Nat.mul_pos hw (by decide)
    have scan : ∀ thread, Safe (Contained len own) (scanPages (warps * warpThreads) maxNumPages
        pageIndices (pageIndptr.int request) (pageIndptr.int (request + 1)) thread) _ :=
      scanPages_safe (checks rfl) lens threads (Nat.mul_le_mul_right 32 le)
    refine ((scan thread).step flag).step ?_
    refine (safe_compute (pageFlags_true fun thread => (scan thread).result)).step ?_
    refine reads.step (safe_pure ?_)
    rw [List.all_map, and_iff_right rfl]
    exact all_scanned hw

end Vote

/-- The key and value pairs of a token are inside the page pool where its page exists. -/
theorem pagedKvPairOffset_ok {maxNumPages numKvHeads kvHead lane i : Nat} {pageIndices : Slice Int32}
    (page : 0 ≤ pageIndices.int i ∧ pageIndices.int i < maxNumPages) (token : Nat)
    (hk : kvHead < numKvHeads) (hl : lane < 32)
    (fits : maxNumPages * 16 * numKvHeads * 128 < 2 ^ 64) :
    ∃ row < maxNumPages * 16, pagedKvPairOffset numKvHeads kvHead lane (pageIndices.int i) token =
      .ok ((row * numKvHeads + kvHead) * 64 + lane) := by
  have cast := asUsize_of_nonneg page.1 (pageIndices.int_lt i)
  have exists_ : asUsize (pageIndices.int i) < maxNumPages := by omega
  have slot : asUsize (pageIndices.int i) * 16 + token % 16 < maxNumPages * 16 :=
    rowMajor_lt exists_ (Nat.mod_lt _ (by decide))
  have pool : maxNumPages * 16 ≤ maxNumPages * 16 * numKvHeads * 128 := by
    rw [Nat.mul_assoc]
    exact Nat.le_mul_of_pos_right _ (by omega)
  refine ⟨_, slot, ?_⟩
  unfold pagedKvPairOffset pagedBatchDecodePageSize
  rw [mulWord_ok (by omega), ok_bind, modWord_ok (by decide), ok_bind, addWord_ok (by omega),
    ok_bind, kvPairOffset_ok slot hk (by omega) fits]

end LoomKernels.Memory
