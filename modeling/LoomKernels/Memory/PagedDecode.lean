import LoomKernels.Host.Gather
import LoomKernels.Memory.Pages

/-!
# Accesses of paged decode

The direct kernel checks the page of a token when it gets there, and returns from the loop at a page
that does not exist, before it has written anything. The token-parallel kernel checks all pages of
its request first.

For page tables of any contents, no access of the two kernels leaves its buffer and no arithmetic
wraps; a block writes only its own row of results, and only when its request is valid
(`pagedBatchDecode_safe`, `pagedBatchDecodeTokenParallel_safe`). A block of the token-parallel kernel
passes the guard exactly when its request is valid (`pagedBatchDecodeTokenParallelGuard_safe`).
-/

namespace LoomKernels.Memory

/-! ## Kernel code -/

section Kernels

variable (batchSize maxNumPages numQueryHeads numKvHeads : Nat)
  (pageIndptr pageIndices lastPageLen : Slice Int32)

/-- The key/value head of a row of results. -/
def kvHeadOf (state : Nat) : Machine Empty Nat := do
  divWord (← modWord state numQueryHeads) (← divWord numQueryHeads numKvHeads)

/-- The range of a request, as both kernels read it. -/
def readPageRange (request : Nat) : KernelM PageRange := do
  let globalPageEnd ← readI32 .pageIndptr pageIndptr batchSize
  let pageStart ← readI32 .pageIndptr pageIndptr request
  let pageEnd ← readI32 .pageIndptr pageIndptr (← compute (addWord 64 request 1))
  let tailLen ← readI32 .lastPageLen lastPageLen request
  let first ← readI32 .pageIndptr pageIndptr 0
  return ⟨pageStart, pageEnd, tailLen, first = 0 ∧ globalPageEnd ≥ 0 ∧
    asUsize globalPageEnd = pageIndices.len ∧ pageStart ≥ 0 ∧ pageEnd > pageStart ∧
    pageEnd ≤ globalPageEnd ∧ tailLen ≥ 1 ∧ tailLen ≤ pagedBatchDecodePageSize⟩

/-- The loop of the direct kernel over the tokens of its request: whether it came to the end. -/
def directTokens (pageStart : Int) (kvHead kvLen lane : Nat) : KernelM Bool :=
  searchEach
    (fun token _ => do
      let physicalPage ← readPage pageIndices pageStart token
      if pageExists maxNumPages physicalPage then
        loadKeyValue (← compute (pagedKvPairOffset numKvHeads kvHead lane physicalPage token))
        return .inl ()
      else return .inr false)
    true kvLen 0 ()

/-- `paged_batch_decode_bf16_nhd` -/
def pagedBatchDecode (state lane : Nat) : KernelM Unit := do
  let stateCount ← compute (mulWord 64 batchSize numQueryHeads)
  if state ≥ stateCount ∨ lane ≥ warpThreads then return ()
  else
    let request ← compute (divWord state numQueryHeads)
    let range ← readPageRange batchSize pageIndptr pageIndices lastPageLen request
    if !range.valid then return ()
    else
      let kvLen ← compute range.kvLen
      let kvHead ← compute (kvHeadOf numQueryHeads numKvHeads state)
      let pairs ← compute (rowPairs state lane)
      pairs.forM (loadWord .query)
      if !(← directTokens maxNumPages numKvHeads pageIndices range.pageStart kvHead kvLen lane) then
        return ()
      else storeResult state lane pairs

/-- The guard of the token-parallel kernel: the first page entry and the number of tokens of the
block's request, or `none` where the thread returns. -/
def pagedBatchDecodeTokenParallelGuard (state thread : Nat) : KernelM (Option (Int × Nat)) := do
  let stateCount ← compute (mulWord 64 batchSize numQueryHeads)
  if state ≥ stateCount then return none
  else
    let request ← compute (divWord state numQueryHeads)
    let range ← readPageRange batchSize pageIndptr pageIndices lastPageLen request
    if !(← votePages pagedBatchDecodeWarpsPerBlock maxNumPages pageIndices range thread) then
      return none
    else return some (range.pageStart, ← compute range.kvLen)

/-- Where the tokens of a warp start. -/
def tokenCut (warps tokens warp : Nat) : Machine Empty Nat := do
  divWord (← mulWord 64 warp tokens) warps

/-- The pairs of a token, looked up in the page table. -/
def pagedKvPair (pageStart : Int) (kvHead lane token : Nat) : KernelM Nat := do
  let physicalPage ← readPage pageIndices pageStart token
  compute (pagedKvPairOffset numKvHeads kvHead lane physicalPage token)

/-- `paged_batch_decode_bf16_nhd_token_parallel` -/
def pagedBatchDecodeTokenParallel (state thread : Nat) : KernelM Unit := do
  match ← pagedBatchDecodeTokenParallelGuard batchSize maxNumPages numQueryHeads pageIndptr
    pageIndices lastPageLen state thread with
  | none => return ()
  | some (pageStart, kvLen) =>
    let kvHead ← compute (kvHeadOf numQueryHeads numKvHeads state)
    tokenParallelRow pagedBatchDecodeWarpsPerBlock state thread
      (tokenCut pagedBatchDecodeWarpsPerBlock kvLen)
      (pagedKvPair numKvHeads pageIndices pageStart kvHead (thread % warpThreads))

end Kernels

/-! ## What the guards read -/

theorem kvHeadOf_ok {numQueryHeads numKvHeads : Nat} (hq : 0 < numQueryHeads) (hk : 0 < numKvHeads)
    (group : numQueryHeads % numKvHeads = 0) (state : Nat) :
    ∃ kvHead < numKvHeads, kvHeadOf numQueryHeads numKvHeads state = .ok kvHead := by
  have le : numKvHeads ≤ numQueryHeads := Nat.le_of_dvd hq (Nat.dvd_of_mod_eq_zero group)
  refine ⟨_, kvHead_lt group (Nat.mod_lt state hq), ?_⟩
  rw [kvHeadOf, modWord_ok hq, ok_bind, divWord_ok hk, ok_bind, divWord_ok (Nat.div_pos le hk)]

section Table

variable {batchSize maxNumPages numKvHeads request : Nat}
  {pageIndptr pageIndices lastPageLen : Slice Int32} {len : KernelBuffer → Nat} {own : Nat → Prop}
  (table : PageTableLens len batchSize pageIndptr pageIndices lastPageLen)
include table

theorem readPageRange_safe (h : request < batchSize) :
    Safe (Contained len own) (readPageRange batchSize pageIndptr pageIndices lastPageLen request)
      fun range => ∃ checked, range = ⟨pageIndptr.int request, pageIndptr.int (request + 1),
          lastPageLen.int request, checked⟩ ∧
        (checked = true ↔ PageRangeValid batchSize pageIndptr pageIndices lastPageLen request) := by
  have indptrLen := table.indptr_len
  have tailLen := table.tail_len
  have fits := table.batch_fits
  have entry : ∀ i ≤ batchSize,
      Safe (Contained len own) (readI32 .pageIndptr pageIndptr i) (· = pageIndptr.int i) :=
    fun i hi => readI32_safe (by omega) table.indptr rfl
  refine (entry batchSize le_rfl).step ((entry request h.le).step ?_)
  refine (safe_compute (addWord_ok (by omega))).step ((entry (request + 1) h).step ?_)
  refine (readI32_safe (by omega) table.tail rfl).step ((entry 0 (Nat.zero_le _)).step ?_)
  refine safe_pure ⟨_, rfl, ?_⟩
  have small := pageIndptr.int_lt batchSize
  rw [decide_eq_true_eq]
  constructor
  · rintro ⟨start, nonneg, total, pageStart, pageEnd, inside, tailPos, tailLe⟩
    have cast := asUsize_of_nonneg nonneg small
    exact ⟨start, by omega, pageStart, pageEnd, inside, tailPos, tailLe⟩
  · rintro ⟨start, total, pageStart, pageEnd, inside, tailPos, tailLe⟩
    have cast := asUsize_of_nonneg (x := pageIndptr.int batchSize) (by omega) small
    exact ⟨start, by omega, by omega, pageStart, pageEnd, inside, tailPos, tailLe⟩

variable {rows lane kvHead : Nat} (lens : AttentionLens len rows (maxNumPages * 16) numKvHeads)
  (valid : PageRangeValid batchSize pageIndptr pageIndices lastPageLen request)
  (hk : kvHead < numKvHeads) (hl : lane < 32)
include lens valid hk hl

/-- The loop of the direct kernel comes to the end only when every page of the request exists. -/
theorem directTokens_safe :
    Safe (Contained len own)
      (directTokens maxNumPages numKvHeads pageIndices (pageIndptr.int request) kvHead
        (pagedKvLen pageIndptr lastPageLen request) lane)
      fun finished => finished = true → PagesExist maxNumPages pageIndptr pageIndices request := by
  refine safe_searchEach (P := fun token _ => ∀ t < token,
    pageExists maxNumPages (pageIndices.int (indptrStart pageIndptr request + t / 16)) = true)
    (fun t ht => absurd ht (Nat.not_lt_zero t)) ?_ ?_
  · intro _ all _ i lo hi
    have tailPos := valid.tail_pos
    have last : (i - indptrStart pageIndptr request) * 16 <
        0 + pagedKvLen pageIndptr lastPageLen request := by
      unfold pagedKvLen pagedBatchDecodePageSize
      omega
    have found := pageExists_iff.mp (all _ last)
    rwa [Nat.mul_div_cancel _ (by decide), Nat.add_sub_cancel' lo] at found
  · intro token _ _ ht before
    rw [Nat.zero_add] at ht
    refine (readPage_safe valid table ht).step ?_
    split
    · rename_i found
      obtain ⟨row, hr, offset⟩ := pagedKvPairOffset_ok (pageExists_iff.mp found) token hk hl
        lens.kv_fits
      refine (safe_compute offset).step ((loadKeyValue_safe lens hr hk hl).step (safe_pure ?_))
      intro t small
      rcases Nat.lt_succ_iff_lt_or_eq.mp small with lt | rfl
      · exact before t lt
      · exact found
    · exact safe_pure nofun

/-- The look-up of a token of a valid request. -/
theorem pagedKvPair_safe (pages : PagesExist maxNumPages pageIndptr pageIndices request)
    {token : Nat} (ht : token < pagedKvLen pageIndptr lastPageLen request) :
    Safe (Contained len own)
      (pagedKvPair numKvHeads pageIndices (pageIndptr.int request) kvHead lane token)
      fun offset => ∃ row < maxNumPages * 16, offset = (row * numKvHeads + kvHead) * 64 + lane := by
  refine (readPage_safe valid table ht).step ?_
  have page := pages _ (Nat.le_add_right _ _) (valid.slot_lt ht)
  obtain ⟨row, hr, offset⟩ := pagedKvPairOffset_ok page token hk hl lens.kv_fits
  exact (safe_compute offset).mono fun _ eq => ⟨row, hr, eq⟩

end Table

theorem tokenCut_ok {warps tokens warp : Nat} (hw : 0 < warps) (le : warp ≤ warps) (small : warps ≤ 16)
    (fits : tokens < 2 ^ 59) : tokenCut warps tokens warp = .ok (floorCut tokens warps warp) := by
  have product : warp * tokens ≤ 16 * tokens := Nat.mul_le_mul_right _ (le.trans small)
  rw [tokenCut, mulWord_ok (by omega), ok_bind, divWord_ok hw, floorCut]

/-! ## Kernels -/

section Kernels

variable {spec : Bf16PagedBatchDecodeSpec} {pageIndptr pageIndices lastPageLen : Slice Int32}
  {len : KernelBuffer → Nat}

/-- The request of a row of results is one that the guards accept. -/
def DecodeRowValid (spec : Bf16PagedBatchDecodeSpec)
    (pageIndptr pageIndices lastPageLen : Slice Int32) (state : Nat) : Prop :=
  state < spec.lseNumel ∧ PageRequestValid spec.batchSize spec.maxNumPages pageIndptr pageIndices
    lastPageLen (state / spec.numQueryHeads)

/-- What a block of paged decode may write: its own row, where the request of the row is valid. -/
def DecodeOwn (spec : Bf16PagedBatchDecodeSpec) (pageIndptr pageIndices lastPageLen : Slice Int32)
    (state cell : Nat) : Prop :=
  cell = state ∧ DecodeRowValid spec pageIndptr pageIndices lastPageLen state

variable (lens : AttentionLens len spec.lseNumel (spec.maxNumPages * 16) spec.numKvHeads)
  (table : PageTableLens len spec.batchSize pageIndptr pageIndices lastPageLen)
include lens table

theorem pagedBatchDecodeTokenParallelGuard_safe {own : Nat → Prop} {state thread : Nat}
    (shared : len .pageValid = 8) (ht : thread < 256) :
    Safe (Contained len own)
      (pagedBatchDecodeTokenParallelGuard spec.batchSize spec.maxNumPages spec.numQueryHeads
        pageIndptr pageIndices lastPageLen state thread)
      fun r => (r.isSome = true ↔ DecodeRowValid spec pageIndptr pageIndices lastPageLen state) ∧
        ∀ row, r = some row → row = (pageIndptr.int (state / spec.numQueryHeads),
          pagedKvLen pageIndptr lastPageLen (state / spec.numQueryHeads)) := by
  refine (safe_compute lens.rows_ok).step ?_
  split
  · rename_i outside
    exact safe_pure ⟨iff_of_false nofun fun valid => Nat.not_le.mpr valid.1 outside, nofun⟩
  rename_i inside
  have hs : state < spec.lseNumel := Nat.lt_of_not_le inside
  have hr : state / spec.numQueryHeads < spec.batchSize := (lt_rows_iff spec.queryHeads_pos).mpr hs
  refine (safe_compute (divWord_ok spec.queryHeads_pos)).step ?_
  refine (readPageRange_safe table hr).bind ?_
  rintro _ ⟨checked, rfl, checks⟩
  refine (votePages_safe shared (by decide) (by decide) ht checks.mp table).bind fun goes vote => ?_
  split
  · rename_i stops
    refine safe_pure ⟨iff_of_false nofun fun valid => ?_, nofun⟩
    rw [vote.mpr ⟨checks.mpr valid.2.toPageRangeValid, valid.2.pages⟩] at stops
    cases stops
  · rename_i passed
    obtain ⟨rfl, pages⟩ := vote.mp (by simpa using passed)
    have range := checks.mp rfl
    refine (safe_compute range.kvLen_ok).step (safe_pure ⟨?_, ?_⟩)
    · exact iff_of_true rfl ⟨hs, { range with pages }⟩
    · rintro _ ⟨⟩
      rfl

variable (results : ResultLens len spec.lseNumel)
include results

theorem pagedBatchDecode_safe (state lane : Nat) :
    Safe (Contained len (DecodeOwn spec pageIndptr pageIndices lastPageLen state))
      (pagedBatchDecode spec.batchSize spec.maxNumPages spec.numQueryHeads spec.numKvHeads
        pageIndptr pageIndices lastPageLen state lane) fun _ => True := by
  refine (safe_compute lens.rows_ok).step ?_
  split
  · exact safe_pure trivial
  rename_i inside
  rw [not_or, not_le, not_le] at inside
  obtain ⟨hs, hl⟩ : state < spec.lseNumel ∧ lane < 32 := inside
  have hr : state / spec.numQueryHeads < spec.batchSize := (lt_rows_iff spec.queryHeads_pos).mpr hs
  refine (safe_compute (divWord_ok spec.queryHeads_pos)).step ?_
  refine (readPageRange_safe table hr).bind ?_
  rintro _ ⟨checked, rfl, checks⟩
  split
  · exact safe_pure trivial
  rename_i passed
  have range := checks.mp (by simpa using passed)
  obtain ⟨kvHead, hk, head⟩ :=
    kvHeadOf_ok spec.queryHeads_pos spec.kvHeads_pos spec.group state
  refine (safe_compute range.kvLen_ok).step ((safe_compute head).step ?_)
  refine (safe_compute (rowPairs_ok hs hl lens.query_fits)).step ?_
  refine (loadQuery_safe lens hs hl).step ?_
  refine (directTokens_safe table lens range hk hl).bind fun finished exist => ?_
  split
  · exact safe_pure trivial
  rename_i all
  have pages := exist (by simpa using all)
  exact (storeResult_safe results hs hl ⟨rfl, hs, { range with pages }⟩).mono fun _ _ => trivial

theorem pagedBatchDecodeTokenParallel_safe (shared : len .partialStates = 8 * 130)
    (flags : len .pageValid = 8) (state : Nat) {thread : Nat} (ht : thread < 256) :
    Safe (Contained len (DecodeOwn spec pageIndptr pageIndices lastPageLen state))
      (pagedBatchDecodeTokenParallel spec.batchSize spec.maxNumPages spec.numQueryHeads
        spec.numKvHeads pageIndptr pageIndices lastPageLen state thread) fun _ => True := by
  refine (pagedBatchDecodeTokenParallelGuard_safe lens table flags ht).bind ?_
  rintro (_ | row) ⟨passed, found⟩
  · exact safe_pure trivial
  obtain rfl := found row rfl
  have valid := passed.mp rfl
  obtain ⟨kvHead, hk, head⟩ :=
    kvHeadOf_ok spec.queryHeads_pos spec.kvHeads_pos spec.group state
  refine (safe_compute head).step ?_
  refine (tokenParallelRow_safe lens results shared (by decide) valid.1 ht hk ⟨rfl, valid⟩
    (fun warp le => tokenCut_ok (by decide) le (by decide) valid.2.kvLen_lt) ?_).mono fun _ _ => trivial
  intro token _ before
  have stop : floorCut (pagedKvLen pageIndptr lastPageLen (state / spec.numQueryHeads)) 8
      (thread / 32 + 1) ≤ _ := floorCut_le (by omega)
  exact pagedKvPair_safe table lens valid.2.toPageRangeValid hk (Nat.mod_lt _ (by decide))
    valid.2.pages (before.trans_le stop)

end Kernels

end LoomKernels.Memory
