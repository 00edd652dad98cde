import LoomKernels.Device.TokenParallel
import LoomKernels.Host.PagedPrefill

/-!
# Paged token-parallel kernels

Paged decode and paged prefill split a row over 8 or 16 warps. Their guards vote on the page table:
every thread of the block scans its share of the request's pages, and a block goes on when all warps
agree (`pagesValid`). On validated metadata no guard returns (`pagedBatchDecodeGuard_valid`,
`pagedPrefillGuard_valid`), and every block computes the attention of its row
(`pagedBatchDecodeTokenParallel_exact`, `pagedPrefillTokenParallel_exact`), also where some warps
have no tokens.
-/

namespace LoomKernels

/-- `PAGED_BATCH_DECODE_WARPS_PER_BLOCK` -/
abbrev pagedBatchDecodeWarpsPerBlock : Nat := 8

/-! ## The vote on the pages -/

/-- Whether the entries in a thread's share of a request's pages are in range. -/
def localPagesValid (threads maxNumPages : Nat) (pageIndices : Slice Int32) (pageStart : Int)
    (pageCount thread : Nat) : DeviceM Bool :=
  (strided thread threads pageCount).foldlM
    (fun valid pageSlot => do
      let physicalPage ← pageIndices.read (asUsize pageStart + pageSlot)
      return valid && (0 ≤ physicalPage && asUsize physicalPage < maxNumPages))
    true

/-- The flags that all threads read after the second barrier. Lane zero of each warp sets its flag
to `metadata_valid`, and where this holds, to the vote of its warp after the scan. -/
def pagesValid (warps maxNumPages : Nat) (pageIndices : Slice Int32) (metadataValid : Bool)
    (pageStart : Int) (pageCount : Nat) : DeviceM Bool :=
  if metadataValid then do
    let localValid ← collectRange (warps * warpThreads)
      (localPagesValid (warps * warpThreads) maxNumPages pageIndices pageStart pageCount)
    return (List.range warps).all (warpAll fun thread => localValid[thread]!)
  else return (List.range warps).all fun _ => metadataValid

/-- Where the key and value of a logical token start. -/
def pagedKvOffset (numKvHeads : Nat) (pageIndices : Slice Int32) (pageStart : Int)
    (kvHead token : Nat) : DeviceM Nat := do
  let physicalPage ← pageIndices.read (asUsize pageStart + token / pagedBatchDecodePageSize)
  return ((asUsize physicalPage * pagedBatchDecodePageSize + token % pagedBatchDecodePageSize) *
    numKvHeads + kvHead) * singleDecodeHeadDim

section Table

variable {batchSize maxNumPages request : Nat} {pageIndptr pageIndices lastPageLen : Slice Int32}

theorem localPagesValid_ok {threads : Nat} (hw : 0 < threads) (thread : Nat)
    (table : PageTableWellFormed batchSize maxNumPages pageIndptr pageIndices lastPageLen)
    (h : request < batchSize) :
    localPagesValid threads maxNumPages pageIndices (pageIndptr.int request)
      (indptrLen pageIndptr request) thread = .ok true := by
  rw [localPagesValid, foldlM_and_ok (fun _ => true) _ true]
  · simp
  · intro pageSlot hslot valid
    have small := lt_of_mem_strided hw hslot
    have stop := table.indptr.start_le_total (show request + 1 ≤ batchSize from h)
    have inside : indptrStart pageIndptr request + pageSlot < pageIndices.len := by
      unfold indptrLen at small
      omega
    have page := table.page _ inside
    rw [table.indptr.asUsize_eq_start h.le, Slice.read_ok inside, ok_bind, table.asUsize_page inside]
    have bound : (pageIndices.int (indptrStart pageIndptr request + pageSlot)).toNat < maxNumPages := by
      omega
    simp [page.1, bound, pure, Except.pure]

/-- The block agrees on a well-formed table. -/
theorem pagesValid_ok {warps : Nat} (hw : 0 < warps)
    (table : PageTableWellFormed batchSize maxNumPages pageIndptr pageIndices lastPageLen)
    (h : request < batchSize) :
    pagesValid warps maxNumPages pageIndices true (pageIndptr.int request)
      (indptrLen pageIndptr request) = .ok true := by
  have threads : 0 < warps * warpThreads := Nat.mul_pos hw (by decide)
  have scan := fun thread => localPagesValid_ok threads thread table h
  obtain ⟨flags, hflags⟩ := collectRange_total (n := warps * warpThreads) fun t _ => ⟨true, scan t⟩
  obtain ⟨len, each⟩ := collectRange_eq_ok.mp hflags
  rw [pagesValid, if_pos rfl, hflags, ok_bind]
  refine congrArg Except.ok (warpAll_block.mpr fun thread ht => ?_)
  have inside : thread < flags.length := by omega
  have := each thread inside
  rw [scan, Except.ok.injEq] at this
  rw [getElem!_pos flags thread inside]
  exact this.symm

/-- The look-up of a token finds its slot. -/
theorem pagedKvOffset_ok
    (table : PageTableWellFormed batchSize maxNumPages pageIndptr pageIndices lastPageLen)
    (h : request < batchSize) {token : Nat}
    (ht : token < pagedKvLen pageIndptr lastPageLen request) (numKvHeads kvHead : Nat) :
    pagedKvOffset numKvHeads pageIndices (pageIndptr.int request) kvHead token =
      .ok (slotOffset numKvHeads kvHead (pagedSlot pageIndptr pageIndices request token)) := by
  have inside := table.entry_lt_len h ht
  rw [pagedKvOffset, table.indptr.asUsize_eq_start h.le, Slice.read_ok inside, ok_bind,
    table.asUsize_page inside]
  rfl

end Table

/-! ## Paged decode -/

/-- The guard of the paged decode kernel: the first page entry and the number of tokens of the
block's request, or `none` where the kernel returns. -/
def pagedBatchDecodeGuard (batchSize maxNumPages numQueryHeads : Nat)
    (pageIndptr pageIndices lastPageLen : Slice Int32) (state : Nat) :
    DeviceM (Option (Int × Nat)) := do
  if state ≥ batchSize * numQueryHeads then return none
  else
    let request := state / numQueryHeads
    let globalPageEnd ← pageIndptr.read batchSize
    let pageStart ← pageIndptr.read request
    let pageEnd ← pageIndptr.read (request + 1)
    let tailLen ← lastPageLen.read request
    let first ← pageIndptr.read 0
    let metadataValid : Bool := first = 0 ∧ globalPageEnd ≥ 0 ∧
      asUsize globalPageEnd = pageIndices.len ∧ pageStart ≥ 0 ∧ pageEnd > pageStart ∧
      pageEnd ≤ globalPageEnd ∧ tailLen ≥ 1 ∧ tailLen ≤ pagedBatchDecodePageSize
    let valid ← pagesValid pagedBatchDecodeWarpsPerBlock maxNumPages pageIndices metadataValid
      pageStart (asUsize (pageEnd - pageStart))
    if !valid then return none
    else
      let fullPages ← subUsize (asUsize (pageEnd - pageStart)) 1
      return some (pageStart, fullPages * pagedBatchDecodePageSize + asUsize tailLen)

/-- `paged_batch_decode_bf16_nhd_token_parallel` -/
def DeviceOps.pagedBatchDecodeTokenParallel {F B : Type} (ops : DeviceOps F B)
    (batchSize maxNumPages numQueryHeads numKvHeads : Nat) (softmaxScaleLog2 : F)
    (query keyPages valuePages : Nat → B) (pageIndptr pageIndices lastPageLen : Slice Int32)
    (partialStates : Nat → F) (state thread : Nat) : DeviceM (AttentionWrites F B) := do
  match ← pagedBatchDecodeGuard batchSize maxNumPages numQueryHeads pageIndptr pageIndices lastPageLen
    state with
  | none => return ⟨[], []⟩
  | some (pageStart, kvLen) =>
    let warps := pagedBatchDecodeWarpsPerBlock
    let groupSize := numQueryHeads / numKvHeads
    let kvHead := state % numQueryHeads / groupSize
    ops.tokenParallelBlock warps (fun p => ops.mergeAfterFirst (p == 0))
      ⟨ops.zero, ops.zero, fun _ => ops.zero⟩
      (fun warp => ops.tokenLoop softmaxScaleLog2 ops.negInf query keyPages valuePages
        (state * singleDecodeHeadDim) (pagedKvOffset numKvHeads pageIndices pageStart kvHead)
        (floorCut kvLen warps warp) (floorCut kvLen warps (warp + 1)))
      partialStates state thread

section Decode

variable {spec : Bf16PagedBatchDecodeSpec} {pageIndptr pageIndices lastPageLen : Slice Int32}

/-- No block of a launch over a well-formed table returns from the guard. -/
theorem pagedBatchDecodeGuard_valid
    (table : PageTableWellFormed spec.batchSize spec.maxNumPages pageIndptr pageIndices lastPageLen)
    {state : Nat} (h : state < spec.lseNumel) :
    pagedBatchDecodeGuard spec.batchSize spec.maxNumPages spec.numQueryHeads pageIndptr pageIndices
        lastPageLen state =
      .ok (some (pageIndptr.int (state / spec.numQueryHeads),
        pagedKvLen pageIndptr lastPageLen (state / spec.numQueryHeads))) := by
  have hr : state / spec.numQueryHeads < spec.batchSize := (lt_rows_iff spec.queryHeads_pos).mpr h
  have len := table.indptr_len
  have tailLen := table.tail_len
  have total := table.total
  have start := table.indptr.int_nonneg hr.le
  have stop := table.indptr.int_le_total (show state / spec.numQueryHeads + 1 ≤ _ from hr)
  have tail := table.tail _ hr
  have pages := table.indptr.len_pos hr
  have globalEnd : asUsize (pageIndptr.int spec.batchSize) = pageIndices.len := by
    rw [table.indptr.asUsize_eq_start le_rfl, table.indptr.start_total]
  have lastEntry : pageIndptr.read spec.batchSize = .ok _ := Slice.read_ok (by omega)
  have startEntry : pageIndptr.read (state / spec.numQueryHeads) = .ok _ := Slice.read_ok (by omega)
  have stopEntry : pageIndptr.read (state / spec.numQueryHeads + 1) = .ok _ :=
    Slice.read_ok (by omega)
  have tailEntry : lastPageLen.read (state / spec.numQueryHeads) = .ok _ := Slice.read_ok (by omega)
  have firstEntry : pageIndptr.read 0 = .ok _ := Slice.read_ok (by omega)
  rw [pagedBatchDecodeGuard, if_neg (show ¬ state ≥ spec.batchSize * _ from Nat.not_le.mpr h)]
  simp only [lastEntry, startEntry, stopEntry, tailEntry, firstEntry, ok_bind]
  rw [decide_eq_true ⟨table.start, by omega, globalEnd, start, table.increasing _ hr, by omega,
    tail.1, tail.2⟩, table.indptr.asUsize_len hr, pagesValid_ok (by decide) table hr, ok_bind,
    if_neg (by simp), subUsize_ok pages, ok_bind, table.asUsize_tail hr]
  rfl

variable {K : Type} [Field K] [LinearOrder K] [ExactExp K] [IsStrictOrderedRing K]

/-- Every block computes the attention of its row. -/
theorem pagedBatchDecodeTokenParallel_exact
    (table : PageTableWellFormed spec.batchSize spec.maxNumPages pageIndptr pageIndices lastPageLen)
    (query keyPages valuePages : Nat → K) (partialStates : Nat → Ext K) {state : Nat}
    (h : state < spec.lseNumel) (thread : Nat) :
    (extOps K).pagedBatchDecodeTokenParallel spec.batchSize spec.maxNumPages spec.numQueryHeads
        spec.numKvHeads (.fin (scaleLog2 K)) (finArray query) (finArray keyPages)
        (finArray valuePages) pageIndptr pageIndices lastPageLen partialStates state thread =
      .ok (if thread < warpThreads then
        resultWrites state (spec.tokensOfRow query keyPages valuePages pageIndptr pageIndices
          lastPageLen state) thread
        else ⟨[], []⟩) := by
  have hr : state / spec.numQueryHeads < spec.batchSize := (lt_rows_iff spec.queryHeads_pos).mpr h
  have block := tokenParallelBlock_floorCut 0 (show 0 < 8 by decide) (table.kvLen_pos hr)
    (mergeAfterFirst_appends (by decide) ⟨.fin 0, .fin 0, fun _ => .fin 0⟩) query keyPages valuePages
    (state * 128) (pagedKvOffset spec.numKvHeads pageIndices
      (pageIndptr.int (state / spec.numQueryHeads))
      (state % spec.numQueryHeads / spec.gqaGroupSize))
    (fun t _ ht => pagedKvOffset_ok table hr (by omega) _ _) partialStates state thread
  simp only [Nat.zero_add] at block
  rw [DeviceOps.pagedBatchDecodeTokenParallel, pagedBatchDecodeGuard_valid table h]
  exact block

end Decode

/-! ## Paged prefill -/

/-- One pass of the search for the request of a query row. -/
def pagedPrefillSearch (nnzQo : Nat) (qoIndptr : Slice Int32) (queryRow request : Nat) :
    DeviceM (Unit ⊕ Option Nat) := do
  let start ← qoIndptr.read request
  let stop ← qoIndptr.read (request + 1)
  if start < 0 ∨ stop ≤ start ∨ asUsize stop > nnzQo then return .inr none
  else if queryRow ≥ asUsize start ∧ queryRow < asUsize stop then return .inr (some request)
  else return .inl ()

/-- The guard of the paged prefill kernels: the request, its first page entry, and the number of
tokens of the block's row, or `none` where the kernel returns. -/
def pagedPrefillGuard (warps batchSize nnzQo maxNumPages numQueryHeads : Nat)
    (qoIndptr pageIndptr pageIndices lastPageLen : Slice Int32) (state : Nat) :
    DeviceM (Option (Int × Nat)) := do
  if state ≥ nnzQo * numQueryHeads then return none
  else
    let queryRow := state / numQueryHeads
    match ← searchM (fun request _ => pagedPrefillSearch nnzQo qoIndptr queryRow request) none
      batchSize 0 () with
    | none => return none
    | some request =>
      let qoStart := asUsize (← qoIndptr.read request)
      let qoEnd := asUsize (← qoIndptr.read (request + 1))
      let pageStart ← pageIndptr.read request
      let pageEnd ← pageIndptr.read (request + 1)
      let globalPageEnd ← pageIndptr.read batchSize
      let tailLen ← lastPageLen.read request
      let firstQo ← qoIndptr.read 0
      let lastQo ← qoIndptr.read batchSize
      let firstPage ← pageIndptr.read 0
      let metadataValid : Bool := firstQo = 0 ∧ lastQo = asI32 nnzQo ∧ firstPage = 0 ∧
        globalPageEnd ≥ 0 ∧ asUsize globalPageEnd = pageIndices.len ∧ pageStart ≥ 0 ∧
        pageEnd > pageStart ∧ pageEnd ≤ globalPageEnd ∧ tailLen ≥ 1 ∧ tailLen ≤ pagedPrefillPageSize
      let valid ← pagesValid warps maxNumPages pageIndices metadataValid pageStart
        (asUsize (pageEnd - pageStart))
      if !valid then return none
      else
        let qoLen ← subUsize qoEnd qoStart
        let fullPages ← subUsize (asUsize (pageEnd - pageStart)) 1
        let kvLen := fullPages * pagedPrefillPageSize + asUsize tailLen
        if qoLen > kvLen then return none
        else
          let queryIndex ← subUsize queryRow qoStart
          let maskedTokens ← subUsize kvLen qoLen
          return some (pageStart, maskedTokens + queryIndex + 1)

/-- `paged_prefill_bf16_nhd_causal_token_parallel_impl` -/
def DeviceOps.pagedPrefillTokenParallel {F B : Type} (ops : DeviceOps F B)
    (warps batchSize nnzQo maxNumPages numQueryHeads numKvHeads : Nat) (softmaxScaleLog2 : F)
    (query keyPages valuePages : Nat → B)
    (qoIndptr pageIndptr pageIndices lastPageLen : Slice Int32) (partialStates : Nat → F)
    (state thread : Nat) : DeviceM (AttentionWrites F B) := do
  match ← pagedPrefillGuard warps batchSize nnzQo maxNumPages numQueryHeads qoIndptr pageIndptr
    pageIndices lastPageLen state with
  | none => return ⟨[], []⟩
  | some (pageStart, causalTokenCount) =>
    let groupSize := numQueryHeads / numKvHeads
    let kvHead := state % numQueryHeads / groupSize
    ops.tokenParallelBlock warps (fun _ => ops.mergeNonempty)
      ⟨ops.negInf, ops.zero, fun _ => ops.zero⟩
      (fun warp => ops.tokenLoop softmaxScaleLog2 ops.negInf query keyPages valuePages
        (state * singleDecodeHeadDim) (pagedKvOffset numKvHeads pageIndices pageStart kvHead)
        (floorCut causalTokenCount warps warp) (floorCut causalTokenCount warps (warp + 1)))
      partialStates state thread

section Prefill

variable {spec : Bf16PagedPrefillSpec} {qoIndptr pageIndptr pageIndices lastPageLen : Slice Int32}

/-- The search ends at the request of the row. -/
theorem pagedPrefillSearch_valid {count nnzQo : Nat}
    (qo : IndptrWellFormed count nnzQo qoIndptr) {row request : Nat} (h : request < count)
    (lo : indptrStart qoIndptr request ≤ row) (hi : row < indptrStart qoIndptr (request + 1)) :
    searchM (fun request _ => pagedPrefillSearch nnzQo qoIndptr row request) none count 0 () =
      .ok (some request) := by
  have len := qo.len
  have pass : ∀ r ≤ request, pagedPrefillSearch nnzQo qoIndptr row r =
      .ok (if indptrStart qoIndptr r ≤ row ∧ row < indptrStart qoIndptr (r + 1)
        then .inr (some r) else .inl ()) := by
    intro r hr
    have startEntry : qoIndptr.read r = .ok _ := Slice.read_ok (by omega)
    have stopEntry : qoIndptr.read (r + 1) = .ok _ := Slice.read_ok (by omega)
    have start := qo.int_nonneg (show r ≤ count by omega)
    have increasing := qo.increasing r (by omega)
    have stop := qo.start_le_total (show r + 1 ≤ count by omega)
    rw [pagedPrefillSearch, startEntry, stopEntry]
    simp only [ok_bind, qo.asUsize_eq_start (show r ≤ count by omega),
      qo.asUsize_eq_start (show r + 1 ≤ count by omega)]
    rw [if_neg (by omega)]
    split <;> rfl
  refine searchM_found (fun _ => ()) h (fun r hr => ?_) ?_
  · have := qo.start_mono (show r + 1 ≤ request from hr) h.le
    rw [pass r hr.le, if_neg (by omega)]
  · rw [pass request le_rfl, if_pos ⟨lo, hi⟩]

/-- No block of a launch over validated metadata returns from the guard. -/
theorem pagedPrefillGuard_valid {warps : Nat} (hw : 0 < warps)
    (valid : PagedPrefillValid spec qoIndptr pageIndptr pageIndices lastPageLen)
    {state request : Nat} (h : request < spec.batchSize)
    (lo : indptrStart qoIndptr request ≤ state / spec.numQueryHeads)
    (hi : state / spec.numQueryHeads < indptrStart qoIndptr (request + 1)) :
    pagedPrefillGuard warps spec.batchSize spec.nnzQo spec.maxNumPages spec.numQueryHeads qoIndptr
        pageIndptr pageIndices lastPageLen state =
      .ok (some (pageIndptr.int request, causalCount qoIndptr
        (pagedKvLen pageIndptr lastPageLen request) request (state / spec.numQueryHeads))) := by
  have hrow : state / spec.numQueryHeads < spec.nnzQo := hi.trans_le (valid.qo.start_le_total h)
  have hstate : state < spec.nnzQo * spec.numQueryHeads := (lt_rows_iff spec.queryHeads_pos).mp hrow
  have qo := valid.qo
  have table := valid.table
  have len := qo.len
  have pageLen := table.indptr_len
  have tailLen := table.tail_len
  have total := table.total
  have start := table.indptr.int_nonneg h.le
  have stop := table.indptr.int_le_total (show request + 1 ≤ spec.batchSize from h)
  have tail := table.tail _ h
  have pages := table.indptr.len_pos h
  have causal := valid.causal request h
  have globalEnd : asUsize (pageIndptr.int spec.batchSize) = pageIndices.len := by
    rw [table.indptr.asUsize_eq_start le_rfl, table.indptr.start_total]
  have lastQo : qoIndptr.int spec.batchSize = asI32 spec.nnzQo := by
    rw [asI32_of_lt spec.qo_lt, qo.total]
  have qoStart : qoIndptr.read request = .ok _ := Slice.read_ok (by omega)
  have qoEnd : qoIndptr.read (request + 1) = .ok _ := Slice.read_ok (by omega)
  have pageStart : pageIndptr.read request = .ok _ := Slice.read_ok (by omega)
  have pageEnd : pageIndptr.read (request + 1) = .ok _ := Slice.read_ok (by omega)
  have globalEntry : pageIndptr.read spec.batchSize = .ok _ := Slice.read_ok (by omega)
  have tailEntry : lastPageLen.read request = .ok _ := Slice.read_ok (by omega)
  have firstQo : qoIndptr.read 0 = .ok _ := Slice.read_ok (by omega)
  have lastEntry : qoIndptr.read spec.batchSize = .ok _ := Slice.read_ok (by omega)
  have firstPage : pageIndptr.read 0 = .ok _ := Slice.read_ok (by omega)
  rw [pagedPrefillGuard, if_neg (Nat.not_le.mpr hstate)]
  dsimp only
  rw [pagedPrefillSearch_valid qo h lo hi]
  simp only [qoStart, qoEnd, pageStart, pageEnd, globalEntry, tailEntry, firstQo, lastEntry,
    firstPage, ok_bind]
  rw [decide_eq_true ⟨qo.start, lastQo, table.start, by omega, globalEnd, start,
    table.increasing _ h, by omega, tail.1, tail.2⟩, table.indptr.asUsize_len h,
    pagesValid_ok hw table h, ok_bind, if_neg (by simp), qo.asUsize_eq_start h.le,
    qo.asUsize_eq_start h, subUsize_ok (qo.start_lt h).le, ok_bind, subUsize_ok pages, ok_bind,
    table.asUsize_tail h]
  have kvLen : (indptrLen pageIndptr request - 1) * pagedPrefillPageSize +
      (lastPageLen.int request).toNat = pagedKvLen pageIndptr lastPageLen request := rfl
  have qoLen : indptrStart qoIndptr (request + 1) - indptrStart qoIndptr request =
      indptrLen qoIndptr request := rfl
  rw [kvLen, qoLen, if_neg (Nat.not_lt.mpr causal), subUsize_ok lo, ok_bind, subUsize_ok causal]
  rfl

variable {K : Type} [Field K] [LinearOrder K] [ExactExp K] [IsStrictOrderedRing K]

/-- Every block computes the attention of its row. -/
theorem pagedPrefillTokenParallel_exact {warps : Nat} (hw : 0 < warps)
    (valid : PagedPrefillValid spec qoIndptr pageIndptr pageIndices lastPageLen)
    (query keyPages valuePages : Nat → K) (partialStates : Nat → Ext K) {state : Nat}
    (h : state < spec.lseNumel) (thread : Nat) :
    (extOps K).pagedPrefillTokenParallel warps spec.batchSize spec.nnzQo spec.maxNumPages
        spec.numQueryHeads spec.numKvHeads (.fin (scaleLog2 K)) (finArray query)
        (finArray keyPages) (finArray valuePages) qoIndptr pageIndptr pageIndices lastPageLen
        partialStates state thread =
      .ok (if thread < warpThreads then
        resultWrites state (spec.tokensOfRow query keyPages valuePages qoIndptr pageIndptr
          pageIndices lastPageLen state) thread
        else ⟨[], []⟩) := by
  have hrow : state / spec.numQueryHeads < spec.nnzQo := (lt_rows_iff spec.queryHeads_pos).mpr h
  obtain ⟨request, ⟨hr, lo, hi⟩, -⟩ := valid.qo.existsUnique_request hrow
  have count_le : causalCount qoIndptr (pagedKvLen pageIndptr lastPageLen request) request
      (state / spec.numQueryHeads) ≤ pagedKvLen pageIndptr lastPageLen request :=
    Bf16PagedPrefillMetadata.causalCount_le
      ⟨spec, qoIndptr, pageIndptr, pageIndices, lastPageLen, valid⟩ hr lo hi
  have block := tokenParallelBlock_floorCut 0 hw
    (show 0 < causalCount qoIndptr (pagedKvLen pageIndptr lastPageLen request) request
      (state / spec.numQueryHeads) from Nat.succ_pos _)
    (mergeNonempty_appends hw) query keyPages valuePages
    (state * 128) (pagedKvOffset spec.numKvHeads pageIndices (pageIndptr.int request)
      (state % spec.numQueryHeads / spec.gqaGroupSize))
    (fun t _ ht => pagedKvOffset_ok valid.table hr (by omega) _ _) partialStates state thread
  simp only [Nat.zero_add] at block
  rw [DeviceOps.pagedPrefillTokenParallel, pagedPrefillGuard_valid hw valid hr lo hi,
    Bf16PagedPrefillSpec.tokensOfRow, valid.qo.requestOf_eq hr lo hi]
  exact block

end Prefill

end LoomKernels
