import LoomKernels.Device.RowLaunch
import LoomKernels.Memory.PagedPrefill

/-!
# Paged kernels on any metadata

The direct kernels of paged decode and paged prefill give a row of results to one warp. The decode
kernel looks at a page only when it comes to its first token, and returns there, in the middle of the
loop, when the page does not exist; the prefill kernel looks at all pages of the request first.

Of the metadata nothing is assumed here. Where the range of a request is in order, every look-up of
its pages is inside the array, and either all its pages exist or some token is the first one whose
page does not (`pagesExist_or_missing`).
-/

namespace LoomKernels

/-! ## The direct kernels -/

/-- The guard of the direct decode kernel: the first page entry and the number of tokens of the
block's request, or `none` where the kernel returns. -/
def pagedBatchDecodeDirectGuard (batchSize numQueryHeads : Nat)
    (pageIndptr pageIndices lastPageLen : Slice Int32) (state lane : Nat) :
    DeviceM (Option (Int × Nat)) := do
  if state ≥ batchSize * numQueryHeads ∨ lane ≥ warpThreads then return none
  else
    let request := state / numQueryHeads
    let globalPageEnd ← pageIndptr.read batchSize
    let pageStart ← pageIndptr.read request
    let pageEnd ← pageIndptr.read (request + 1)
    let tailLen ← lastPageLen.read request
    let first ← pageIndptr.read 0
    if first ≠ 0 ∨ globalPageEnd < 0 ∨ asUsize globalPageEnd ≠ pageIndices.len ∨ pageStart < 0 ∨
        pageEnd ≤ pageStart ∨ pageEnd > globalPageEnd ∨ tailLen < 1 ∨
        tailLen > pagedBatchDecodePageSize then
      return none
    else
      let fullPages ← subUsize (asUsize (pageEnd - pageStart)) 1
      return some (pageStart, fullPages * pagedBatchDecodePageSize + asUsize tailLen)

/-- Where the key and value of a logical token start, or `none` where its page does not exist. -/
def checkedKvOffset (maxNumPages numKvHeads : Nat) (pageIndices : Slice Int32) (pageStart : Int)
    (kvHead token : Nat) : DeviceM (Option Nat) := do
  let physicalPage ← pageIndices.read (asUsize pageStart + token / pagedBatchDecodePageSize)
  if physicalPage < 0 ∨ asUsize physicalPage ≥ maxNumPages then return none
  else
    return some (((asUsize physicalPage * pagedBatchDecodePageSize +
      token % pagedBatchDecodePageSize) * numKvHeads + kvHead) * singleDecodeHeadDim)

/-- The guard of the direct prefill kernel: the first page entry and the number of tokens of the
block's row, or `none` where the kernel returns. -/
def pagedPrefillDirectGuard (batchSize nnzQo maxNumPages numQueryHeads : Nat)
    (qoIndptr pageIndptr pageIndices lastPageLen : Slice Int32) (state lane : Nat) :
    DeviceM (Option (Int × Nat)) := do
  if state ≥ nnzQo * numQueryHeads ∨ lane ≥ warpThreads then return none
  else
    let firstQo ← qoIndptr.read 0
    let lastQo ← qoIndptr.read batchSize
    let firstPage ← pageIndptr.read 0
    let globalPageEnd ← pageIndptr.read batchSize
    if firstQo ≠ 0 ∨ lastQo ≠ asI32 nnzQo ∨ firstPage ≠ 0 ∨ globalPageEnd < 0 ∨
        asUsize globalPageEnd ≠ pageIndices.len then
      return none
    else
      let queryRow := state / numQueryHeads
      match ← searchM (fun request _ => pagedPrefillSearch nnzQo qoIndptr queryRow request) none
        batchSize 0 () with
      | none => return none
      | some request =>
        let qoStart := asUsize (← qoIndptr.read request)
        let qoEnd := asUsize (← qoIndptr.read (request + 1))
        let pageStart ← pageIndptr.read request
        let pageEnd ← pageIndptr.read (request + 1)
        let globalPageEnd ← pageIndptr.read batchSize
        let tailLen ← lastPageLen.read request
        if pageStart < 0 ∨ pageEnd ≤ pageStart ∨ pageEnd > globalPageEnd ∨ tailLen < 1 ∨
            tailLen > pagedPrefillPageSize then
          return none
        else
          let pagesExist ← allRangeM (asUsize pageStart) (asUsize pageEnd) fun pageSlot => do
            let physicalPage ← pageIndices.read pageSlot
            return !(physicalPage < 0 || asUsize physicalPage ≥ maxNumPages)
          if !pagesExist then return none
          else
            let qoLen ← subUsize qoEnd qoStart
            let fullPages ← subUsize (asUsize (pageEnd - pageStart)) 1
            let kvLen := fullPages * pagedPrefillPageSize + asUsize tailLen
            if qoLen > kvLen then return none
            else
              let queryIndex ← subUsize queryRow qoStart
              let maskedTokens ← subUsize kvLen qoLen
              return some (pageStart, maskedTokens + queryIndex + 1)

section Kernels

variable {F B : Type} (ops : DeviceOps F B)

/-- The token loop of a warp that returns at a token that is not found. -/
def DeviceOps.checkedTokenLoop (scaleLog2 initMax : F) (query key value : Nat → B)
    (queryOffset : Nat) (kvOffset : Nat → DeviceM (Option Nat)) (lo hi : Nat) :
    DeviceM (Option (SoftmaxState F Nat)) :=
  forRangeReturn lo hi
    (fun token s => do
      match ← kvOffset token with
      | none => return none
      | some offset =>
        let score := ops.mul (ops.reduceSum (ops.laneDot query key queryOffset offset)) scaleLog2
        let s ← ops.tokenStep (token == lo) score (fun c => ops.toF32 (value (offset + c))) s
        return some s)
    ⟨initMax, ops.zero, fun _ => ops.zero⟩

/-- `paged_batch_decode_bf16_nhd` -/
def DeviceOps.pagedBatchDecodeDirect
    (batchSize maxNumPages numQueryHeads numKvHeads : Nat) (softmaxScaleLog2 : F)
    (query keyPages valuePages : Nat → B) (pageIndptr pageIndices lastPageLen : Slice Int32)
    (state lane : Nat) : DeviceM (AttentionWrites F B) := do
  match ← pagedBatchDecodeDirectGuard batchSize numQueryHeads pageIndptr pageIndices lastPageLen state
    lane with
  | none => return ⟨[], []⟩
  | some (pageStart, kvLen) =>
    let groupSize := numQueryHeads / numKvHeads
    let kvHead := state % numQueryHeads / groupSize
    match ← ops.checkedTokenLoop softmaxScaleLog2 ops.zero query keyPages valuePages
      (state * singleDecodeHeadDim)
      (checkedKvOffset maxNumPages numKvHeads pageIndices pageStart kvHead) 0 kvLen with
    | none => return ⟨[], []⟩
    | some s => return ops.storeResult state s lane

/-- `paged_prefill_bf16_nhd_causal` -/
def DeviceOps.pagedPrefillDirect
    (batchSize nnzQo maxNumPages numQueryHeads numKvHeads : Nat) (softmaxScaleLog2 : F)
    (query keyPages valuePages : Nat → B)
    (qoIndptr pageIndptr pageIndices lastPageLen : Slice Int32) (state lane : Nat) :
    DeviceM (AttentionWrites F B) := do
  match ← pagedPrefillDirectGuard batchSize nnzQo maxNumPages numQueryHeads qoIndptr pageIndptr
    pageIndices lastPageLen state lane with
  | none => return ⟨[], []⟩
  | some (pageStart, causalKvEnd) =>
    let groupSize := numQueryHeads / numKvHeads
    let kvHead := state % numQueryHeads / groupSize
    let s ← ops.tokenLoop softmaxScaleLog2 ops.zero query keyPages valuePages
      (state * singleDecodeHeadDim) (pagedKvOffset numKvHeads pageIndices pageStart kvHead) 0
      causalKvEnd
    return ops.storeResult state s lane

/-- A loop all of whose tokens are found. -/
theorem checkedTokenLoop_found {ops : DeviceOps F B} {scaleLog2 initMax : F}
    {query key value : Nat → B} {queryOffset : Nat} {kvOffset : Nat → DeviceM (Option Nat)}
    {off : Nat → Nat} {lo hi : Nat} (h : lo ≤ hi)
    (found : ∀ token, lo ≤ token → token < hi → kvOffset token = .ok (some (off token)))
    {s : SoftmaxState F Nat}
    (run : ops.tokenLoop scaleLog2 initMax query key value queryOffset
      (fun token => .ok (off token)) lo hi = .ok s) :
    ops.checkedTokenLoop scaleLog2 initMax query key value queryOffset kvOffset lo hi =
      .ok (some s) := by
  refine forRangeReturn_some h (fun token s s' hlo hhi step => ?_) run
  rw [ok_bind] at step
  rw [found token hlo hhi, ok_bind]
  dsimp only
  rw [step]
  rfl

/-- A loop that comes to a token that is not found. -/
theorem checkedTokenLoop_missing {ops : DeviceOps F B} {scaleLog2 : F} {query key value : Nat → B}
    (loops : ops.LoopsReturn scaleLog2 query key value) {queryOffset : Nat}
    {kvOffset : Nat → DeviceM (Option Nat)} {off : Nat → Nat} {lo token hi : Nat} (hlo : lo ≤ token)
    (hhi : token < hi) (found : ∀ t, lo ≤ t → t < token → kvOffset t = .ok (some (off t)))
    (missing : kvOffset token = .ok none) :
    ops.checkedTokenLoop scaleLog2 ops.zero query key value queryOffset kvOffset lo hi =
      .ok none := by
  obtain ⟨s, run⟩ := loops queryOffset off lo token hlo
  refine forRangeReturn_none hlo hhi (checkedTokenLoop_found hlo found run) ?_
  rw [missing]
  rfl

end Kernels

/-! ## The page range of a request -/

section Range

open Memory (PageRangeValid PagesExist PageRequestValid pageExists pageExists_iff)

variable {batchSize maxNumPages request : Nat} {pageIndptr pageIndices lastPageLen : Slice Int32}

/-- The checks that both decode kernels make of the range of a request. -/
theorem pageRange_checks :
    (pageIndptr.int 0 = 0 ∧ pageIndptr.int batchSize ≥ 0 ∧
      asUsize (pageIndptr.int batchSize) = pageIndices.len ∧ pageIndptr.int request ≥ 0 ∧
      pageIndptr.int (request + 1) > pageIndptr.int request ∧
      pageIndptr.int (request + 1) ≤ pageIndptr.int batchSize ∧ lastPageLen.int request ≥ 1 ∧
      lastPageLen.int request ≤ pagedBatchDecodePageSize) ↔
    PageRangeValid batchSize pageIndptr pageIndices lastPageLen request := by
  have small := pageIndptr.int_lt batchSize
  constructor
  · rintro ⟨start, nonneg, total, pageStart, pageEnd, inside, tailPos, tailLe⟩
    have cast := asUsize_of_nonneg nonneg small
    exact ⟨start, by omega, pageStart, pageEnd, inside, tailPos, tailLe⟩
  · rintro ⟨start, total, pageStart, pageEnd, inside, tailPos, tailLe⟩
    have cast := asUsize_of_nonneg (x := pageIndptr.int batchSize) (by omega) small
    exact ⟨start, by omega, by omega, pageStart, pageEnd, inside, tailPos, tailLe⟩

variable (valid : PageRangeValid batchSize pageIndptr pageIndices lastPageLen request)
include valid

theorem Memory.PageRangeValid.asUsize_tail :
    asUsize (lastPageLen.int request) = (lastPageLen.int request).toNat := by
  have tailPos := valid.tail_pos
  have cast := asUsize_of_nonneg (x := lastPageLen.int request) (by omega) (lastPageLen.int_lt _)
  omega

theorem Memory.PageRangeValid.kvLen_pos : 0 < pagedKvLen pageIndptr lastPageLen request := by
  have tailPos := valid.tail_pos
  unfold pagedKvLen
  omega

theorem Memory.PageRangeValid.len_pos : 0 < indptrLen pageIndptr request :=
  Nat.sub_pos_of_lt valid.start_lt

/-- An entry of the request is one of the array. -/
theorem Memory.PageRangeValid.entry {slot : Nat} (h : slot < indptrLen pageIndptr request) :
    indptrStart pageIndptr request + slot < pageIndices.len := by
  have le := valid.end_le
  unfold indptrLen at h
  omega

/-- The number of tokens, as the kernels compute it. -/
theorem Memory.PageRangeValid.kvLen_eq :
    (indptrLen pageIndptr request - 1) * pagedBatchDecodePageSize + asUsize (lastPageLen.int request) =
      pagedKvLen pageIndptr lastPageLen request := by
  rw [valid.asUsize_tail]
  rfl

theorem Memory.PageRangeValid.read_page {token : Nat}
    (ht : token < pagedKvLen pageIndptr lastPageLen request) :
    pageIndices.read (asUsize (pageIndptr.int request) + token / pagedBatchDecodePageSize) =
      .ok (pageIndices.int (indptrStart pageIndptr request + token / pagedBatchDecodePageSize)) := by
  rw [asUsize_int valid.pageStart]
  exact Slice.read_ok ((valid.slot_lt ht).trans_le valid.end_le)

/-- A thread's share of the pages. -/
theorem localPagesValid_range (maxNumPages : Nat) {threads : Nat} (hw : 0 < threads) (thread : Nat) :
    localPagesValid threads maxNumPages pageIndices (pageIndptr.int request)
        (indptrLen pageIndptr request) thread =
      .ok ((strided thread threads (indptrLen pageIndptr request)).all fun slot =>
        pageExists maxNumPages (pageIndices.int (indptrStart pageIndptr request + slot))) := by
  rw [localPagesValid, foldlM_and_ok (fun slot =>
    pageExists maxNumPages (pageIndices.int (indptrStart pageIndptr request + slot)))]
  · rw [Bool.true_and]
  · intro slot hslot flag
    rw [asUsize_int valid.pageStart, Slice.read_ok (valid.entry (lt_of_mem_strided hw hslot))]
    rfl

/-- The block agrees exactly on the requests all of whose pages exist. -/
theorem pagesValid_range (maxNumPages : Nat) {warps : Nat} (hw : 0 < warps) :
    ∃ flag, pagesValid warps maxNumPages pageIndices true (pageIndptr.int request)
        (indptrLen pageIndptr request) = .ok flag ∧
      (flag = true ↔ PagesExist maxNumPages pageIndptr pageIndices request) := by
  have threads : 0 < warps * warpThreads := Nat.mul_pos hw (by decide)
  have scan := fun thread => localPagesValid_range valid maxNumPages threads thread
  rw [pagesValid, if_pos rfl, collectRange_ok fun thread _ => scan thread, ok_bind]
  refine ⟨_, rfl, ?_⟩
  rw [warpAll_block]
  constructor
  · intro all i lo hi
    have small : i - indptrStart pageIndptr request < indptrLen pageIndptr request :=
      Nat.sub_lt_sub_right lo hi
    obtain ⟨thread, ht, mine⟩ := exists_mem_strided threads small
    have passed := all thread ht
    rw [getElem!_pos _ thread (by simpa using ht), List.getElem_map, List.getElem_range,
      List.all_eq_true] at passed
    have page := pageExists_iff.mp (passed _ mine)
    rwa [Nat.add_sub_cancel' lo] at page
  · intro pages thread ht
    rw [getElem!_pos _ thread (by simpa using ht), List.getElem_map, List.getElem_range,
      List.all_eq_true]
    intro slot hslot
    have small := lt_of_mem_strided threads hslot
    unfold indptrLen at small
    exact pageExists_iff.mpr (pages _ (Nat.le_add_right _ _) (by omega))

omit valid in
/-- A block that finds the metadata invalid does not look at the pages. -/
theorem pagesValid_false {warps : Nat} (hw : 0 < warps) (pageStart : Int) (pageCount : Nat) :
    pagesValid warps maxNumPages pageIndices false pageStart pageCount = .ok false := by
  obtain ⟨n, rfl⟩ : ∃ n, warps = n + 1 := ⟨warps - 1, by omega⟩
  rw [pagesValid, if_neg (by simp)]
  exact congrArg Except.ok (by simp [List.range_succ_eq_map])

/-- The look-up of a token that is checked on the way. -/
theorem checkedKvOffset_range {token : Nat}
    (ht : token < pagedKvLen pageIndptr lastPageLen request) (numKvHeads kvHead : Nat) :
    checkedKvOffset maxNumPages numKvHeads pageIndices (pageIndptr.int request) kvHead token =
      .ok (if pageExists maxNumPages (pageIndices.int
          (indptrStart pageIndptr request + token / pagedBatchDecodePageSize)) then
        some (slotOffset numKvHeads kvHead (pagedSlot pageIndptr pageIndices request token))
      else none) := by
  rw [checkedKvOffset, valid.read_page ht, ok_bind]
  split
  · rename_i bad
    rw [if_neg]
    · rfl
    · rw [pageExists, Bool.and_eq_true, decide_eq_true_eq, decide_eq_true_eq]
      omega
  · rename_i good
    have nonneg : 0 ≤ pageIndices.int
        (indptrStart pageIndptr request + token / pagedBatchDecodePageSize) := by omega
    rw [if_pos]
    · rw [asUsize_int nonneg]
      rfl
    · rw [pageExists, Bool.and_eq_true, decide_eq_true_eq, decide_eq_true_eq]
      omega

/-- Either every page of the request exists, or some token is the first one whose page does not. -/
theorem pagesExist_or_missing (maxNumPages : Nat) :
    PagesExist maxNumPages pageIndptr pageIndices request ∨
      ∃ token < pagedKvLen pageIndptr lastPageLen request,
        pageExists maxNumPages (pageIndices.int
          (indptrStart pageIndptr request + token / pagedBatchDecodePageSize)) = false ∧
        ∀ t < token, pageExists maxNumPages (pageIndices.int
          (indptrStart pageIndptr request + t / pagedBatchDecodePageSize)) = true := by
  by_cases missing : ∃ token, token < pagedKvLen pageIndptr lastPageLen request ∧
      pageExists maxNumPages (pageIndices.int
        (indptrStart pageIndptr request + token / pagedBatchDecodePageSize)) = false
  · classical
    refine Or.inr ⟨Nat.find missing, (Nat.find_spec missing).1, (Nat.find_spec missing).2, ?_⟩
    intro t ht
    by_contra no
    exact Nat.find_min missing ht
      ⟨ht.trans (Nat.find_spec missing).1, Bool.eq_false_iff.mpr no⟩
  · refine Or.inl fun i lo hi => pageExists_iff.mp ?_
    by_contra no
    refine missing ⟨(i - indptrStart pageIndptr request) * pagedBatchDecodePageSize, ?_, ?_⟩
    · have tailPos := valid.tail_pos
      unfold pagedKvLen pagedBatchDecodePageSize
      omega
    · rw [Nat.mul_div_cancel _ (by decide), Nat.add_sub_cancel' lo]
      exact Bool.eq_false_iff.mpr no

omit valid in
/-- The look-up of a token of a valid request finds its slot. -/
theorem pagedKvOffset_valid
    (valid : PageRequestValid batchSize maxNumPages pageIndptr pageIndices lastPageLen request)
    {token : Nat} (ht : token < pagedKvLen pageIndptr lastPageLen request)
    (numKvHeads kvHead : Nat) :
    pagedKvOffset numKvHeads pageIndices (pageIndptr.int request) kvHead token =
      .ok (slotOffset numKvHeads kvHead (pagedSlot pageIndptr pageIndices request token)) := by
  have range := valid.toPageRangeValid
  have page := valid.pages _ (Nat.le_add_right _ _) (range.slot_lt ht)
  rw [pagedKvOffset, range.read_page ht, ok_bind, asUsize_int page.1]
  rfl

end Range

end LoomKernels
