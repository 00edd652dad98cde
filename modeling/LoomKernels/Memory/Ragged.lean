import LoomKernels.Device.TiledGrid
import LoomKernels.Memory.PagedDecode

/-!
# Accesses of ragged prefill

The direct kernel and the token-parallel ones find the request of their query row by the ends of the
query ranges alone, which may hold anything, and only then look at the two ranges of the request.
Both kernels are contained on any contents of the indptr arrays (`raggedPrefill_safe`,
`raggedPrefillTokenParallel_safe`): what is known of the tokens of a block comes from the checks of
the one request it found.
-/

namespace LoomKernels.Memory

/-! ## Kernel code -/

section Kernels

variable (batchSize nnzQo nnzKv numQueryHeads numKvHeads : Nat) (qoIndptr kvIndptr : Slice Int32)

/-- `qo_indptr[0] == 0 && kv_indptr[0] == 0 && qo_indptr[batch_size] == nnz_qo as i32 &&
kv_indptr[batch_size] == nnz_kv as i32` -/
def raggedEndsMatch : KernelM Bool := do
  if (← readI32 .qoIndptr qoIndptr 0) ≠ 0 then return false
  else if (← readI32 .kvIndptr kvIndptr 0) ≠ 0 then return false
  else if (← readI32 .qoIndptr qoIndptr batchSize) ≠ asI32 nnzQo then return false
  else return (← readI32 .kvIndptr kvIndptr batchSize) = asI32 nnzKv

/-- The search for the request of a query row: `none` where no request is left. -/
def raggedRequest (queryRow : Nat) : KernelM (Option Nat) :=
  searchEach
    (fun request _ => do
      let next ← compute (addWord 64 request 1)
      let stop ← readI32 .qoIndptr qoIndptr next
      if queryRow ≥ asUsize stop then return .inl () else return .inr (some request))
    none batchSize 0 ()

/-- The ranges of a request. -/
structure RaggedRange where
  qoStart : Int
  qoEnd : Int
  kvStart : Int
  kvEnd : Int

def readRaggedRange (request : Nat) : KernelM RaggedRange := do
  let next ← compute (addWord 64 request 1)
  let qoStart ← readI32 .qoIndptr qoIndptr request
  let qoEnd ← readI32 .qoIndptr qoIndptr next
  let kvStart ← readI32 .kvIndptr kvIndptr request
  let kvEnd ← readI32 .kvIndptr kvIndptr next
  return ⟨qoStart, qoEnd, kvStart, kvEnd⟩

/-- The checks of the ranges; the direct kernel asks for the opposite. -/
def RaggedRange.inside (range : RaggedRange) (queryRow : Nat) : Bool :=
  range.qoStart ≥ 0 ∧ range.qoEnd > range.qoStart ∧ range.kvStart ≥ 0 ∧
    range.kvEnd > range.kvStart ∧ asUsize range.qoEnd ≤ nnzQo ∧ asUsize range.kvEnd ≤ nnzKv ∧
    queryRow ≥ asUsize range.qoStart ∧ queryRow < asUsize range.qoEnd

/-- `qo_end - qo_start` and `kv_end - kv_start` -/
def RaggedRange.lengths (range : RaggedRange) : Machine Empty (Int × Int) := do
  return (← subSigned 32 range.qoEnd range.qoStart, ← subSigned 32 range.kvEnd range.kvStart)

/-- `causal_kv_end` of the direct kernel. -/
def RaggedRange.causalKvEnd (range : RaggedRange) (qoLen kvLen queryRow : Nat) :
    Machine Empty Nat := do
  let queryIndex ← subWord queryRow (asUsize range.qoStart)
  let masked ← subWord (← addWord 64 (asUsize range.kvStart) kvLen) qoLen
  addWord 64 (← addWord 64 masked queryIndex) 1

/-- `causal_token_count` of the token-parallel kernels. -/
def RaggedRange.causalTokenCount (range : RaggedRange) (qoLen kvLen queryRow : Nat) :
    Machine Empty Nat := do
  let queryIndex ← subWord queryRow (asUsize range.qoStart)
  addWord 64 (← addWord 64 (← subWord kvLen qoLen) queryIndex) 1

/-- `ragged_prefill_bf16_nhd_causal` -/
def raggedPrefill (state lane : Nat) : KernelM Unit := do
  let stateCount ← compute (mulWord 64 nnzQo numQueryHeads)
  if state ≥ stateCount ∨ lane ≥ warpThreads then return ()
  else if !(← raggedEndsMatch batchSize nnzQo nnzKv qoIndptr kvIndptr) then return ()
  else
    let queryRow ← compute (divWord state numQueryHeads)
    match ← raggedRequest batchSize qoIndptr queryRow with
    | none => return ()
    | some request =>
      let range ← readRaggedRange qoIndptr kvIndptr request
      if !range.inside nnzQo nnzKv queryRow then return ()
      else
        let (qoLen, kvLen) ← compute range.lengths
        if asUsize qoLen > asUsize kvLen then return ()
        else
          let causalKvEnd ← compute (range.causalKvEnd (asUsize qoLen) (asUsize kvLen) queryRow)
          let kvHead ← compute (kvHeadOf numQueryHeads numKvHeads state)
          let pairs ← compute (rowPairs state lane)
          pairs.forM (loadWord .query)
          forEach (asUsize range.kvStart) causalKvEnd fun token => do
            loadKeyValue (← compute (kvPairOffset numKvHeads kvHead lane token))
          storeResult state lane pairs

/-- Where the tokens of a warp start. -/
def raggedTokenCut (warps causalKvStart causalTokenCount warp : Nat) : Machine Empty Nat := do
  addWord 64 causalKvStart (← tokenCut warps causalTokenCount warp)

/-- `ragged_prefill_bf16_nhd_causal_token_parallel_impl` -/
def raggedPrefillTokenParallel (warps state thread : Nat) : KernelM Unit := do
  let stateCount ← compute (mulWord 64 nnzQo numQueryHeads)
  if state ≥ stateCount then return ()
  else
    let queryRow ← compute (divWord state numQueryHeads)
    match ← raggedRequest batchSize qoIndptr queryRow with
    | none => return ()
    | some request =>
      let range ← readRaggedRange qoIndptr kvIndptr request
      if !((← raggedEndsMatch batchSize nnzQo nnzKv qoIndptr kvIndptr) &&
          range.inside nnzQo nnzKv queryRow) then return ()
      else
        let (qoLen, kvLen) ← compute range.lengths
        if ¬ qoLen ≤ kvLen then return ()
        else
          let count ← compute (range.causalTokenCount (asUsize qoLen) (asUsize kvLen) queryRow)
          let kvHead ← compute (kvHeadOf numQueryHeads numKvHeads state)
          tokenParallelRow warps state thread (raggedTokenCut warps (asUsize range.kvStart) count)
            fun token => compute (kvPairOffset numKvHeads kvHead (thread % warpThreads) token)

end Kernels

/-! ## What the guards read -/

/-- The lengths of the indptr arrays. -/
structure IndptrLens (len : KernelBuffer → Nat) (batchSize : Nat) (qoIndptr kvIndptr : Slice Int32) :
    Prop where
  qo : len .qoIndptr = qoIndptr.len
  kv : len .kvIndptr = kvIndptr.len
  qo_len : qoIndptr.len = batchSize + 1
  kv_len : kvIndptr.len = batchSize + 1
  batch_fits : batchSize + 1 < 2 ^ 64

/-- The range of a request as the kernels hold it. -/
def raggedRange (qoIndptr kvIndptr : Slice Int32) (request : Nat) : RaggedRange :=
  ⟨qoIndptr.int request, qoIndptr.int (request + 1), kvIndptr.int request,
    kvIndptr.int (request + 1)⟩

section Reads

variable {batchSize nnzQo nnzKv request : Nat} {qoIndptr kvIndptr : Slice Int32}
  {len : KernelBuffer → Nat} {own : Nat → Prop}
  (indptr : IndptrLens len batchSize qoIndptr kvIndptr)
include indptr

theorem readQo_safe {i : Nat} (h : i ≤ batchSize) :
    Safe (Contained len own) (readI32 .qoIndptr qoIndptr i) (· = qoIndptr.int i) :=
  readI32_safe (by have := indptr.qo_len; omega) indptr.qo rfl

theorem readKv_safe {i : Nat} (h : i ≤ batchSize) :
    Safe (Contained len own) (readI32 .kvIndptr kvIndptr i) (· = kvIndptr.int i) :=
  readI32_safe (by have := indptr.kv_len; omega) indptr.kv rfl

theorem raggedEndsMatch_safe :
    Safe (Contained len own) (raggedEndsMatch batchSize nnzQo nnzKv qoIndptr kvIndptr)
      fun passed => passed = true ↔ TiledEndsMatch nnzQo nnzKv qoIndptr kvIndptr batchSize := by
  refine (readQo_safe indptr (Nat.zero_le _)).step ?_
  split
  · rename_i start
    exact safe_pure (iff_of_false nofun fun ends => start ends.1)
  rename_i qoStart
  refine (readKv_safe indptr (Nat.zero_le _)).step ?_
  split
  · rename_i start
    exact safe_pure (iff_of_false nofun fun ends => start ends.2.1)
  rename_i kvStart
  refine (readQo_safe indptr le_rfl).step ?_
  split
  · rename_i total
    exact safe_pure (iff_of_false nofun fun ends => total ends.2.2.1)
  rename_i qoTotal
  refine (readKv_safe indptr le_rfl).step (safe_pure ?_)
  rw [decide_eq_true_eq]
  constructor
  · intro kvTotal
    exact ⟨not_not.mp qoStart, not_not.mp kvStart, not_not.mp qoTotal, kvTotal⟩
  · intro ends
    exact ends.2.2.2

theorem raggedRequest_safe (queryRow : Nat) :
    Safe (Contained len own) (raggedRequest batchSize qoIndptr queryRow)
      fun found => ∀ request, found = some request → request < batchSize := by
  have fits := indptr.batch_fits
  refine safe_searchEach (P := fun _ _ => True) trivial (fun _ _ => nofun) fun request _ _ small _ => ?_
  refine (safe_compute (addWord_ok (by omega))).step ((readQo_safe indptr (by omega)).step ?_)
  split
  · exact safe_pure trivial
  · refine safe_pure fun found same => ?_
    obtain rfl := Option.some.inj same
    omega

theorem readRaggedRange_safe (h : request < batchSize) :
    Safe (Contained len own) (readRaggedRange qoIndptr kvIndptr request)
      (· = raggedRange qoIndptr kvIndptr request) := by
  have fits := indptr.batch_fits
  refine (safe_compute (addWord_ok (by omega))).step ?_
  refine (readQo_safe indptr h.le).step ((readQo_safe indptr h).step ?_)
  exact (readKv_safe indptr h.le).step ((readKv_safe indptr h).step (safe_pure rfl))

end Reads

/-! ## Ranges inside -/

theorem indptrStart_small (indptr : Slice Int32) (i : Nat) : indptrStart indptr i < 2 ^ 31 := by
  have small := indptr.int_lt i
  unfold indptrStart
  omega

theorem raggedLengths_ok {qoIndptr kvIndptr : Slice Int32} {request : Nat}
    (qoNonneg : 0 ≤ qoIndptr.int request)
    (qoLt : qoIndptr.int request < qoIndptr.int (request + 1))
    (kvNonneg : 0 ≤ kvIndptr.int request)
    (kvLt : kvIndptr.int request < kvIndptr.int (request + 1)) :
    (raggedRange qoIndptr kvIndptr request).lengths =
      .ok (qoIndptr.int (request + 1) - qoIndptr.int request,
        kvIndptr.int (request + 1) - kvIndptr.int request) := by
  dsimp only [RaggedRange.lengths, raggedRange]
  rw [subSigned_ok (by omega) qoNonneg (qoIndptr.int_lt _) (qoIndptr.int_lt _), ok_bind,
    subSigned_ok (by omega) kvNonneg (kvIndptr.int_lt _) (kvIndptr.int_lt _)]
  rfl

/-- What the checks leave of the ranges: they are inside the query and the tokens, and the row is in
the query range. -/
structure RaggedRangeInside (nnzQo nnzKv : Nat) (qoIndptr kvIndptr : Slice Int32)
    (request queryRow : Nat) : Prop where
  qo_nonneg : 0 ≤ qoIndptr.int request
  qo_lt : qoIndptr.int request < qoIndptr.int (request + 1)
  kv_nonneg : 0 ≤ kvIndptr.int request
  kv_lt : kvIndptr.int request < kvIndptr.int (request + 1)
  kv_le : indptrStart kvIndptr (request + 1) ≤ nnzKv
  row_ge : indptrStart qoIndptr request ≤ queryRow
  row_lt : queryRow < indptrStart qoIndptr (request + 1)

section Inside

variable {nnzQo nnzKv request queryRow : Nat} {qoIndptr kvIndptr : Slice Int32}

theorem RaggedRangeInside.of_checks
    (h : (raggedRange qoIndptr kvIndptr request).inside nnzQo nnzKv queryRow = true) :
    RaggedRangeInside nnzQo nnzKv qoIndptr kvIndptr request queryRow := by
  rw [RaggedRange.inside, decide_eq_true_eq] at h
  obtain ⟨qoNonneg, qoLt, kvNonneg, kvLt, -, kvLe, rowGe, rowLt⟩ := h
  dsimp only [raggedRange] at *
  refine ⟨qoNonneg, qoLt, kvNonneg, kvLt, ?_, ?_, ?_⟩
  · rwa [asUsize_int (by omega)] at kvLe
  · rwa [asUsize_int qoNonneg] at rowGe
  · rwa [asUsize_int (by omega)] at rowLt

variable (range : RaggedRangeInside nnzQo nnzKv qoIndptr kvIndptr request queryRow)
include range

theorem RaggedRangeInside.qoLen :
    asUsize (qoIndptr.int (request + 1) - qoIndptr.int request) = indptrLen qoIndptr request :=
  asUsize_int_sub range.qo_nonneg range.qo_lt

theorem RaggedRangeInside.kvLen :
    asUsize (kvIndptr.int (request + 1) - kvIndptr.int request) = indptrLen kvIndptr request :=
  asUsize_int_sub range.kv_nonneg range.kv_lt

theorem RaggedRangeInside.lengths : (raggedRange qoIndptr kvIndptr request).lengths =
    .ok (qoIndptr.int (request + 1) - qoIndptr.int request,
      kvIndptr.int (request + 1) - kvIndptr.int request) :=
  raggedLengths_ok range.qo_nonneg range.qo_lt range.kv_nonneg range.kv_lt

theorem RaggedRangeInside.kvStart_lt :
    indptrStart kvIndptr request < indptrStart kvIndptr (request + 1) := by
  have nonneg := range.kv_nonneg
  have lt := range.kv_lt
  unfold indptrStart
  omega

variable (causal : indptrLen qoIndptr request ≤ indptrLen kvIndptr request)
include causal

theorem RaggedRangeInside.causalKvEnd_ok :
    (raggedRange qoIndptr kvIndptr request).causalKvEnd (indptrLen qoIndptr request)
      (indptrLen kvIndptr request) queryRow = .ok (raggedCausalEnd qoIndptr kvIndptr request queryRow) ∧
    raggedCausalEnd qoIndptr kvIndptr request queryRow ≤ nnzKv := by
  have qoSmall := indptrStart_small qoIndptr (request + 1)
  have kvSmall := indptrStart_small kvIndptr (request + 1)
  have rowGe := range.row_ge
  have rowLt := range.row_lt
  have kvLe := range.kv_le
  have kvLt := range.kvStart_lt
  unfold RaggedRange.causalKvEnd raggedCausalEnd causalCount raggedRange
  dsimp only
  rw [asUsize_int range.qo_nonneg, asUsize_int range.kv_nonneg]
  unfold indptrLen at causal ⊢
  rw [subWord_ok rowGe, ok_bind, addWord_ok (by omega), ok_bind, subWord_ok (by omega), ok_bind,
    addWord_ok (by omega), ok_bind, addWord_ok (by omega)]
  exact ⟨congrArg Except.ok (by omega), by omega⟩

theorem RaggedRangeInside.causalTokenCount_ok :
    (raggedRange qoIndptr kvIndptr request).causalTokenCount (indptrLen qoIndptr request)
      (indptrLen kvIndptr request) queryRow =
        .ok (causalCount qoIndptr (indptrLen kvIndptr request) request queryRow) ∧
    indptrStart kvIndptr request +
      causalCount qoIndptr (indptrLen kvIndptr request) request queryRow ≤ nnzKv := by
  have qoSmall := indptrStart_small qoIndptr (request + 1)
  have kvSmall := indptrStart_small kvIndptr (request + 1)
  have rowGe := range.row_ge
  have rowLt := range.row_lt
  have kvLe := range.kv_le
  have kvLt := range.kvStart_lt
  unfold RaggedRange.causalTokenCount causalCount raggedRange
  dsimp only
  rw [asUsize_int range.qo_nonneg]
  unfold indptrLen at causal ⊢
  rw [subWord_ok rowGe, ok_bind, subWord_ok causal, ok_bind, addWord_ok (by omega), ok_bind,
    addWord_ok (by omega)]
  exact ⟨rfl, by omega⟩

end Inside

/-! ## Kernels -/

theorem raggedTokenStart_le {warps causalKvStart causalTokenCount part : Nat} (h : part ≤ warps) :
    raggedTokenStart warps causalKvStart causalTokenCount part ≤ causalKvStart + causalTokenCount :=
  Nat.add_le_add_left (floorCut_le h) _

theorem raggedTokenCut_ok {warps causalKvStart causalTokenCount part : Nat} (hw : 0 < warps)
    (h : part ≤ warps) (le : warps ≤ 16) (fits : causalKvStart + causalTokenCount < 2 ^ 59) :
    raggedTokenCut warps causalKvStart causalTokenCount part =
      .ok (raggedTokenStart warps causalKvStart causalTokenCount part) := by
  have inside : raggedTokenStart warps causalKvStart causalTokenCount part ≤ _ := raggedTokenStart_le h
  unfold raggedTokenStart at inside ⊢
  rw [raggedTokenCut, tokenCut_ok hw h le (by omega), ok_bind, addWord_ok (by omega)]

section Kernels

variable {spec : Bf16RaggedPrefillSpec} {qoIndptr kvIndptr : Slice Int32} {len : KernelBuffer → Nat}
  (lens : AttentionLens len spec.lseNumel spec.nnzKv spec.numKvHeads)
  (indptr : IndptrLens len spec.batchSize qoIndptr kvIndptr) (results : ResultLens len spec.lseNumel)
include lens indptr results

/-- A block of the direct kernel writes its own row only. -/
theorem raggedPrefill_safe (state lane : Nat) :
    Safe (Contained len (OwnRow state))
      (raggedPrefill spec.batchSize spec.nnzQo spec.nnzKv spec.numQueryHeads spec.numKvHeads qoIndptr
        kvIndptr state lane) fun _ => True := by
  refine (safe_compute lens.rows_ok).step ?_
  split
  · exact safe_pure trivial
  rename_i inside
  rw [not_or, not_le, not_le] at inside
  obtain ⟨hs, hl⟩ : state < spec.lseNumel ∧ lane < 32 := inside
  refine (raggedEndsMatch_safe indptr).bind fun ends _ => ?_
  split
  · exact safe_pure trivial
  refine (safe_compute (divWord_ok spec.queryHeads_pos)).step ?_
  refine (raggedRequest_safe indptr _).bind ?_
  rintro (_ | request) found
  · exact safe_pure trivial
  refine (readRaggedRange_safe indptr (found request rfl)).step ?_
  split
  · exact safe_pure trivial
  rename_i checked
  have range := RaggedRangeInside.of_checks (by simpa using checked)
  refine (safe_compute range.lengths).step ?_
  dsimp only
  rw [range.qoLen, range.kvLen]
  split
  · exact safe_pure trivial
  rename_i causal
  obtain ⟨causalEnd, le⟩ := range.causalKvEnd_ok (Nat.le_of_not_lt causal)
  obtain ⟨kvHead, hk, head⟩ := kvHeadOf_ok spec.queryHeads_pos spec.kvHeads_pos spec.group state
  refine (safe_compute causalEnd).step ((safe_compute head).step ?_)
  refine (safe_compute (rowPairs_ok hs hl lens.query_fits)).step ((loadQuery_safe lens hs hl).step ?_)
  have owned : OwnRow state state := rfl
  refine Safe.step (r := ()) (safe_forEach fun token _ before => ?_) ?_
  · have small : token < spec.nnzKv := before.trans_le le
    refine (safe_compute (kvPairOffset_ok small hk (by omega) lens.kv_fits)).step ?_
    exact loadKeyValue_safe lens small hk hl
  · exact (storeResult_safe results hs hl owned).mono fun _ _ => trivial

/-- So does a block of a token-parallel kernel. -/
theorem raggedPrefillTokenParallel_safe {warps : Nat} (hw : 0 < warps) (le : warps ≤ 16)
    (shared : len .partialStates = warps * 130) (state : Nat) {thread : Nat}
    (ht : thread < warps * 32) :
    Safe (Contained len (OwnRow state))
      (raggedPrefillTokenParallel spec.batchSize spec.nnzQo spec.nnzKv spec.numQueryHeads
        spec.numKvHeads qoIndptr kvIndptr warps state thread) fun _ => True := by
  have warp : thread / 32 < warps := by omega
  refine (safe_compute lens.rows_ok).step ?_
  split
  · exact safe_pure trivial
  rename_i inside
  have hs : state < spec.lseNumel := Nat.lt_of_not_le inside
  refine (safe_compute (divWord_ok spec.queryHeads_pos)).step ?_
  refine (raggedRequest_safe indptr _).bind ?_
  rintro (_ | request) found
  · exact safe_pure trivial
  refine (readRaggedRange_safe indptr (found request rfl)).step ?_
  refine (raggedEndsMatch_safe indptr).bind fun ends _ => ?_
  split
  · exact safe_pure trivial
  rename_i checked
  rw [Bool.not_eq_true', Bool.not_eq_false, Bool.and_eq_true] at checked
  have range := RaggedRangeInside.of_checks checked.2
  refine (safe_compute range.lengths).step ?_
  dsimp only
  split
  · exact safe_pure trivial
  rename_i causal
  have ordered : indptrLen qoIndptr request ≤ indptrLen kvIndptr request := by
    have qoNonneg := range.qo_nonneg
    have kvNonneg := range.kv_nonneg
    unfold indptrLen indptrStart
    omega
  rw [range.qoLen, range.kvLen]
  obtain ⟨count, inside⟩ := range.causalTokenCount_ok ordered
  obtain ⟨kvHead, hk, head⟩ := kvHeadOf_ok spec.queryHeads_pos spec.kvHeads_pos spec.group state
  refine (safe_compute count).step ((safe_compute head).step ?_)
  have kvStart : asUsize (raggedRange qoIndptr kvIndptr request).kvStart =
      indptrStart kvIndptr request := asUsize_int range.kv_nonneg
  rw [kvStart]
  have kvSmall : spec.nnzKv < 2 ^ 59 := by
    have := spec.kv_lt
    omega
  have owned : OwnRow state state := rfl
  refine (tokenParallelRow_safe lens results shared le hs ht hk owned
    (fun part before => raggedTokenCut_ok hw before le (inside.trans_lt kvSmall)) ?_).mono
    fun _ _ => trivial
  intro token _ before
  have lane : thread % 32 < 64 := by omega
  have small : token < spec.nnzKv :=
    (before.trans_le (raggedTokenStart_le (by omega))).trans_le inside
  exact (safe_compute (kvPairOffset_ok small hk lane lens.kv_fits)).mono
    fun _ eq => ⟨token, small, eq⟩

end Kernels

end LoomKernels.Memory
