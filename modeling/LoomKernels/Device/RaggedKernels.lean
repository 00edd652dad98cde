import LoomKernels.Device.TokenParallel
import LoomKernels.Host.RaggedPrefill

/-!
# Ragged prefill kernels

The direct kernel gives a row to one warp, the token-parallel ones split it over 8 or 16 warps. Each
block finds the request of its query row by a search through `qo_indptr`, checks the ranges of this
request, and returns when something is wrong. The tiled kernel has modules of its own.

The guards fault on no contents of the two indptr arrays (`raggedDirectGuard_total`,
`raggedTokenParallelGuard_total`), and on validated metadata they find the row's tokens
(`raggedDirectGuard_valid`, `raggedTokenParallelGuard_valid`).
-/

namespace LoomKernels

/-- `TOKEN_PARALLEL_8_WARPS` -/
abbrev tokenParallel8Warps : Nat := 8

/-- `TOKEN_PARALLEL_16_WARPS` -/
abbrev tokenParallel16Warps : Nat := 16

/-! ## Guards -/

/-- One pass of the search for the request of a query row. -/
def raggedSearch (qoIndptr : Slice Int32) (queryRow request : Nat) : DeviceM (Unit ⊕ Option Nat) := do
  let stop ← qoIndptr.read (request + 1)
  if queryRow ≥ asUsize stop then return .inl () else return .inr (some request)

/-- The guard of the direct kernel: where the tokens of the block's row start and end, or `none` where
the kernel returns. -/
def raggedDirectGuard (batchSize nnzQo nnzKv numQueryHeads : Nat) (qoIndptr kvIndptr : Slice Int32)
    (state lane : Nat) : DeviceM (Option (Nat × Nat)) := do
  if state ≥ nnzQo * numQueryHeads ∨ lane ≥ warpThreads then return none
  else
    let firstQo ← qoIndptr.read 0
    let firstKv ← kvIndptr.read 0
    let lastQo ← qoIndptr.read batchSize
    let lastKv ← kvIndptr.read batchSize
    if firstQo ≠ 0 ∨ firstKv ≠ 0 ∨ lastQo ≠ asI32 nnzQo ∨ lastKv ≠ asI32 nnzKv then return none
    else
      let queryRow := state / numQueryHeads
      match ← searchM (fun request _ => raggedSearch qoIndptr queryRow request) none batchSize 0 () with
      | none => return none
      | some request =>
        let qoStart ← qoIndptr.read request
        let qoEnd ← qoIndptr.read (request + 1)
        let kvStart ← kvIndptr.read request
        let kvEnd ← kvIndptr.read (request + 1)
        if qoStart < 0 ∨ qoEnd ≤ qoStart ∨ kvStart < 0 ∨ kvEnd ≤ kvStart ∨ asUsize qoEnd > nnzQo ∨
            asUsize kvEnd > nnzKv ∨ queryRow < asUsize qoStart ∨ queryRow ≥ asUsize qoEnd then
          return none
        else
          let qoLen := asUsize (qoEnd - qoStart)
          let kvLen := asUsize (kvEnd - kvStart)
          if qoLen > kvLen then return none
          else
            let queryIndex ← subUsize queryRow (asUsize qoStart)
            let maskedEnd ← subUsize (asUsize kvStart + kvLen) qoLen
            return some (asUsize kvStart, maskedEnd + queryIndex + 1)

/-- The guard of the token-parallel kernels: where the tokens of the block's row start, and their
number, or `none` where the kernel returns. -/
def raggedTokenParallelGuard (batchSize nnzQo nnzKv numQueryHeads : Nat)
    (qoIndptr kvIndptr : Slice Int32) (state : Nat) : DeviceM (Option (Nat × Nat)) := do
  if state ≥ nnzQo * numQueryHeads then return none
  else
    let queryRow := state / numQueryHeads
    match ← searchM (fun request _ => raggedSearch qoIndptr queryRow request) none batchSize 0 () with
    | none => return none
    | some request =>
      let qoStart ← qoIndptr.read request
      let qoEnd ← qoIndptr.read (request + 1)
      let kvStart ← kvIndptr.read request
      let kvEnd ← kvIndptr.read (request + 1)
      let firstQo ← qoIndptr.read 0
      let firstKv ← kvIndptr.read 0
      let lastQo ← qoIndptr.read batchSize
      let lastKv ← kvIndptr.read batchSize
      if firstQo = 0 ∧ firstKv = 0 ∧ lastQo = asI32 nnzQo ∧ lastKv = asI32 nnzKv ∧ qoStart ≥ 0 ∧
          qoEnd > qoStart ∧ kvStart ≥ 0 ∧ kvEnd > kvStart ∧ asUsize qoEnd ≤ nnzQo ∧
          asUsize kvEnd ≤ nnzKv ∧ queryRow ≥ asUsize qoStart ∧ queryRow < asUsize qoEnd ∧
          qoEnd - qoStart ≤ kvEnd - kvStart then
        let qoLen := asUsize (qoEnd - qoStart)
        let kvLen := asUsize (kvEnd - kvStart)
        let queryIndex ← subUsize queryRow (asUsize qoStart)
        let maskedTokens ← subUsize kvLen qoLen
        return some (asUsize kvStart, maskedTokens + queryIndex + 1)
      else return none

/-! ## Kernels -/

section Kernels

variable {F B : Type} (ops : DeviceOps F B)

/-- `ragged_prefill_bf16_nhd_causal` -/
def DeviceOps.raggedPrefillDirect (batchSize nnzQo nnzKv numQueryHeads numKvHeads : Nat)
    (softmaxScaleLog2 : F) (query key value : Nat → B) (qoIndptr kvIndptr : Slice Int32)
    (state lane : Nat) : DeviceM (AttentionWrites F B) := do
  match ← raggedDirectGuard batchSize nnzQo nnzKv numQueryHeads qoIndptr kvIndptr state lane with
  | none => return ⟨[], []⟩
  | some (kvStart, causalKvEnd) =>
    let groupSize := numQueryHeads / numKvHeads
    let kvHead := state % numQueryHeads / groupSize
    let s ← ops.tokenLoop softmaxScaleLog2 ops.zero query key value (state * singleDecodeHeadDim)
      (fun token => .ok ((token * numKvHeads + kvHead) * singleDecodeHeadDim)) kvStart causalKvEnd
    return ops.storeResult state s lane

/-- Where the tokens of warp `warp` start. -/
def raggedTokenStart (warps causalKvStart causalTokenCount warp : Nat) : Nat :=
  causalKvStart + floorCut causalTokenCount warps warp

/-- `ragged_prefill_bf16_nhd_causal_token_parallel_impl` -/
def DeviceOps.raggedPrefillTokenParallel
    (warps batchSize nnzQo nnzKv numQueryHeads numKvHeads : Nat) (softmaxScaleLog2 : F)
    (query key value : Nat → B) (qoIndptr kvIndptr : Slice Int32) (partialStates : Nat → F)
    (state thread : Nat) : DeviceM (AttentionWrites F B) := do
  match ← raggedTokenParallelGuard batchSize nnzQo nnzKv numQueryHeads qoIndptr kvIndptr state with
  | none => return ⟨[], []⟩
  | some (causalKvStart, causalTokenCount) =>
    let groupSize := numQueryHeads / numKvHeads
    let kvHead := state % numQueryHeads / groupSize
    ops.tokenParallelBlock warps (fun _ => ops.mergeNonempty)
      ⟨ops.negInf, ops.zero, fun _ => ops.zero⟩
      (fun warp => ops.tokenLoop softmaxScaleLog2 ops.negInf query key value
        (state * singleDecodeHeadDim)
        (fun token => .ok ((token * numKvHeads + kvHead) * singleDecodeHeadDim))
        (raggedTokenStart warps causalKvStart causalTokenCount warp)
        (raggedTokenStart warps causalKvStart causalTokenCount (warp + 1)))
      partialStates state thread

end Kernels

/-! ## Guards on any contents -/

section Total

variable {batchSize nnzQo nnzKv : Nat} {qoIndptr kvIndptr : Slice Int32}
  (qoLen : qoIndptr.len = batchSize + 1) (kvLen : kvIndptr.len = batchSize + 1)
include qoLen

theorem raggedSearch_total (row : Nat) :
    ∃ found, searchM (fun request _ => raggedSearch qoIndptr row request) none batchSize 0 () =
        .ok found ∧ ∀ request, found = some request → request < batchSize := by
  refine searchM_total (by simp) fun request _ hr _ => ?_
  have stopEntry : qoIndptr.read (request + 1) = .ok _ := Slice.read_ok (by omega)
  rw [raggedSearch, stopEntry, ok_bind]
  split
  · exact ⟨_, rfl, by simp⟩
  · refine ⟨_, rfl, ?_⟩
    rintro _ h _ rfl
    cases h
    omega

include kvLen

theorem raggedDirectGuard_total (numQueryHeads state lane : Nat) :
    ∃ found, raggedDirectGuard batchSize nnzQo nnzKv numQueryHeads qoIndptr kvIndptr state lane =
      .ok found := by
  have firstQo : qoIndptr.read 0 = .ok _ := Slice.read_ok (by omega)
  have firstKv : kvIndptr.read 0 = .ok _ := Slice.read_ok (by omega)
  have lastQo : qoIndptr.read batchSize = .ok _ := Slice.read_ok (by omega)
  have lastKv : kvIndptr.read batchSize = .ok _ := Slice.read_ok (by omega)
  rw [raggedDirectGuard]
  split
  · exact ⟨none, rfl⟩
  simp only [firstQo, firstKv, lastQo, lastKv, ok_bind]
  split
  · exact ⟨none, rfl⟩
  obtain ⟨found, search, inside⟩ := raggedSearch_total qoLen (state / numQueryHeads)
  rw [search, ok_bind]
  cases found with
  | none => exact ⟨none, rfl⟩
  | some request =>
    have hr := inside request rfl
    have qoStart : qoIndptr.read request = .ok _ := Slice.read_ok (by omega)
    have qoEnd : qoIndptr.read (request + 1) = .ok _ := Slice.read_ok (by omega)
    have kvStart : kvIndptr.read request = .ok _ := Slice.read_ok (by omega)
    have kvEnd : kvIndptr.read (request + 1) = .ok _ := Slice.read_ok (by omega)
    simp only [qoStart, qoEnd, kvStart, kvEnd, ok_bind]
    split
    · exact ⟨none, rfl⟩
    split
    · exact ⟨none, rfl⟩
    -- the checks that are passed keep both differences above zero
    rw [subUsize_ok (by omega), ok_bind, subUsize_ok (by omega)]
    exact ⟨_, rfl⟩

theorem raggedTokenParallelGuard_total (numQueryHeads state : Nat) :
    ∃ found, raggedTokenParallelGuard batchSize nnzQo nnzKv numQueryHeads qoIndptr kvIndptr state =
      .ok found := by
  rw [raggedTokenParallelGuard]
  split
  · exact ⟨none, rfl⟩
  obtain ⟨found, search, inside⟩ := raggedSearch_total qoLen (state / numQueryHeads)
  dsimp only
  rw [search, ok_bind]
  cases found with
  | none => exact ⟨none, rfl⟩
  | some request =>
    have hr := inside request rfl
    have qoStart : qoIndptr.read request = .ok _ := Slice.read_ok (by omega)
    have qoEnd : qoIndptr.read (request + 1) = .ok _ := Slice.read_ok (by omega)
    have kvStart : kvIndptr.read request = .ok _ := Slice.read_ok (by omega)
    have kvEnd : kvIndptr.read (request + 1) = .ok _ := Slice.read_ok (by omega)
    have firstQo : qoIndptr.read 0 = .ok _ := Slice.read_ok (by omega)
    have firstKv : kvIndptr.read 0 = .ok _ := Slice.read_ok (by omega)
    have lastQo : qoIndptr.read batchSize = .ok _ := Slice.read_ok (by omega)
    have lastKv : kvIndptr.read batchSize = .ok _ := Slice.read_ok (by omega)
    simp only [qoStart, qoEnd, kvStart, kvEnd, firstQo, firstKv, lastQo, lastKv, ok_bind]
    split
    · rename_i checks
      have lengths : asUsize (qoIndptr.int (request + 1) - qoIndptr.int request) ≤
          asUsize (kvIndptr.int (request + 1) - kvIndptr.int request) := by
        have := kvIndptr.int_lt (request + 1)
        unfold asUsize
        omega
      rw [subUsize_ok checks.2.2.2.2.2.2.2.2.2.2.1, ok_bind, subUsize_ok lengths]
      exact ⟨_, rfl⟩
    · exact ⟨none, rfl⟩

end Total

/-! ## Guards on validated metadata -/

section Valid

variable {spec : Bf16RaggedPrefillSpec} {qoIndptr kvIndptr : Slice Int32}

/-- The search ends at the request of the row. -/
theorem raggedSearch_valid {count nnzQo : Nat} (qo : IndptrWellFormed count nnzQo qoIndptr)
    {row request : Nat} (h : request < count) (lo : indptrStart qoIndptr request ≤ row)
    (hi : row < indptrStart qoIndptr (request + 1)) :
    searchM (fun request _ => raggedSearch qoIndptr row request) none count 0 () =
      .ok (some request) := by
  have len := qo.len
  have pass : ∀ r ≤ request, raggedSearch qoIndptr row r =
      .ok (if row ≥ indptrStart qoIndptr (r + 1) then .inl () else .inr (some r)) := by
    intro r hr
    have stopEntry : qoIndptr.read (r + 1) = .ok _ := Slice.read_ok (by omega)
    rw [raggedSearch, stopEntry, ok_bind, qo.asUsize_eq_start (show r + 1 ≤ count by omega)]
    split <;> rfl
  refine searchM_found (fun _ => ()) h (fun r hr => ?_) ?_
  · have := qo.start_mono (show r + 1 ≤ request from hr) h.le
    rw [pass r hr.le, if_pos (by omega)]
  · rw [pass request le_rfl, if_neg (by omega)]

/-- No request has more query rows than tokens, as the kernels check it. -/
theorem RaggedValid.lengths (valid : RaggedValid spec qoIndptr kvIndptr) {request : Nat}
    (h : request < spec.batchSize) :
    qoIndptr.int (request + 1) - qoIndptr.int request ≤
      kvIndptr.int (request + 1) - kvIndptr.int request := by
  have hsucc : request + 1 ≤ spec.batchSize := h
  have causal := valid.causal request h
  have qoLt := valid.qo.start_lt h
  have kvLt := valid.kv.start_lt h
  rw [valid.qo.int_eq_start h.le, valid.qo.int_eq_start hsucc, valid.kv.int_eq_start h.le,
    valid.kv.int_eq_start hsucc]
  unfold indptrLen at causal
  omega

variable (valid : RaggedValid spec qoIndptr kvIndptr) {state request : Nat}
  (h : request < spec.batchSize) (lo : indptrStart qoIndptr request ≤ state / spec.numQueryHeads)
  (hi : state / spec.numQueryHeads < indptrStart qoIndptr (request + 1))
include valid h lo hi

theorem raggedDirectGuard_valid {lane : Nat} (hl : lane < warpThreads) :
    raggedDirectGuard spec.batchSize spec.nnzQo spec.nnzKv spec.numQueryHeads qoIndptr kvIndptr state
        lane =
      .ok (some (indptrStart kvIndptr request,
        raggedCausalEnd qoIndptr kvIndptr request (state / spec.numQueryHeads))) := by
  have qo := valid.qo
  have kv := valid.kv
  have hsucc : request + 1 ≤ spec.batchSize := h
  have qoStop := qo.start_le_total hsucc
  have kvStop := kv.start_le_total hsucc
  have hstate : state < spec.nnzQo * spec.numQueryHeads :=
    (lt_rows_iff spec.queryHeads_pos).mp (hi.trans_le qoStop)
  have causal := valid.causal request h
  have qoGrows := qo.increasing request h
  have kvGrows := kv.increasing request h
  have qoNonneg := qo.int_nonneg h.le
  have kvNonneg := kv.int_nonneg h.le
  rw [raggedDirectGuard, if_neg (by omega)]
  simp only [qo.read_ok (Nat.zero_le _), kv.read_ok (Nat.zero_le _), qo.read_ok le_rfl,
    kv.read_ok le_rfl, ok_bind]
  rw [if_neg (by simp [qo.start, kv.start, qo.last, kv.last]), raggedSearch_valid qo h lo hi]
  simp only [qo.read_ok h.le, qo.read_ok hsucc, kv.read_ok h.le, kv.read_ok hsucc, ok_bind]
  rw [qo.asUsize_eq_start h.le, qo.asUsize_eq_start hsucc, kv.asUsize_eq_start h.le,
    kv.asUsize_eq_start hsucc, qo.asUsize_len h, kv.asUsize_len h, if_neg (by omega),
    if_neg (Nat.not_lt.mpr causal), subUsize_ok lo, ok_bind, subUsize_ok (by omega), ok_bind]
  have assoc : indptrStart kvIndptr request + indptrLen kvIndptr request -
        indptrLen qoIndptr request +
        (state / spec.numQueryHeads - indptrStart qoIndptr request) + 1 =
      raggedCausalEnd qoIndptr kvIndptr request (state / spec.numQueryHeads) := by
    unfold raggedCausalEnd causalCount
    omega
  rw [assoc]
  rfl

theorem raggedTokenParallelGuard_valid :
    raggedTokenParallelGuard spec.batchSize spec.nnzQo spec.nnzKv spec.numQueryHeads qoIndptr
        kvIndptr state =
      .ok (some (indptrStart kvIndptr request,
        causalCount qoIndptr (indptrLen kvIndptr request) request (state / spec.numQueryHeads))) := by
  have qo := valid.qo
  have kv := valid.kv
  have hsucc : request + 1 ≤ spec.batchSize := h
  have qoStop := qo.start_le_total hsucc
  have kvStop := kv.start_le_total hsucc
  have hstate : state < spec.nnzQo * spec.numQueryHeads :=
    (lt_rows_iff spec.queryHeads_pos).mp (hi.trans_le qoStop)
  have causal := valid.causal request h
  rw [raggedTokenParallelGuard, if_neg (by omega)]
  dsimp only
  rw [raggedSearch_valid qo h lo hi]
  simp only [qo.read_ok (Nat.zero_le _), kv.read_ok (Nat.zero_le _), qo.read_ok le_rfl,
    kv.read_ok le_rfl, qo.read_ok h.le, qo.read_ok hsucc, kv.read_ok h.le, kv.read_ok hsucc, ok_bind]
  rw [qo.asUsize_eq_start h.le, qo.asUsize_eq_start hsucc, kv.asUsize_eq_start h.le,
    kv.asUsize_eq_start hsucc, qo.asUsize_len h, kv.asUsize_len h,
    if_pos ⟨qo.start, kv.start, qo.last, kv.last, qo.int_nonneg h.le, qo.increasing request h,
      kv.int_nonneg h.le, kv.increasing request h, qoStop, kvStop, lo, hi,
      valid.lengths h⟩,
    subUsize_ok lo, ok_bind, subUsize_ok causal]
  rfl

end Valid

end LoomKernels
