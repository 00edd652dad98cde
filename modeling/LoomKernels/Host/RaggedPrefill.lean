import LoomKernels.Host.Indptr
import LoomKernels.Host.ReferenceRow

/-!
# Ragged causal prefill

Two indptr arrays cut the query rows and the key/value rows into requests. The mask is aligned at
the bottom right: the last query row of a request sees all its tokens, the row before it one token
less, and so on; `raggedCausalEnd` is where the tokens of a row end. `RaggedValid` says what the
validator establishes, and a `Bf16RaggedPrefillMetadata` carries it.

The reference computes the attention of every query row and head over the tokens from the start of
its request to the causal end (`raggedPrefillBf16Reference_exact`). Its row and head loops are those
of the paged reference (`prefillRequest`).
-/

namespace LoomKernels

/-! ## Specification -/

/-- A ragged prefill contract that `new` accepts. -/
structure Bf16RaggedPrefillSpec where
  batchSize : Nat
  nnzQo : Nat
  nnzKv : Nat
  numQueryHeads : Nat
  numKvHeads : Nat
  batch_pos : 0 < batchSize
  qo_pos : 0 < nnzQo
  kv_pos : 0 < nnzKv
  queryHeads_pos : 0 < numQueryHeads
  kvHeads_pos : 0 < numKvHeads
  group : numQueryHeads % numKvHeads = 0
  qo_lt : nnzQo < 2 ^ 31
  kv_lt : nnzKv < 2 ^ 31
  batch_fits : batchSize + 1 < usizeSize
  query_fits : nnzQo * numQueryHeads * singleDecodeHeadDim < usizeSize
  kv_fits : nnzKv * numKvHeads * singleDecodeHeadDim < usizeSize

namespace Bf16RaggedPrefillSpec

def new (batchSize nnzQo nnzKv numQueryHeads numKvHeads headDim : Nat) :
    Host Bf16RaggedPrefillSpec :=
  if zero : batchSize = 0 ∨ nnzQo = 0 ∨ nnzKv = 0 ∨ numQueryHeads = 0 ∨ numKvHeads = 0 ∨
      headDim = 0 then fail .zeroDimension
  else if dim : headDim ≠ singleDecodeHeadDim then
    fail (.unsupportedHeadDimension singleDecodeHeadDim headDim)
  else if group : numQueryHeads % numKvHeads ≠ 0 then
    fail (.invalidHeadMapping numQueryHeads numKvHeads)
  -- two `i32::try_from`, a `checked_add` and two chains of `checked_mul` with one error; each last
  -- product bounds the others
  else if fits : nnzQo < 2 ^ 31 ∧ nnzKv < 2 ^ 31 ∧ batchSize + 1 < usizeSize ∧
      nnzQo * numQueryHeads * headDim < usizeSize ∧ nnzKv * numKvHeads * headDim < usizeSize then
    have dim := headDim_supported dim
    .ok {
      batchSize, nnzQo, nnzKv, numQueryHeads, numKvHeads
      batch_pos := by omega
      qo_pos := by omega
      kv_pos := by omega
      queryHeads_pos := by omega
      kvHeads_pos := by omega
      group := heads_divide group
      qo_lt := fits.1
      kv_lt := fits.2.1
      batch_fits := fits.2.2.1
      query_fits := dim ▸ fits.2.2.2.1
      kv_fits := dim ▸ fits.2.2.2.2 }
  else fail .elementCountOverflow

/-- `new` accepts every specification there is. -/
theorem new_self (spec : Bf16RaggedPrefillSpec) :
    new spec.batchSize spec.nnzQo spec.nnzKv spec.numQueryHeads spec.numKvHeads
      singleDecodeHeadDim = .ok spec := by
  have h1 := spec.batch_pos
  have h2 := spec.qo_pos
  have h3 := spec.kv_pos
  have h4 := spec.queryHeads_pos
  have h5 := spec.kvHeads_pos
  rw [new, dif_neg (by simp only [singleDecodeHeadDim]; omega), dif_neg (by simp),
    dif_neg (not_not.mpr spec.group),
    dif_pos ⟨spec.qo_lt, spec.kv_lt, spec.batch_fits, spec.query_fits, spec.kv_fits⟩]

variable (spec : Bf16RaggedPrefillSpec)

def gqaGroupSize : Nat := spec.numQueryHeads / spec.numKvHeads

def queryNumel : Nat := spec.nnzQo * spec.numQueryHeads * singleDecodeHeadDim

def kvNumel : Nat := spec.nnzKv * spec.numKvHeads * singleDecodeHeadDim

def outputNumel : Nat := spec.queryNumel

def lseNumel : Nat := spec.nnzQo * spec.numQueryHeads

def indptrNumel : Nat := spec.batchSize + 1

def kvHeadForQueryHead (queryHead : Nat) : Option Nat :=
  if queryHead < spec.numQueryHeads then some (queryHead / spec.gqaGroupSize) else none

end Bf16RaggedPrefillSpec

/-! ## Metadata -/

/-- One request of `validate_indptr`. -/
def checkIndptrRequest (buffer : String) (indptr : Slice Int32) (request : Nat) : Host Unit :=
  let start := indptr.int request
  let stop := indptr.int (request + 1)
  do
    ensure (start ≤ stop) (.nonMonotonicIndptr buffer request start stop)
    ensure (stop ≠ start) (.emptyRaggedRequest buffer request)

def validateIndptr (buffer : String) (indptr : Slice Int32) (expectedTotal : Nat) : Host Unit := do
  ensure (indptr.int 0 = 0) (.invalidIndptrStart buffer (indptr.int 0))
  checkRange 0 (indptr.len - 1) (checkIndptrRequest buffer indptr)
  let actualTotal ← okOr (usizeTryFrom (indptr.int (indptr.len - 1))) .elementCountOverflow
  requireLen buffer actualTotal expectedTotal

theorem validateIndptr_eq_ok {buffer : String} {indptr : Slice Int32} {count total : Nat}
    (len : indptr.len = count + 1) :
    validateIndptr buffer indptr total = .ok () ↔ IndptrWellFormed count total indptr := by
  simp only [validateIndptr, checkIndptrRequest, check_bind_eq_ok, okOr_bind_eq_ok, ensure_eq_ok,
    requireLen_eq_ok, checkRange_ok_iff, usizeTryFrom_eq_some, len, Nat.add_sub_cancel]
  constructor
  · rintro ⟨start, requests, actual, htotal, rfl⟩
    refine ⟨len, start, fun r hr => ?_, htotal⟩
    have := requests r (Nat.zero_le _) hr
    omega
  · intro valid
    refine ⟨valid.start, fun r _ hr => ?_, _, valid.total, rfl⟩
    have := valid.increasing r hr
    omega

/-- Metadata that the validator accepts. -/
structure RaggedValid (spec : Bf16RaggedPrefillSpec) (qoIndptr kvIndptr : Slice Int32) : Prop where
  qo : IndptrWellFormed spec.batchSize spec.nnzQo qoIndptr
  kv : IndptrWellFormed spec.batchSize spec.nnzKv kvIndptr
  causal : ∀ request < spec.batchSize, indptrLen qoIndptr request ≤ indptrLen kvIndptr request

/-- The check that a request has no more query rows than tokens. -/
def checkRaggedRequest (qoIndptr kvIndptr : Slice Int32) (request : Nat) : Host Unit :=
  let qoLen := asUsize (qoIndptr.int (request + 1) - qoIndptr.int request)
  let kvLen := asUsize (kvIndptr.int (request + 1) - kvIndptr.int request)
  ensure (qoLen ≤ kvLen) (.raggedQueryLongerThanKv request qoLen kvLen)

/-- The checks of `validate_metadata`. -/
def Bf16RaggedPrefillSpec.checkMetadata (spec : Bf16RaggedPrefillSpec)
    (qoIndptr kvIndptr : Slice Int32) : Host Unit := do
  requireLen "qo_indptr" qoIndptr.len spec.indptrNumel
  requireLen "kv_indptr" kvIndptr.len spec.indptrNumel
  validateIndptr "qo_indptr" qoIndptr spec.nnzQo
  validateIndptr "kv_indptr" kvIndptr spec.nnzKv
  checkRange 0 spec.batchSize (checkRaggedRequest qoIndptr kvIndptr)

theorem Bf16RaggedPrefillSpec.checkMetadata_eq_ok (spec : Bf16RaggedPrefillSpec)
    {qoIndptr kvIndptr : Slice Int32} :
    spec.checkMetadata qoIndptr kvIndptr = .ok () ↔ RaggedValid spec qoIndptr kvIndptr := by
  simp only [checkMetadata, check_bind_eq_ok, requireLen_eq_ok, checkRange_ok_iff,
    checkRaggedRequest, ensure_eq_ok]
  constructor
  · rintro ⟨qoLen, kvLen, hqo, hkv, requests⟩
    have qo := (validateIndptr_eq_ok qoLen).mp hqo
    have kv := (validateIndptr_eq_ok kvLen).mp hkv
    refine ⟨qo, kv, fun r hr => ?_⟩
    rw [← qo.asUsize_len hr, ← kv.asUsize_len hr]
    exact requests r (Nat.zero_le _) hr
  · intro valid
    refine ⟨valid.qo.len, valid.kv.len, (validateIndptr_eq_ok valid.qo.len).mpr valid.qo,
      (validateIndptr_eq_ok valid.kv.len).mpr valid.kv, fun r _ hr => ?_⟩
    rw [valid.qo.asUsize_len hr, valid.kv.asUsize_len hr]
    exact valid.causal r hr

/-- Validated metadata of one invocation. -/
structure Bf16RaggedPrefillMetadata where
  spec : Bf16RaggedPrefillSpec
  qoIndptr : Slice Int32
  kvIndptr : Slice Int32
  valid : RaggedValid spec qoIndptr kvIndptr

def Bf16RaggedPrefillSpec.validateMetadata (spec : Bf16RaggedPrefillSpec)
    (qoIndptr kvIndptr : Slice Int32) : Host Bf16RaggedPrefillMetadata :=
  match checked : spec.checkMetadata qoIndptr kvIndptr with
  | .ok () => .ok ⟨spec, qoIndptr, kvIndptr, spec.checkMetadata_eq_ok.mp checked⟩
  | .error e => .error e

theorem Bf16RaggedPrefillSpec.validateMetadata_ok (spec : Bf16RaggedPrefillSpec)
    {qoIndptr kvIndptr : Slice Int32} (valid : RaggedValid spec qoIndptr kvIndptr) :
    spec.validateMetadata qoIndptr kvIndptr = .ok ⟨spec, qoIndptr, kvIndptr, valid⟩ := by
  have checked := spec.checkMetadata_eq_ok.mpr valid
  unfold validateMetadata
  split
  · rfl
  · simp_all

theorem Bf16RaggedPrefillSpec.validateMetadata_eq_ok (spec : Bf16RaggedPrefillSpec)
    {qoIndptr kvIndptr : Slice Int32} {metadata : Bf16RaggedPrefillMetadata} :
    spec.validateMetadata qoIndptr kvIndptr = .ok metadata ↔
      ∃ valid, metadata = ⟨spec, qoIndptr, kvIndptr, valid⟩ := by
  constructor
  · unfold validateMetadata
    split
    · rename_i checked
      intro h
      exact ⟨spec.checkMetadata_eq_ok.mp checked, (Except.ok.inj h).symm⟩
    · intro h
      cases h
  · rintro ⟨valid, rfl⟩
    exact spec.validateMetadata_ok valid

namespace Bf16RaggedPrefillMetadata

variable (metadata : Bf16RaggedPrefillMetadata)

def requestRowRanges (request : Nat) : Option ((Nat × Nat) × (Nat × Nat)) :=
  if request ≥ metadata.spec.batchSize then none
  else some
    ((asUsize (metadata.qoIndptr.int request), asUsize (metadata.qoIndptr.int (request + 1))),
      (asUsize (metadata.kvIndptr.int request), asUsize (metadata.kvIndptr.int (request + 1))))

def causalKvEnd (request queryIndex : Nat) : Option Nat := do
  let ((qoStart, qoEnd), (kvStart, kvEnd)) ← metadata.requestRowRanges request
  let qoLen := qoEnd - qoStart
  let kvLen := kvEnd - kvStart
  if queryIndex ≥ qoLen then none else some (kvStart + kvLen - qoLen + queryIndex + 1)

end Bf16RaggedPrefillMetadata

/-- Where the tokens of a query row end, counted from the first token of its request. -/
def causalCount (qoIndptr : Slice Int32) (kvLen request queryRow : Nat) : Nat :=
  kvLen - indptrLen qoIndptr request + (queryRow - indptrStart qoIndptr request) + 1

/-- Where the tokens of a query row end. -/
def raggedCausalEnd (qoIndptr kvIndptr : Slice Int32) (request queryRow : Nat) : Nat :=
  indptrStart kvIndptr request +
    causalCount qoIndptr (indptrLen kvIndptr request) request queryRow

theorem lt_raggedCausalEnd (qoIndptr kvIndptr : Slice Int32) (request queryRow : Nat) :
    indptrStart kvIndptr request < raggedCausalEnd qoIndptr kvIndptr request queryRow :=
  Nat.lt_add_of_pos_right (Nat.succ_pos _)

theorem Bf16RaggedPrefillMetadata.requestRowRanges_eq (metadata : Bf16RaggedPrefillMetadata)
    {request : Nat} (h : request < metadata.spec.batchSize) :
    metadata.requestRowRanges request =
      some ((indptrStart metadata.qoIndptr request, indptrStart metadata.qoIndptr (request + 1)),
        (indptrStart metadata.kvIndptr request, indptrStart metadata.kvIndptr (request + 1))) := by
  rw [requestRowRanges, if_neg (by omega), metadata.valid.qo.asUsize_eq_start h.le,
    metadata.valid.qo.asUsize_eq_start h, metadata.valid.kv.asUsize_eq_start h.le,
    metadata.valid.kv.asUsize_eq_start h]

theorem Bf16RaggedPrefillMetadata.causalKvEnd_eq (metadata : Bf16RaggedPrefillMetadata)
    {request queryRow : Nat} (h : request < metadata.spec.batchSize)
    (lo : indptrStart metadata.qoIndptr request ≤ queryRow)
    (hi : queryRow < indptrStart metadata.qoIndptr (request + 1)) :
    metadata.causalKvEnd request (queryRow - indptrStart metadata.qoIndptr request) =
      some (raggedCausalEnd metadata.qoIndptr metadata.kvIndptr request queryRow) := by
  have causal := metadata.valid.causal request h
  simp only [causalKvEnd, metadata.requestRowRanges_eq h, Option.bind_eq_bind, Option.bind_some]
  rw [if_neg (by omega), Option.some.injEq]
  unfold raggedCausalEnd causalCount
  unfold indptrLen at *
  omega

/-! ## Reference -/

section Reference

variable {F B : Type} (ops : FloatOps F B)

/-- The row and head loops of one request, shared with the paged reference. The tokens of a row run
from `lo` to its causal end. -/
def prefillRequest (numQueryHeads : Nat) (kvHeadForQueryHead : Nat → Option Nat)
    (query key value : Nat → B) (qoStart qoEnd : Nat) (causalKvEnd : Nat → Option Nat)
    (kvOffset : Nat → Nat → Host Nat) (lo : Nat) (out : AttentionOut F B) :
    Host (AttentionOut F B) :=
  forRangeM qoStart qoEnd
    (fun queryRow out => do
      let kvEnd ← expect (causalKvEnd (queryRow - qoStart))
        "enumerated query row has a causal KV bound"
      forRangeM 0 numQueryHeads
        (fun queryHead out => do
          let row := queryRow * numQueryHeads + queryHead
          let kvHead ← expect (kvHeadForQueryHead queryHead)
            "enumerated query head is inside the validated specification"
          let s ← ops.attendRow ops.exp (ops.mul · ops.softmaxScale) query key value
            (row * singleDecodeHeadDim) (kvOffset kvHead) lo kvEnd
          return ops.storeRow row s (ops.naturalLse s) out)
        out)
    out

def raggedPrefillBf16Reference (query key value : Slice B) (qoIndptr kvIndptr : Slice Int32)
    (output : Slice B) (lse : Slice F) (spec : Bf16RaggedPrefillSpec) :
    Host (AttentionOut F B) := do
  requireLen "Q" query.len spec.queryNumel
  requireLen "K" key.len spec.kvNumel
  requireLen "V" value.len spec.kvNumel
  requireLen "O" output.len spec.outputNumel
  requireLen "LSE" lse.len spec.lseNumel
  let metadata ← spec.validateMetadata qoIndptr kvIndptr
  forRangeM 0 spec.batchSize
    (fun request out => do
      let ((qoStart, qoEnd), (kvStart, _)) ← expect (metadata.requestRowRanges request)
        "enumerated request has validated row ranges"
      prefillRequest ops spec.numQueryHeads spec.kvHeadForQueryHead query.get key.get value.get
        qoStart qoEnd (metadata.causalKvEnd request)
        (fun kvHead token => .ok ((token * spec.numKvHeads + kvHead) * singleDecodeHeadDim)) kvStart
        out)
    ⟨output.get, lse.get⟩

/-- The loops of one request store the states of its rows. -/
theorem prefillRequest_computed {state : Nat → SoftmaxState F Nat} {before out : AttentionOut F B}
    {query key value : Nat → B} {numQueryHeads qoStart qoEnd lo : Nat}
    {kvHeadForQueryHead causalKvEnd : Nat → Option Nat} {kvOffset : Nat → Nat → Host Nat}
    (kvHead : Nat → Nat) (off : Nat → Nat → Nat) (hi : Nat → Nat) (le : qoStart ≤ qoEnd)
    (computed : Computed ops state before (qoStart * numQueryHeads) out)
    (heads : ∀ head < numQueryHeads, kvHeadForQueryHead head = some (kvHead head))
    (bound : ∀ row, qoStart ≤ row → row < qoEnd → causalKvEnd (row - qoStart) = some (hi row))
    (offsets : ∀ row, qoStart ≤ row → row < qoEnd → ∀ head t, lo ≤ t → t < hi row →
      kvOffset head t = .ok (off head t))
    (rows : ∀ row, qoStart ≤ row → row < qoEnd → ∀ head < numQueryHeads,
      ops.attend query key value ((row * numQueryHeads + head) * singleDecodeHeadDim)
        (off (kvHead head)) lo (hi row) = state (row * numQueryHeads + head)) :
    ∃ out', prefillRequest ops numQueryHeads kvHeadForQueryHead query key value qoStart qoEnd
        causalKvEnd kvOffset lo out = .ok out' ∧
      Computed ops state before (qoEnd * numQueryHeads) out' := by
  refine forRangeM_invariant
    (P := fun row out => Computed ops state before (row * numQueryHeads) out) le computed ?_
  intro row out hlo hhi computed
  rw [bound row hlo hhi, expect_some, ok_bind, Nat.add_mul, Nat.one_mul]
  refine forRangeM_invariant
    (P := fun head out => Computed ops state before (row * numQueryHeads + head) out)
    (Nat.zero_le _) computed ?_
  intro head out _ hh computed
  rw [heads head hh, expect_some, ok_bind, attendRow_eq ops (offsets row hlo hhi (kvHead head)),
    ok_bind]
  exact ⟨_, rfl, storeRow_computed computed (rows row hlo hhi head hh)⟩

/-- The state that the reference normalizes for a row. -/
def Bf16RaggedPrefillSpec.rowState (spec : Bf16RaggedPrefillSpec) (query key value : Nat → B)
    (qoIndptr kvIndptr : Slice Int32) (row : Nat) : SoftmaxState F Nat :=
  let request := requestOf qoIndptr spec.batchSize (row / spec.numQueryHeads)
  ops.attend query key value (row * singleDecodeHeadDim)
    (fun token => (token * spec.numKvHeads + row % spec.numQueryHeads / spec.gqaGroupSize) *
      singleDecodeHeadDim)
    (indptrStart kvIndptr request)
    (raggedCausalEnd qoIndptr kvIndptr request (row / spec.numQueryHeads))

/-- The reference stores the states of all rows, whatever the arithmetic. -/
theorem raggedPrefillBf16Reference_computed (spec : Bf16RaggedPrefillSpec)
    {query key value output : Slice B} {lse : Slice F} {qoIndptr kvIndptr : Slice Int32}
    (hq : query.len = spec.queryNumel) (hk : key.len = spec.kvNumel)
    (hv : value.len = spec.kvNumel) (ho : output.len = spec.outputNumel)
    (hl : lse.len = spec.lseNumel) (valid : RaggedValid spec qoIndptr kvIndptr) :
    ∃ out, raggedPrefillBf16Reference ops query key value qoIndptr kvIndptr output lse spec =
        .ok out ∧
      Computed ops (spec.rowState ops query.get key.get value.get qoIndptr kvIndptr)
        ⟨output.get, lse.get⟩ spec.lseNumel out := by
  rw [raggedPrefillBf16Reference, requireLen_eq_ok.mpr hq, requireLen_eq_ok.mpr hk,
    requireLen_eq_ok.mpr hv, requireLen_eq_ok.mpr ho, requireLen_eq_ok.mpr hl,
    spec.validateMetadata_ok valid]
  simp only [ok_bind]
  rw [Bf16RaggedPrefillSpec.lseNumel, ← valid.qo.start_total]
  refine forRangeM_invariant
    (P := fun request out => Computed ops (spec.rowState ops query.get key.get value.get qoIndptr
      kvIndptr) ⟨output.get, lse.get⟩ (indptrStart qoIndptr request * spec.numQueryHeads) out)
    (Nat.zero_le _) (by rw [valid.qo.start_zero, Nat.zero_mul]; exact computed_zero _ _) ?_
  intro request out _ hr computed
  rw [Bf16RaggedPrefillMetadata.requestRowRanges_eq _ hr, expect_some, ok_bind]
  refine prefillRequest_computed ops (fun head => head / spec.gqaGroupSize)
    (fun kvHead token => (token * spec.numKvHeads + kvHead) * 128)
    (raggedCausalEnd qoIndptr kvIndptr request) (valid.qo.start_lt hr).le computed
    (fun head hh => if_pos hh)
    (fun row hlo hhi => Bf16RaggedPrefillMetadata.causalKvEnd_eq ⟨spec, qoIndptr, kvIndptr, valid⟩ hr
      hlo hhi)
    (fun _ _ _ _ _ _ _ => rfl) fun row hlo hhi head hh => ?_
  rw [Bf16RaggedPrefillSpec.rowState, row_div hh, row_mod hh, valid.qo.requestOf_eq hr hlo hhi]

end Reference

section Exact

variable {K : Type} [Field K] [LinearOrder K] [ExactExp K]

/-- The tokens of a range of rows, for one query row and key/value head. -/
def raggedTokens (query key value : Nat → K) (numKvHeads row kvHead lo hi : Nat) :
    List (Token K (Fin 128)) :=
  rowTokens scoreLog2 query key value (row * 128)
    (fun token => (token * numKvHeads + kvHead) * 128) lo hi

/-- The tokens that row `query_row * num_query_heads + query_head` attends to. -/
def Bf16RaggedPrefillSpec.tokensOfRow (spec : Bf16RaggedPrefillSpec) (query key value : Nat → K)
    (qoIndptr kvIndptr : Slice Int32) (row : Nat) : List (Token K (Fin 128)) :=
  let request := requestOf qoIndptr spec.batchSize (row / spec.numQueryHeads)
  raggedTokens query key value spec.numKvHeads row (row % spec.numQueryHeads / spec.gqaGroupSize)
    (indptrStart kvIndptr request)
    (raggedCausalEnd qoIndptr kvIndptr request (row / spec.numQueryHeads))

variable [IsStrictOrderedRing K]

/-- The reference computes, for every query row and head, the attention of the row's tokens. -/
theorem raggedPrefillBf16Reference_exact (spec : Bf16RaggedPrefillSpec)
    {query key value output lse : Slice K} {qoIndptr kvIndptr : Slice Int32}
    (hq : query.len = spec.queryNumel) (hk : key.len = spec.kvNumel)
    (hv : value.len = spec.kvNumel) (ho : output.len = spec.outputNumel)
    (hl : lse.len = spec.lseNumel) (valid : RaggedValid spec qoIndptr kvIndptr) :
    ∃ out, raggedPrefillBf16Reference (exactOps K) query key value qoIndptr kvIndptr output lse spec =
        .ok out ∧
      Filled (spec.tokensOfRow query.get key.get value.get qoIndptr kvIndptr) ⟨output.get, lse.get⟩
        spec.lseNumel out := by
  obtain ⟨out, run, computed⟩ :=
    raggedPrefillBf16Reference_computed (exactOps K) spec hq hk hv ho hl valid
  exact ⟨out, run, computed.filled fun row _ =>
    ⟨_, _, _, _, _, _, _, lt_raggedCausalEnd _ _ _ _, rfl, rfl⟩⟩

end Exact

end LoomKernels
