import LoomKernels.Word.Rows

/-!
# The attention references on words of any size

The four attention references, on words of `w` bits and as programs over the two buffers they write.
On arguments that pass their checks none of them has a defect: each stores the rows that exact
arithmetic gives (`singleDecodeBf16Reference_ends` and its siblings). The paged decode reference can
still stop, in an `expect`, when the length of a request is not a word.
-/

namespace LoomKernels.Word

section Attention

variable {F B : Type} (ops : FloatOps F B) {w : Nat}

/-- The length checks that every attention reference starts with. -/
def requireBuffers (keyName valueName : String) (query key value : Slice B) (outputLen lseLen : Nat)
    (queryNumel kvNumel outputNumel lseNumel : Machine HostFailure Nat) :
    Machine HostFailure Unit := do
  lift (requireLen "Q" query.len (← queryNumel))
  lift (requireLen keyName key.len (← kvNumel))
  lift (requireLen valueName value.len (← kvNumel))
  lift (requireLen "O" outputLen (← outputNumel))
  lift (requireLen "LSE" lseLen (← lseNumel))

theorem requireBuffers_eq_ok {keyName valueName : String} {query key value : Slice B}
    {outputLen lseLen queryNumel kvNumel outputNumel lseNumel : Nat} :
    requireBuffers keyName valueName query key value outputLen lseLen (.ok queryNumel) (.ok kvNumel)
        (.ok outputNumel) (.ok lseNumel) = .ok () ↔
      query.len = queryNumel ∧ key.len = kvNumel ∧ value.len = kvNumel ∧ outputLen = outputNumel ∧
        lseLen = lseNumel := by
  simp only [requireBuffers, ok_bind, check_bind_eq_ok, lift_eq_ok, requireLen_eq_ok]

/-! ## Single decode -/

def singleDecodeBf16Reference (query key value : Slice B) (outputLen lseLen : Nat)
    (spec : Bf16SingleDecodeSpec w) : Program HostFailure (AttentionOut F B) Unit := do
  compute (requireBuffers "K" "V" query key value outputLen lseLen spec.queryNumel spec.kvNumel
    spec.outputNumel (.ok spec.lseNumel))
  forEach 0 lseLen fun queryHead =>
    referenceRow ops w spec.numQueryHeads spec.numKvHeads query key value outputLen lseLen queryHead
      queryHead (contiguousOffset w spec.numKvHeads) 0 spec.kvLen

/-- The state of a query head. -/
def Bf16SingleDecodeSpec.headState (spec : Bf16SingleDecodeSpec w) (query key value : Nat → B)
    (queryHead : Nat) : SoftmaxState F Nat :=
  ops.attend query key value (queryHead * singleDecodeHeadDim)
    (fun token => (token * spec.numKvHeads + queryHead / (spec.numQueryHeads / spec.numKvHeads)) *
      singleDecodeHeadDim) 0 spec.kvLen

/-- On buffers that pass the checks, the reference stores the states of all heads. -/
theorem singleDecodeBf16Reference_ends (spec : Bf16SingleDecodeSpec w) {query key value : Slice B}
    {outputLen lseLen : Nat}
    (accepted : requireBuffers "K" "V" query key value outputLen lseLen spec.queryNumel spec.kvNumel
      spec.outputNumel (.ok spec.lseNumel) = .ok ())
    (before : AttentionOut F B) {E : Halt HostFailure → AttentionOut F B → Prop} :
    Ends (singleDecodeBf16Reference ops query key value outputLen lseLen spec) before
      (fun _ out => Computed ops (spec.headState ops query.get key.get value.get) before
        spec.numQueryHeads out) E := by
  rw [singleDecodeBf16Reference, accepted, compute_ok, pure_bind]
  rw [spec.queryNumel_ok, spec.kvNumel_ok, spec.outputNumel_ok, requireBuffers_eq_ok] at accepted
  obtain ⟨hq, hk, hv, ho, rfl⟩ := accepted
  have shape : RowShape w spec.numQueryHeads spec.numKvHeads query key value outputLen
      spec.lseNumel :=
    ⟨spec.queryHeads_pos, spec.kvHeads_pos, spec.group, hq, hq ▸ spec.query_fits,
      hk ▸ spec.kv_product_fits, by rw [hv, hk], ho⟩
  refine ends_forEach (P := Computed ops _ before) (Nat.zero_le _) (computed_zero _ _) ?_
  intro head out _ hh computed
  have kvHead := kvHead_lt spec.queryHeads_pos spec.group spec.kvHeads_pos hh
  refine (referenceRow_ends ops shape hh hh (fun t _ ht => ?_) out).mono
    (fun _ _ stored => stored ▸ storeRow_computed computed rfl) fun _ _ h => h
  rw [hk]
  exact contiguousOffset_ok ht kvHead spec.kv_product_fits

/-! ## Paged decode -/

/-- The checks of the paged decode reference. -/
def checkDecode (query keyPages valuePages : Slice B)
    (pageIndptr pageIndices lastPageLen : Slice Int32) (outputLen lseLen : Nat)
    (spec : Bf16PagedBatchDecodeSpec w) : Machine HostFailure (PageTable w) := do
  requireBuffers "K_pages" "V_pages" query keyPages valuePages outputLen lseLen spec.queryNumel
    spec.kvPagesNumel spec.outputNumel spec.lseNumel
  spec.validatePageTable pageIndptr pageIndices lastPageLen

/-- The key/value offset of a logical token. -/
def PageTable.kvOffset (table : PageTable w) (request kvHead token : Nat) :
    Machine HostFailure Nat := do
  let slot ← lift (expect (← table.physicalPageForToken request token)
    "enumerated token is inside the validated request")
  slotOffset w table.spec.numKvHeads kvHead slot

def pagedBatchDecodeBf16Reference (query keyPages valuePages : Slice B)
    (pageIndptr pageIndices lastPageLen : Slice Int32) (outputLen lseLen : Nat)
    (spec : Bf16PagedBatchDecodeSpec w) : Program HostFailure (AttentionOut F B) Unit := do
  let table ← compute (checkDecode query keyPages valuePages pageIndptr pageIndices lastPageLen
    outputLen lseLen spec)
  forEach 0 spec.batchSize fun request => do
    let kvLen ← compute (do
      lift (expect (← table.requestKvLen request)
        "enumerated request has validated non-empty pages"))
    forEach 0 spec.numQueryHeads fun queryHead => do
      let row ← compute (do
        addWord w (← mulWord w request spec.numQueryHeads) queryHead)
      referenceRow ops w spec.numQueryHeads spec.numKvHeads query keyPages valuePages outputLen
        lseLen row queryHead (table.kvOffset request) 0 kvLen

/-- The row of a query head of a request, among rows that are words. -/
theorem row_ok {rows numQueryHeads r queryHead : Nat} (hr : r < rows)
    (hh : queryHead < numQueryHeads) (fits : rows * numQueryHeads < 2 ^ w) :
    (do addWord w (← mulWord w r numQueryHeads) queryHead : Machine HostFailure Nat) =
      .ok (r * numQueryHeads + queryHead) := by
  have row := rowMajor_lt hr hh
  rw [mulWord_ok (by omega), ok_bind, addWord_ok (by omega)]

/-- The state of a row whose tokens run from `lo` to `hi`, both given for each query row, and are
found through `off`, given for each query row and key/value head. -/
def rowState (numQueryHeads numKvHeads : Nat) (query key value : Nat → B)
    (off : Nat → Nat → Nat → Nat) (lo hi : Nat → Nat) (row : Nat) : SoftmaxState F Nat :=
  ops.attend query key value (row * singleDecodeHeadDim)
    (off (row / numQueryHeads) (row % numQueryHeads / (numQueryHeads / numKvHeads)))
    (lo (row / numQueryHeads)) (hi (row / numQueryHeads))

theorem rowState_row (numKvHeads : Nat) (query key value : Nat → B) (off : Nat → Nat → Nat → Nat)
    (lo hi : Nat → Nat) (r : Nat) {numQueryHeads head : Nat} (hh : head < numQueryHeads) :
    rowState ops numQueryHeads numKvHeads query key value off lo hi (r * numQueryHeads + head) =
      ops.attend query key value ((r * numQueryHeads + head) * singleDecodeHeadDim)
        (off r (head / (numQueryHeads / numKvHeads))) (lo r) (hi r) := by
  rw [rowState, row_div hh, row_mod hh]

/-- Where the tokens of a request lie in the page pool. -/
def pagedOff (numKvHeads : Nat) (pageIndptr pageIndices : Slice Int32) (request kvHead token : Nat) :
    Nat :=
  LoomKernels.slotOffset numKvHeads kvHead (pagedSlot pageIndptr pageIndices request token)

/-- A stop in an `expect`. -/
def Panics (e : Halt HostFailure) : Prop := ∃ message, e = .failed (.panic message)

/-- On arguments that pass the checks, the reference stores the states of all rows, or it stops in
an `expect` because the length of a request is not a word. -/
theorem pagedBatchDecodeBf16Reference_ends (spec : Bf16PagedBatchDecodeSpec w)
    {query keyPages valuePages : Slice B} {pageIndptr pageIndices lastPageLen : Slice Int32}
    {outputLen lseLen : Nat} {table : PageTable w}
    (accepted : checkDecode query keyPages valuePages pageIndptr pageIndices lastPageLen outputLen
      lseLen spec = .ok table) (before : AttentionOut F B) :
    Ends (pagedBatchDecodeBf16Reference ops query keyPages valuePages pageIndptr pageIndices
        lastPageLen outputLen lseLen spec) before
      (fun _ out => Computed ops
          (rowState ops spec.numQueryHeads spec.numKvHeads query.get keyPages.get valuePages.get
            (pagedOff spec.numKvHeads pageIndptr pageIndices) (fun _ => 0)
            (pagedKvLen pageIndptr lastPageLen))
          before lseLen out ∧
        ∀ request < spec.batchSize, KvLenFits w pageIndptr lastPageLen request)
      (fun e _ => Panics e ∧
        ¬ ∀ request < spec.batchSize, KvLenFits w pageIndptr lastPageLen request) := by
  rw [pagedBatchDecodeBf16Reference, accepted, compute_ok, pure_bind]
  rw [checkDecode, spec.queryNumel_ok, spec.kvPagesNumel_ok, spec.lseNumel_ok,
    Bf16PagedBatchDecodeSpec.outputNumel, spec.queryNumel_ok, check_bind_eq_ok,
    requireBuffers_eq_ok] at accepted
  obtain ⟨⟨hq, hk, hv, ho, rfl⟩, accepted⟩ := accepted
  obtain ⟨rfl, valid⟩ := spec.validatePageTable_eq_ok.mp accepted
  have rows_fit := mul_lt_of_mul_lt (show 0 < singleDecodeHeadDim by decide) spec.query_fits
  have shape : RowShape w spec.numQueryHeads spec.numKvHeads query keyPages valuePages outputLen
      (spec.batchSize * spec.numQueryHeads) :=
    ⟨spec.queryHeads_pos, spec.kvHeads_pos, spec.group, hq, hq ▸ spec.query_fits,
      hk ▸ spec.pages_fit, by rw [hv, hk], ho⟩
  refine ends_forEach
    (P := fun request out => Computed ops _ before (request * spec.numQueryHeads) out ∧
      ∀ r < request, KvLenFits w pageIndptr lastPageLen r)
    (Nat.zero_le _) ⟨by rw [Nat.zero_mul]; exact computed_zero _ _, nofun⟩ ?_
  rintro request out _ hr ⟨computed, fit⟩
  rw [valid.requestKvLen_ok, ok_bind]
  by_cases fits : KvLenFits w pageIndptr lastPageLen request
  · rw [if_pos ⟨hr, fits⟩, expect_some, lift_ok, compute_ok, pure_bind, Nat.add_mul, Nat.one_mul]
    have fit' : ∀ r < request + 1, KvLenFits w pageIndptr lastPageLen r := fun r h =>
      (Nat.lt_succ_iff_lt_or_eq.mp h).elim (fit r) fun same => same ▸ fits
    refine (ends_forEach
      (P := fun head => Computed ops _ before (request * spec.numQueryHeads + head))
      (Nat.zero_le _) computed ?_).mono (fun _ _ done => ⟨done, fit'⟩) fun _ _ h => h
    intro head out _ hh computed
    rw [row_ok hr hh rows_fit, compute_ok, pure_bind]
    have kvHead := kvHead_lt spec.queryHeads_pos spec.group spec.kvHeads_pos hh
    have state := rowState_row ops spec.numKvHeads query.get keyPages.get valuePages.get
      (pagedOff spec.numKvHeads pageIndptr pageIndices) (fun _ => 0)
      (pagedKvLen pageIndptr lastPageLen) request hh
    refine (referenceRow_ends ops shape (rowMajor_lt hr hh) hh (fun t _ ht => ?_) out).mono
      (fun _ _ stored => stored ▸ storeRow_computed computed state.symm) fun _ _ h => h
    have slot := valid.wellFormed.slot_lt hr ht
    rw [hk, PageTable.kvOffset, valid.physicalPageForToken_ok, ok_bind, if_pos ⟨⟨hr, fits⟩, ht⟩,
      expect_some, lift_ok, ok_bind]
    exact slotOffset_ok slot.1 slot.2 kvHead spec.pages_fit
  · rw [if_neg fun both => fits both.2, ends_bind, ends_compute]
    refine ⟨nofun, ?_⟩
    rintro _ ⟨⟩
    exact ⟨⟨_, rfl⟩, fun all => fits (all request hr)⟩

/-! ## Prefill -/

/-- The row and head loops of one request, shared by the two prefill references. The tokens of a row
run from `lo` to its causal end. -/
def prefillRequest (w numQueryHeads numKvHeads : Nat) (query key value : Slice B)
    (outputLen lseLen qoStart qoEnd : Nat) (causalKvEnd : Nat → Machine HostFailure (Option Nat))
    (kvOffset : Nat → Nat → Machine HostFailure Nat) (lo : Nat) :
    Program HostFailure (AttentionOut F B) Unit :=
  forEach qoStart qoEnd fun queryRow => do
    let kvEnd ← compute (do
      let queryIndex ← subWord queryRow qoStart
      lift (expect (← causalKvEnd queryIndex) "enumerated query row has a causal KV bound"))
    forEach 0 numQueryHeads fun queryHead => do
      let row ← compute (do
        addWord w (← mulWord w queryRow numQueryHeads) queryHead)
      referenceRow ops w numQueryHeads numKvHeads query key value outputLen lseLen row queryHead
        kvOffset lo kvEnd

/-- The loops of one request store the states of its rows. -/
theorem prefillRequest_ends {numQueryHeads numKvHeads rows outputLen qoStart qoEnd lo : Nat}
    {query key value : Slice B} {state : Nat → SoftmaxState F Nat} {before out : AttentionOut F B}
    {causalKvEnd : Nat → Machine HostFailure (Option Nat)}
    {kvOffset : Nat → Nat → Machine HostFailure Nat} (off : Nat → Nat → Nat) (hi : Nat → Nat)
    (shape : RowShape w numQueryHeads numKvHeads query key value outputLen (rows * numQueryHeads))
    (rows_fit : rows * numQueryHeads < 2 ^ w) (le : qoStart ≤ qoEnd) (end_le : qoEnd ≤ rows)
    (computed : Computed ops state before (qoStart * numQueryHeads) out)
    (bound : ∀ row, qoStart ≤ row → row < qoEnd → causalKvEnd (row - qoStart) = .ok (some (hi row)))
    (offsets : ∀ row, qoStart ≤ row → row < qoEnd → ∀ kvHead < numKvHeads, ∀ t, lo ≤ t →
      t < hi row →
      kvOffset kvHead t = .ok (off kvHead t) ∧ off kvHead t + singleDecodeHeadDim ≤ key.len)
    (states : ∀ row, qoStart ≤ row → row < qoEnd → ∀ head < numQueryHeads,
      ops.attend query.get key.get value.get ((row * numQueryHeads + head) * singleDecodeHeadDim)
        (off (head / (numQueryHeads / numKvHeads))) lo (hi row) =
          state (row * numQueryHeads + head))
    {E : Halt HostFailure → AttentionOut F B → Prop} :
    Ends (prefillRequest ops w numQueryHeads numKvHeads query key value outputLen
        (rows * numQueryHeads) qoStart qoEnd causalKvEnd kvOffset lo) out
      (fun _ out' => Computed ops state before (qoEnd * numQueryHeads) out') E := by
  refine ends_forEach (P := fun row => Computed ops state before (row * numQueryHeads)) le computed ?_
  intro row out hlo hhi computed
  rw [subWord_ok hlo, ok_bind, bound row hlo hhi, ok_bind, expect_some, lift_ok, compute_ok,
    pure_bind, Nat.add_mul, Nat.one_mul]
  refine ends_forEach (P := fun head => Computed ops state before (row * numQueryHeads + head))
    (Nat.zero_le _) computed ?_
  intro head out _ hh computed
  have inside : row < rows := hhi.trans_le end_le
  have kvHead := kvHead_lt shape.queryHeads_pos shape.group shape.kvHeads_pos hh
  rw [row_ok inside hh rows_fit, compute_ok, pure_bind]
  exact (referenceRow_ends ops shape (rowMajor_lt inside hh) hh
    (offsets row hlo hhi _ kvHead) out).mono
    (fun _ _ stored => stored ▸ storeRow_computed computed (states row hlo hhi head hh))
    fun _ _ h => h

/-- The causal end of a query row of a request, counted from its first token. -/
theorem causalCount_le {qoIndptr : Slice Int32} {kvLen request queryRow : Nat}
    (causal : indptrLen qoIndptr request ≤ kvLen) (lo : indptrStart qoIndptr request ≤ queryRow)
    (hi : queryRow < indptrStart qoIndptr (request + 1)) :
    causalCount qoIndptr kvLen request queryRow ≤ kvLen := by
  unfold causalCount
  unfold indptrLen at *
  omega

theorem raggedCausalEnd_le {qoIndptr kvIndptr : Slice Int32} {request queryRow : Nat}
    (causal : indptrLen qoIndptr request ≤ indptrLen kvIndptr request)
    (kv : indptrStart kvIndptr request ≤ indptrStart kvIndptr (request + 1))
    (lo : indptrStart qoIndptr request ≤ queryRow)
    (hi : queryRow < indptrStart qoIndptr (request + 1)) :
    raggedCausalEnd qoIndptr kvIndptr request queryRow ≤ indptrStart kvIndptr (request + 1) := by
  have := causalCount_le causal lo hi
  unfold raggedCausalEnd
  unfold indptrLen at *
  omega

/-- The checks of the ragged prefill reference. -/
def checkRagged (query key value : Slice B) (qoIndptr kvIndptr : Slice Int32)
    (outputLen lseLen : Nat) (spec : Bf16RaggedPrefillSpec w) :
    Machine HostFailure (RaggedMetadata w) := do
  requireBuffers "K" "V" query key value outputLen lseLen spec.queryNumel spec.kvNumel
    spec.outputNumel spec.lseNumel
  spec.validateMetadata qoIndptr kvIndptr

def raggedPrefillBf16Reference (query key value : Slice B) (qoIndptr kvIndptr : Slice Int32)
    (outputLen lseLen : Nat) (spec : Bf16RaggedPrefillSpec w) :
    Program HostFailure (AttentionOut F B) Unit := do
  let metadata ← compute (checkRagged query key value qoIndptr kvIndptr outputLen lseLen spec)
  forEach 0 spec.batchSize fun request => do
    let ((qoStart, qoEnd), (kvStart, _)) ← compute (do
      lift (expect (← metadata.requestRowRanges request)
        "enumerated request has validated row ranges"))
    prefillRequest ops w spec.numQueryHeads spec.numKvHeads query key value outputLen lseLen qoStart
      qoEnd (metadata.causalKvEnd request) (contiguousOffset w spec.numKvHeads) kvStart

/-- On arguments that pass the checks, the reference stores the states of all rows. -/
theorem raggedPrefillBf16Reference_ends (spec : Bf16RaggedPrefillSpec w) {query key value : Slice B}
    {qoIndptr kvIndptr : Slice Int32} {outputLen lseLen : Nat} {metadata : RaggedMetadata w}
    (accepted : checkRagged query key value qoIndptr kvIndptr outputLen lseLen spec = .ok metadata)
    (before : AttentionOut F B) {E : Halt HostFailure → AttentionOut F B → Prop} :
    Ends (raggedPrefillBf16Reference ops query key value qoIndptr kvIndptr outputLen lseLen spec)
      before
      (fun _ out => Computed ops
        (rowState ops spec.numQueryHeads spec.numKvHeads query.get key.get value.get
          (fun _ kvHead token => (token * spec.numKvHeads + kvHead) * singleDecodeHeadDim)
          (fun row => indptrStart kvIndptr (requestOf qoIndptr spec.batchSize row))
          (fun row => raggedCausalEnd qoIndptr kvIndptr (requestOf qoIndptr spec.batchSize row) row))
        before lseLen out) E := by
  rw [raggedPrefillBf16Reference, accepted, compute_ok, pure_bind]
  rw [checkRagged, spec.queryNumel_ok, spec.kvNumel_ok, spec.lseNumel_ok,
    Bf16RaggedPrefillSpec.outputNumel, spec.queryNumel_ok, check_bind_eq_ok,
    requireBuffers_eq_ok] at accepted
  obtain ⟨⟨hq, hk, hv, ho, rfl⟩, accepted⟩ := accepted
  obtain ⟨rfl, valid⟩ := spec.validateMetadata_eq_ok.mp accepted
  have rows_fit := mul_lt_of_mul_lt (show 0 < singleDecodeHeadDim by decide) spec.query_fits
  have shape : RowShape w spec.numQueryHeads spec.numKvHeads query key value outputLen
      (spec.nnzQo * spec.numQueryHeads) :=
    ⟨spec.queryHeads_pos, spec.kvHeads_pos, spec.group, hq, hq ▸ spec.query_fits,
      hk ▸ spec.kv_fits, by rw [hv, hk], ho⟩
  refine (ends_forEach
    (P := fun request => Computed ops _ before (indptrStart qoIndptr request * spec.numQueryHeads))
    (Nat.zero_le _) (by rw [valid.qo.start_zero, Nat.zero_mul]; exact computed_zero _ _) ?_).mono
    (fun _ _ done => by rwa [valid.qo.start_total] at done) fun _ _ h => h
  intro request out _ hr computed
  have kv_start := valid.kv.start_lt hr
  have kv_end := valid.kv.start_le_total (show request + 1 ≤ _ from hr)
  rw [valid.requestRowRanges_ok, ok_bind, if_pos hr, expect_some, lift_ok, compute_ok, pure_bind]
  refine prefillRequest_ends ops
    (fun kvHead token => (token * spec.numKvHeads + kvHead) * singleDecodeHeadDim)
    (raggedCausalEnd qoIndptr kvIndptr request) shape rows_fit (valid.qo.start_lt hr).le
    (valid.qo.start_le_total hr) computed (fun row hlo hhi => valid.causalKvEnd_ok hr hlo hhi)
    (fun row hlo hhi kvHead hkv t _ ht => ?_) fun row hlo hhi head hh => ?_
  · have causal := raggedCausalEnd_le (valid.causal request hr) kv_start.le hlo hhi
    rw [hk]
    exact contiguousOffset_ok ((ht.trans_le causal).trans_le kv_end) hkv spec.kv_fits
  · rw [rowState_row _ _ _ _ _ _ _ _ _ hh, valid.qo.requestOf_eq hr hlo hhi]

/-- The checks of the paged prefill reference. -/
def checkPagedPrefill (query keyPages valuePages : Slice B)
    (qoIndptr pageIndptr pageIndices lastPageLen : Slice Int32) (outputLen lseLen : Nat)
    (spec : Bf16PagedPrefillSpec w) : Machine HostFailure (PrefillMetadata w) := do
  requireBuffers "K_pages" "V_pages" query keyPages valuePages outputLen lseLen spec.queryNumel
    spec.kvPagesNumel spec.outputNumel spec.lseNumel
  spec.validateMetadata qoIndptr pageIndptr pageIndices lastPageLen

/-- The key/value offset of a logical token. -/
def PrefillMetadata.kvOffset (metadata : PrefillMetadata w) (request kvHead token : Nat) :
    Machine HostFailure Nat := do
  let slot ← lift (expect (← metadata.physicalPageForToken request token)
    "causal token is inside the validated request")
  slotOffset w metadata.spec.numKvHeads kvHead slot

def pagedPrefillBf16Reference (query keyPages valuePages : Slice B)
    (qoIndptr pageIndptr pageIndices lastPageLen : Slice Int32) (outputLen lseLen : Nat)
    (spec : Bf16PagedPrefillSpec w) : Program HostFailure (AttentionOut F B) Unit := do
  let metadata ← compute (checkPagedPrefill query keyPages valuePages qoIndptr pageIndptr pageIndices
    lastPageLen outputLen lseLen spec)
  forEach 0 spec.batchSize fun request => do
    let (qoStart, qoEnd) ← compute (do
      lift (expect (← metadata.requestQueryRange request)
        "enumerated request has a validated query range"))
    prefillRequest ops w spec.numQueryHeads spec.numKvHeads query keyPages valuePages outputLen lseLen
      qoStart qoEnd (metadata.causalKvEnd request) (metadata.kvOffset request) 0

/-- On arguments that pass the checks, the reference stores the states of all rows. -/
theorem pagedPrefillBf16Reference_ends (spec : Bf16PagedPrefillSpec w)
    {query keyPages valuePages : Slice B}
    {qoIndptr pageIndptr pageIndices lastPageLen : Slice Int32} {outputLen lseLen : Nat}
    {metadata : PrefillMetadata w}
    (accepted : checkPagedPrefill query keyPages valuePages qoIndptr pageIndptr pageIndices
      lastPageLen outputLen lseLen spec = .ok metadata)
    (before : AttentionOut F B) {E : Halt HostFailure → AttentionOut F B → Prop} :
    Ends (pagedPrefillBf16Reference ops query keyPages valuePages qoIndptr pageIndptr pageIndices
        lastPageLen outputLen lseLen spec) before
      (fun _ out => Computed ops
        (rowState ops spec.numQueryHeads spec.numKvHeads query.get keyPages.get valuePages.get
          (fun row => pagedOff spec.numKvHeads pageIndptr pageIndices
            (requestOf qoIndptr spec.batchSize row))
          (fun _ => 0)
          (fun row => causalCount qoIndptr
            (pagedKvLen pageIndptr lastPageLen (requestOf qoIndptr spec.batchSize row))
            (requestOf qoIndptr spec.batchSize row) row))
        before lseLen out) E := by
  rw [pagedPrefillBf16Reference, accepted, compute_ok, pure_bind]
  rw [checkPagedPrefill, spec.queryNumel_ok, spec.kvPagesNumel_ok, spec.lseNumel_ok,
    Bf16PagedPrefillSpec.outputNumel, spec.queryNumel_ok, check_bind_eq_ok,
    requireBuffers_eq_ok] at accepted
  obtain ⟨⟨hq, hk, hv, ho, rfl⟩, accepted⟩ := accepted
  obtain ⟨rfl, valid⟩ := spec.validateMetadata_eq_ok.mp accepted
  have rows_fit := mul_lt_of_mul_lt (show 0 < singleDecodeHeadDim by decide) spec.query_fits
  have shape : RowShape w spec.numQueryHeads spec.numKvHeads query keyPages valuePages outputLen
      (spec.nnzQo * spec.numQueryHeads) :=
    ⟨spec.queryHeads_pos, spec.kvHeads_pos, spec.group, hq, hq ▸ spec.query_fits,
      hk ▸ spec.pages_fit, by rw [hv, hk], ho⟩
  refine (ends_forEach
    (P := fun request => Computed ops _ before (indptrStart qoIndptr request * spec.numQueryHeads))
    (Nat.zero_le _) (by rw [valid.qo.start_zero, Nat.zero_mul]; exact computed_zero _ _) ?_).mono
    (fun _ _ done => by rwa [valid.qo.start_total] at done) fun _ _ h => h
  intro request out _ hr computed
  rw [valid.requestQueryRange_ok, ok_bind, if_pos hr, expect_some, lift_ok, compute_ok, pure_bind]
  refine prefillRequest_ends ops (pagedOff spec.numKvHeads pageIndptr pageIndices request)
    (causalCount qoIndptr (pagedKvLen pageIndptr lastPageLen request) request) shape rows_fit
    (valid.qo.start_lt hr).le (valid.qo.start_le_total hr) computed
    (fun row hlo hhi => valid.causalKvEnd_ok hr hlo hhi)
    (fun row hlo hhi kvHead hkv t _ ht => ?_) fun row hlo hhi head hh => ?_
  · have inside : t < pagedKvLen pageIndptr lastPageLen request :=
      ht.trans_le (causalCount_le (valid.causal request hr) hlo hhi)
    have slot := valid.table.slot_lt hr inside
    rw [hk, PrefillMetadata.kvOffset, valid.physicalPageForToken_ok, ok_bind, if_pos ⟨hr, inside⟩,
      expect_some, lift_ok, ok_bind]
    exact slotOffset_ok slot.1 slot.2 hkv spec.pages_fit
  · rw [rowState_row _ _ _ _ _ _ _ _ _ hh, valid.qo.requestOf_eq hr hlo hhi]

end Attention

end LoomKernels.Word
