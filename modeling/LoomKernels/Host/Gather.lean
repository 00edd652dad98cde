import LoomKernels.Host.PagedPrefill
import LoomKernels.Host.SingleDecode

/-!
# Paged and contiguous references

A paged request reads its keys and values through the page table. Gathered token by token into a
contiguous buffer (`gatherTokens`), the same numbers can be given to the contiguous references, and
these perform the same floating-point operations, whatever the operations are: paged decode is single
decode of each request (`pagedDecode_eq_contiguous`), and paged prefill is ragged prefill with the
running sums of the request lengths as `kv_indptr` (`pagedPrefill_eq_ragged`).
-/

namespace LoomKernels

/-- `&slice[start..start + len]` -/
def Slice.window {α : Type} (s : Slice α) (start len : Nat) : Slice α :=
  ⟨len, fun i => s.get (start + i)⟩

/-- The same length and the same elements. -/
def Slice.Same {α : Type} (s s' : Slice α) : Prop :=
  s.len = s'.len ∧ ∀ i < s.len, s.get i = s'.get i

/-! ## Gathered buffers -/

section Gather

variable {B : Type}

/-- The keys or values of `tokens` tokens, each copied from its slot with all its heads. -/
def gatherTokens (numKvHeads : Nat) (slot : Nat → Nat × Nat) (pages : Slice B) (tokens : Nat) :
    Slice B where
  len := tokens * numKvHeads * singleDecodeHeadDim
  get i := pages.get (slotOffset numKvHeads 0 (slot (i / (numKvHeads * singleDecodeHeadDim))) +
    i % (numKvHeads * singleDecodeHeadDim))

/-- A component of a gathered token. -/
theorem gatherTokens_get {numKvHeads head c : Nat} (slot : Nat → Nat × Nat) (pages : Slice B)
    (tokens token : Nat) (hh : head < numKvHeads) (hc : c < 128) :
    (gatherTokens numKvHeads slot pages tokens).get ((token * numKvHeads + head) * 128 + c) =
      pages.get (slotOffset numKvHeads head (slot token) + c) := by
  have position : (token * numKvHeads + head) * 128 + c =
      token * (numKvHeads * 128) + (head * 128 + c) := by ring
  have inside : head * 128 + c < numKvHeads * 128 := rowMajor_lt hh hc
  have offset : slotOffset numKvHeads 0 (slot token) + (head * 128 + c) =
      slotOffset numKvHeads head (slot token) + c := by
    simp only [slotOffset, singleDecodeHeadDim]
    ring
  rw [gatherTokens, position]
  simp only [singleDecodeHeadDim]
  rw [row_div inside, row_mod inside, offset]

/-- The keys or values of a request of the decode contract. -/
def Bf16PagedBatchDecodePageTable.gather (table : Bf16PagedBatchDecodePageTable)
    (request kvLen : Nat) (pages : Slice B) : Slice B :=
  gatherTokens table.spec.numKvHeads
    (fun token => (table.physicalPageForToken request token).getD (0, 0)) pages kvLen

namespace Bf16PagedPrefillMetadata

variable (metadata : Bf16PagedPrefillMetadata)

/-- Where the tokens of a request start when all requests are laid out one after another. -/
def gatherStart (request : Nat) : Nat :=
  startOf (fun r => (metadata.requestKvLen r).getD 0) request

/-- The running sums of the request lengths. -/
def gatherIndptr : Slice Int32 :=
  ⟨metadata.spec.batchSize + 1, fun request => Int32.ofNat (metadata.gatherStart request)⟩

/-- The number of tokens of all requests. -/
def gatherTotal : Nat := metadata.gatherStart metadata.spec.batchSize

/-- The slot of a row of the gathered buffers. -/
def gatherSlot (row : Nat) : Nat × Nat :=
  let request := requestOf metadata.gatherIndptr metadata.spec.batchSize row
  (metadata.physicalPageForToken request (row - metadata.gatherStart request)).getD (0, 0)

/-- The keys or values of all requests, one after another. -/
def gather (pages : Slice B) : Slice B :=
  gatherTokens metadata.spec.numKvHeads metadata.gatherSlot pages metadata.gatherTotal

end Bf16PagedPrefillMetadata

end Gather

/-- The key/value head of a query head. -/
theorem kvHead_lt {numQueryHeads numKvHeads head : Nat}
    (group : numQueryHeads % numKvHeads = 0) (hh : head < numQueryHeads) :
    head / (numQueryHeads / numKvHeads) < numKvHeads := by
  have exact : numKvHeads * (numQueryHeads / numKvHeads) = numQueryHeads :=
    Nat.mul_div_cancel' (Nat.dvd_of_mod_eq_zero group)
  have pos : 0 < numQueryHeads / numKvHeads := by
    refine Nat.pos_of_ne_zero fun h => ?_
    rw [h, Nat.mul_zero] at exact
    omega
  rw [Nat.div_lt_iff_lt_mul pos, exact]
  exact hh

/-! ## Decode -/

section Decode

variable {F B : Type} (ops : FloatOps F B)

/-- `new` keeps the dimensions it is given. -/
theorem Bf16SingleDecodeSpec.new_eq_ok {kvLen numQueryHeads numKvHeads headDim : Nat}
    {spec : Bf16SingleDecodeSpec} (accepted : new kvLen numQueryHeads numKvHeads headDim = .ok spec) :
    spec.kvLen = kvLen ∧ spec.numQueryHeads = numQueryHeads ∧ spec.numKvHeads = numKvHeads := by
  unfold new at accepted
  split_ifs at accepted
  all_goals cases accepted
  exact ⟨rfl, rfl, rfl⟩

/-- Paged decode of a request is single decode of its query over its gathered keys and values, operation
for operation. -/
theorem pagedDecode_eq_contiguous (spec : Bf16PagedBatchDecodeSpec)
    {query keyPages valuePages output : Slice B} {lse : Slice F}
    {pageIndptr pageIndices lastPageLen : Slice Int32} (hq : query.len = spec.queryNumel)
    (hk : keyPages.len = spec.kvPagesNumel) (hv : valuePages.len = spec.kvPagesNumel)
    (ho : output.len = spec.outputNumel) (hl : lse.len = spec.lseNumel)
    {table : Bf16PagedBatchDecodePageTable}
    (accepted : spec.validatePageTable pageIndptr pageIndices lastPageLen = .ok table) :
    ∃ out, pagedBatchDecodeBf16Reference ops query keyPages valuePages pageIndptr pageIndices
        lastPageLen output lse spec = .ok out ∧
      ∀ request < spec.batchSize, ∃ kvLen, table.requestKvLen request = some kvLen ∧
        ∀ decode, Bf16SingleDecodeSpec.new kvLen spec.numQueryHeads spec.numKvHeads
            singleDecodeHeadDim = .ok decode →
          ∀ {output' : Slice B} {lse' : Slice F}, output'.len = decode.outputNumel →
            lse'.len = decode.lseNumel →
            ∃ single, singleDecodeBf16Reference ops
                (query.window (request * decode.queryNumel) decode.queryNumel)
                (table.gather request kvLen keyPages) (table.gather request kvLen valuePages)
                output' lse' decode = .ok single ∧
              ∀ head < spec.numQueryHeads,
                SameRow out (request * spec.numQueryHeads + head) single head := by
  obtain ⟨valid, rfl⟩ := spec.validatePageTable_eq_ok.mp accepted
  obtain ⟨out, run, computed⟩ :=
    pagedBatchDecodeBf16Reference_computed ops spec hq hk hv ho hl valid
  refine ⟨out, run, fun request hr => ⟨_, Bf16PagedBatchDecodePageTable.requestKvLen_eq _ hr, ?_⟩⟩
  intro decode hdecode output' lse' ho' hl'
  obtain ⟨kvLen, queryHeads, kvHeads⟩ := Bf16SingleDecodeSpec.new_eq_ok hdecode
  dsimp only at kvLen
  have gathered : ∀ pages : Slice B, (Bf16PagedBatchDecodePageTable.gather
      ⟨spec, pageIndptr, pageIndices, lastPageLen, valid⟩ request
      (pagedKvLen pageIndptr lastPageLen request) pages).len = decode.kvNumel := fun pages => by
    rw [Bf16SingleDecodeSpec.kvNumel, kvLen, kvHeads]
    rfl
  have window : (query.window (request * decode.queryNumel) decode.queryNumel).len =
      decode.queryNumel := rfl
  obtain ⟨single, run', computed'⟩ := singleDecodeBf16Reference_computed ops decode window
    (gathered keyPages) (gathered valuePages) ho' hl'
  refine ⟨single, run', fun head hh => ?_⟩
  have hrow : request * spec.numQueryHeads + head < spec.lseNumel := rowMajor_lt hr hh
  have hkv : head / (spec.numQueryHeads / spec.numKvHeads) < spec.numKvHeads :=
    kvHead_lt spec.group hh
  refine computed.sameRow computed' hrow (queryHeads ▸ hh) ?_
  rw [spec.rowState_eq ops _ _ _ _ _ _ request hh, Bf16SingleDecodeSpec.headState, kvLen]
  -- the token of the page table is the gathered token
  have token : ∀ pages : Slice B, ∀ t < pagedKvLen pageIndptr lastPageLen request, ∀ c < 128,
      pages.get (slotOffset spec.numKvHeads (head / spec.gqaGroupSize)
          (pagedSlot pageIndptr pageIndices request t) + c) =
        (Bf16PagedBatchDecodePageTable.gather ⟨spec, pageIndptr, pageIndices, lastPageLen, valid⟩
          request (pagedKvLen pageIndptr lastPageLen request) pages).get
          ((t * decode.numKvHeads + head / decode.gqaGroupSize) * 128 + c) := by
    intro pages t ht c hc
    have slot := Bf16PagedBatchDecodePageTable.physicalPageForToken_eq
      ⟨spec, pageIndptr, pageIndices, lastPageLen, valid⟩ hr ht
    rw [Bf16SingleDecodeSpec.gqaGroupSize, queryHeads, kvHeads,
      Bf16PagedBatchDecodePageTable.gather, gatherTokens_get _ _ _ _ hkv hc, slot]
    rfl
  have total := Nat.zero_add (pagedKvLen pageIndptr lastPageLen request)
  nth_rewrite 1 [← total]
  refine attend_shift ops (fun c _ => ?_)
    (fun t ht c hc => by rw [Nat.zero_add, token keyPages t ht c hc])
    fun t ht c hc => by rw [Nat.zero_add, token valuePages t ht c hc]
  simp only [Slice.window, Bf16SingleDecodeSpec.queryNumel, queryHeads]
  congr 1
  ring

end Decode

/-- One request of seventeen tokens on two pages. -/
def swappedPagesSpec : Bf16PagedBatchDecodeSpec where
  batchSize := 1
  maxNumPages := 2
  numQueryHeads := 1
  numKvHeads := 1
  batch_pos := Nat.one_pos
  pages_pos := Nat.two_pos
  queryHeads_pos := Nat.one_pos
  kvHeads_pos := Nat.one_pos
  group := oneHead_divides
  batch_fits := oneRequest_fits
  query_fits := oneRow_fits
  pages_fit := twoPages_fit

theorem swappedPages_wellFormed : PageTableWellFormed 1 2 (Slice.ofList [0, 2]) (Slice.ofList [1, 0])
    (Slice.ofList [1]) :=
  swappedPagesSpec.checkPageTable_eq_ok.mp rfl

theorem pagedDecode_eq_contiguous_swappedPages :
    ∃ decode, Bf16SingleDecodeSpec.new 17 1 1 128 = .ok decode ∧
      ∃ out single,
        pagedBatchDecodeBf16Reference (exactOps ℝ) ⟨128, fun _ => 1⟩ ⟨4096, fun i => i⟩
          ⟨4096, fun i => 2 * i⟩ (Slice.ofList [0, 2]) (Slice.ofList [1, 0]) (Slice.ofList [1])
          ⟨128, fun _ => 0⟩ ⟨1, fun _ => 0⟩ swappedPagesSpec = .ok out ∧
        singleDecodeBf16Reference (exactOps ℝ) (Slice.window ⟨128, fun _ => 1⟩ (0 * 128) 128)
          (Bf16PagedBatchDecodePageTable.gather
            ⟨swappedPagesSpec, _, _, _, swappedPages_wellFormed⟩ 0 17 ⟨4096, fun i => i⟩)
          (Bf16PagedBatchDecodePageTable.gather
            ⟨swappedPagesSpec, _, _, _, swappedPages_wellFormed⟩ 0 17 ⟨4096, fun i => 2 * i⟩)
          ⟨128, fun _ => 0⟩ ⟨1, fun _ => 0⟩ decode = .ok single ∧
        out.output 5 = single.output 5 ∧ out.lse 0 = single.lse 0 := by
  obtain ⟨out, run, requests⟩ := @pagedDecode_eq_contiguous ℝ ℝ (exactOps ℝ) swappedPagesSpec
    ⟨128, fun _ => 1⟩ ⟨4096, fun i => i⟩ ⟨4096, fun i => 2 * i⟩ ⟨128, fun _ => 0⟩ ⟨1, fun _ => 0⟩ _ _
    _ rfl rfl rfl rfl rfl _ (swappedPagesSpec.validatePageTable_ok swappedPages_wellFormed)
  obtain ⟨kvLen, length, contiguous⟩ := requests 0 (by decide)
  obtain rfl : 17 = kvLen := Option.some.inj length
  obtain ⟨single, run', same⟩ := @contiguous _ rfl ⟨128, fun _ => 0⟩ ⟨1, fun _ => 0⟩ rfl rfl
  exact ⟨_, rfl, out, single, run, run', (same 0 (by decide)).1 5 (by decide),
    (same 0 (by decide)).2⟩

/-! ## Prefill -/

namespace Bf16PagedPrefillMetadata

variable (metadata : Bf16PagedPrefillMetadata) {request : Nat}

theorem gatherStart_succ (h : request < metadata.spec.batchSize) :
    metadata.gatherStart (request + 1) = metadata.gatherStart request +
      pagedKvLen metadata.pageIndptr metadata.lastPageLen request := by
  have kvLen : metadata.requestKvLen request =
      some (pagedKvLen metadata.pageIndptr metadata.lastPageLen request) :=
    metadata.valid.table.kvLenOf_eq h
  rw [gatherStart, startOf_succ, kvLen]
  rfl

theorem gatherStart_le_total (h : request ≤ metadata.spec.batchSize) :
    metadata.gatherStart request ≤ metadata.gatherTotal :=
  cut_le_cut (fun i _ => startOf_mono _ i) h le_rfl

section Admitted

variable (admitted : metadata.gatherTotal < 2 ^ 31)
include admitted

/-- An admitted total is an `i32`, and so is every running sum. -/
theorem gatherIndptr_int (h : request ≤ metadata.spec.batchSize) :
    metadata.gatherIndptr.int request = metadata.gatherStart request :=
  Int32.toInt_ofNat_of_lt ((metadata.gatherStart_le_total h).trans_lt admitted)

theorem gatherIndptr_wellFormed :
    IndptrWellFormed metadata.spec.batchSize metadata.gatherTotal metadata.gatherIndptr where
  len := rfl
  start := by
    rw [metadata.gatherIndptr_int admitted (Nat.zero_le _), gatherStart, startOf_zero]
    rfl
  increasing request h := by
    have pos := metadata.valid.table.kvLen_pos h
    have next := metadata.gatherStart_succ h
    rw [metadata.gatherIndptr_int admitted h.le,
      metadata.gatherIndptr_int admitted (show request + 1 ≤ _ from h)]
    omega
  total := metadata.gatherIndptr_int admitted le_rfl

theorem gatherIndptr_start (h : request ≤ metadata.spec.batchSize) :
    indptrStart metadata.gatherIndptr request = metadata.gatherStart request := by
  rw [indptrStart, metadata.gatherIndptr_int admitted h, Int.toNat_natCast]

theorem gatherIndptr_len (h : request < metadata.spec.batchSize) :
    indptrLen metadata.gatherIndptr request =
      pagedKvLen metadata.pageIndptr metadata.lastPageLen request := by
  rw [indptrLen, metadata.gatherIndptr_start admitted h, metadata.gatherIndptr_start admitted h.le,
    metadata.gatherStart_succ h, Nat.add_sub_cancel_left]

/-- A row of the gathered buffers belongs to the request it was copied for. -/
theorem gatherSlot_eq {token : Nat} (h : request < metadata.spec.batchSize)
    (ht : token < pagedKvLen metadata.pageIndptr metadata.lastPageLen request) :
    metadata.gatherSlot (metadata.gatherStart request + token) =
      pagedSlot metadata.pageIndptr metadata.pageIndices request token := by
  have owner : requestOf metadata.gatherIndptr metadata.spec.batchSize
      (metadata.gatherStart request + token) = request := by
    refine (metadata.gatherIndptr_wellFormed admitted).requestOf_eq h ?_ ?_
    · rw [metadata.gatherIndptr_start admitted h.le]
      exact Nat.le_add_right _ _
    · rw [metadata.gatherIndptr_start admitted h, metadata.gatherStart_succ h]
      exact Nat.add_lt_add_left ht _
  have slot : metadata.physicalPageForToken request token =
      some (pagedSlot metadata.pageIndptr metadata.pageIndices request token) :=
    metadata.valid.table.physicalPageOf_eq h ht
  rw [gatherSlot, owner, Nat.add_sub_cancel_left, slot]
  rfl

/-- The gathered metadata is accepted whenever the query rows of the ragged contract are those of the
paged one. -/
theorem raggedValid {ragged : Bf16RaggedPrefillSpec}
    (batch : ragged.batchSize = metadata.spec.batchSize) (qo : ragged.nnzQo = metadata.spec.nnzQo)
    (kv : ragged.nnzKv = metadata.gatherTotal) :
    RaggedValid ragged metadata.qoIndptr metadata.gatherIndptr where
  qo := by rw [batch, qo]; exact metadata.valid.qo
  kv := by rw [batch, kv]; exact metadata.gatherIndptr_wellFormed admitted
  causal request h := by
    rw [batch] at h
    rw [metadata.gatherIndptr_len admitted h]
    exact metadata.valid.causal request h

end Admitted

end Bf16PagedPrefillMetadata

/-- `new` keeps the dimensions it is given, and admits no more tokens than an `i32` counts. -/
theorem Bf16RaggedPrefillSpec.new_eq_ok {batchSize nnzQo nnzKv numQueryHeads numKvHeads headDim : Nat}
    {spec : Bf16RaggedPrefillSpec}
    (accepted : new batchSize nnzQo nnzKv numQueryHeads numKvHeads headDim = .ok spec) :
    spec.batchSize = batchSize ∧ spec.nnzQo = nnzQo ∧ spec.nnzKv = nnzKv ∧
      spec.numQueryHeads = numQueryHeads ∧ spec.numKvHeads = numKvHeads := by
  unfold new at accepted
  split_ifs at accepted
  all_goals cases accepted
  exact ⟨rfl, rfl, rfl, rfl, rfl⟩

section Prefill

variable {F B : Type} (ops : FloatOps F B)

/-- A causal token of a row, in the pages and in the gathered buffer. -/
theorem Bf16PagedPrefillMetadata.gather_get (metadata : Bf16PagedPrefillMetadata)
    (admitted : metadata.gatherTotal < 2 ^ 31) {request token kvHead c : Nat} (pages : Slice B)
    (h : request < metadata.spec.batchSize)
    (ht : token < pagedKvLen metadata.pageIndptr metadata.lastPageLen request)
    (hkv : kvHead < metadata.spec.numKvHeads) (hc : c < 128) :
    (metadata.gather pages).get (((metadata.gatherStart request + token) *
        metadata.spec.numKvHeads + kvHead) * 128 + c) =
      pages.get (slotOffset metadata.spec.numKvHeads kvHead
        (pagedSlot metadata.pageIndptr metadata.pageIndices request token) + c) := by
  rw [gather, gatherTokens_get _ _ _ _ hkv hc, metadata.gatherSlot_eq admitted h ht]

/-- The two references go through the same operations for every row. -/
theorem Bf16PagedPrefillMetadata.rowState_gather (metadata : Bf16PagedPrefillMetadata)
    (admitted : metadata.gatherTotal < 2 ^ 31) {ragged : Bf16RaggedPrefillSpec}
    (batch : ragged.batchSize = metadata.spec.batchSize)
    (queryHeads : ragged.numQueryHeads = metadata.spec.numQueryHeads)
    (kvHeads : ragged.numKvHeads = metadata.spec.numKvHeads) (query : Nat → B)
    (keyPages valuePages : Slice B) {row : Nat} (hr : row < metadata.spec.lseNumel) :
    (metadata.spec.rowState ops query keyPages.get valuePages.get metadata.qoIndptr
        metadata.pageIndptr metadata.pageIndices metadata.lastPageLen row).restrict =
      (ragged.rowState ops query (metadata.gather keyPages).get (metadata.gather valuePages).get
        metadata.qoIndptr metadata.gatherIndptr row).restrict := by
  have group : ragged.gqaGroupSize = metadata.spec.gqaGroupSize := by
    rw [Bf16RaggedPrefillSpec.gqaGroupSize, queryHeads, kvHeads]
    rfl
  have hkv : row % metadata.spec.numQueryHeads / metadata.spec.gqaGroupSize <
      metadata.spec.numKvHeads :=
    kvHead_lt metadata.spec.group (Nat.mod_lt row metadata.spec.queryHeads_pos)
  obtain ⟨hrequest, lo, hi⟩ := metadata.valid.qo.requestOf_spec
    ((lt_rows_iff metadata.spec.queryHeads_pos).mpr hr)
  rw [Bf16PagedPrefillSpec.rowState, Bf16RaggedPrefillSpec.rowState, batch, queryHeads, kvHeads,
    group, raggedCausalEnd, metadata.gatherIndptr_start admitted hrequest.le,
    metadata.gatherIndptr_len admitted hrequest]
  generalize requestOf metadata.qoIndptr metadata.spec.batchSize
    (row / metadata.spec.numQueryHeads) = request at *
  -- the causal range of the row lies inside its request
  have inside := metadata.causalCount_le hrequest lo hi
  refine (attend_shift ops (fun _ _ => rfl) (fun t ht c hc => ?_) fun t ht c hc => ?_).symm
  all_goals exact metadata.gather_get admitted _ hrequest (ht.trans_le inside) hkv hc

/-- Paged prefill is ragged prefill over the gathered keys and values, operation for operation. -/
theorem pagedPrefill_eq_ragged (spec : Bf16PagedPrefillSpec)
    {query keyPages valuePages output : Slice B} {lse : Slice F}
    {qoIndptr pageIndptr pageIndices lastPageLen : Slice Int32} (hq : query.len = spec.queryNumel)
    (hk : keyPages.len = spec.kvPagesNumel) (hv : valuePages.len = spec.kvPagesNumel)
    (ho : output.len = spec.outputNumel) (hl : lse.len = spec.lseNumel)
    {metadata : Bf16PagedPrefillMetadata}
    (accepted : spec.validateMetadata qoIndptr pageIndptr pageIndices lastPageLen = .ok metadata)
    {ragged : Bf16RaggedPrefillSpec}
    (admitted : Bf16RaggedPrefillSpec.new spec.batchSize spec.nnzQo metadata.gatherTotal
      spec.numQueryHeads spec.numKvHeads singleDecodeHeadDim = .ok ragged)
    {output' : Slice B} {lse' : Slice F} (ho' : output'.len = ragged.outputNumel)
    (hl' : lse'.len = ragged.lseNumel) :
    (∃ raggedMetadata,
      ragged.validateMetadata qoIndptr metadata.gatherIndptr = .ok raggedMetadata) ∧
    ∃ paged contiguous,
      pagedPrefillBf16Reference ops query keyPages valuePages qoIndptr pageIndptr pageIndices
        lastPageLen output lse spec = .ok paged ∧
      raggedPrefillBf16Reference ops query (metadata.gather keyPages) (metadata.gather valuePages)
        qoIndptr metadata.gatherIndptr output' lse' ragged = .ok contiguous ∧
      ∀ row < spec.nnzQo * spec.numQueryHeads, SameRow paged row contiguous row := by
  obtain ⟨valid, rfl⟩ := spec.validateMetadata_eq_ok.mp accepted
  obtain ⟨batch, qo, kv, queryHeads, kvHeads⟩ := Bf16RaggedPrefillSpec.new_eq_ok admitted
  have total := kv ▸ ragged.kv_lt
  have raggedValid := Bf16PagedPrefillMetadata.raggedValid _ total batch qo kv
  have gathered : ∀ pages : Slice B, (Bf16PagedPrefillMetadata.gather ⟨spec, qoIndptr, pageIndptr,
      pageIndices, lastPageLen, valid⟩ pages).len = ragged.kvNumel := fun pages => by
    rw [Bf16RaggedPrefillSpec.kvNumel, kv, kvHeads]
    rfl
  have queryLen : query.len = ragged.queryNumel := by
    rw [hq, Bf16PagedPrefillSpec.queryNumel, Bf16RaggedPrefillSpec.queryNumel, qo, queryHeads]
  obtain ⟨paged, run, computed⟩ :=
    pagedPrefillBf16Reference_computed ops spec hq hk hv ho hl valid
  obtain ⟨contiguous, run', computed'⟩ := raggedPrefillBf16Reference_computed ops ragged queryLen
    (gathered keyPages) (gathered valuePages) ho' hl' raggedValid
  refine ⟨⟨_, ragged.validateMetadata_ok raggedValid⟩, paged, contiguous, run, run', fun row hr => ?_⟩
  refine computed.sameRow computed' hr (by rwa [Bf16RaggedPrefillSpec.lseNumel, qo, queryHeads]) ?_
  exact Bf16PagedPrefillMetadata.rowState_gather ops _ total batch queryHeads kvHeads query.get
    keyPages valuePages hr

end Prefill

/-- Two query rows over the same pages. -/
def swappedPagesPrefillSpec : Bf16PagedPrefillSpec where
  batchSize := 1
  nnzQo := 2
  maxNumPages := 2
  numQueryHeads := 1
  numKvHeads := 1
  batch_pos := Nat.one_pos
  qo_pos := Nat.two_pos
  pages_pos := Nat.two_pos
  queryHeads_pos := Nat.one_pos
  kvHeads_pos := Nat.one_pos
  group := oneHead_divides
  qo_lt := by decide
  batch_fits := oneRequest_fits
  query_fits := by decide
  pages_fit := by decide

theorem swappedPages_prefillValid : PagedPrefillValid swappedPagesPrefillSpec (Slice.ofList [0, 2])
    (Slice.ofList [0, 2]) (Slice.ofList [1, 0]) (Slice.ofList [1]) :=
  swappedPagesPrefillSpec.checkMetadata_eq_ok.mp rfl

theorem pagedPrefill_eq_ragged_swappedPages :
    ∃ metadata ragged paged contiguous,
      swappedPagesPrefillSpec.validateMetadata (Slice.ofList [0, 2]) (Slice.ofList [0, 2])
        (Slice.ofList [1, 0]) (Slice.ofList [1]) = .ok metadata ∧
      Bf16RaggedPrefillSpec.new 1 2 17 1 1 128 = .ok ragged ∧
      pagedPrefillBf16Reference (exactOps ℝ) ⟨256, fun _ => 1⟩ ⟨4096, fun i => i⟩
        ⟨4096, fun i => 2 * i⟩ (Slice.ofList [0, 2]) (Slice.ofList [0, 2]) (Slice.ofList [1, 0])
        (Slice.ofList [1]) ⟨256, fun _ => 0⟩ ⟨2, fun _ => 0⟩ swappedPagesPrefillSpec = .ok paged ∧
      raggedPrefillBf16Reference (exactOps ℝ) ⟨256, fun _ => 1⟩
        (metadata.gather ⟨4096, fun i => i⟩) (metadata.gather ⟨4096, fun i => 2 * i⟩)
        (Slice.ofList [0, 2]) metadata.gatherIndptr ⟨256, fun _ => 0⟩ ⟨2, fun _ => 0⟩ ragged =
          .ok contiguous ∧
      paged.output 130 = contiguous.output 130 ∧ paged.lse 1 = contiguous.lse 1 := by
  obtain ⟨-, paged, contiguous, run, run', same⟩ := @pagedPrefill_eq_ragged ℝ ℝ (exactOps ℝ)
    swappedPagesPrefillSpec ⟨256, fun _ => 1⟩ ⟨4096, fun i => i⟩ ⟨4096, fun i => 2 * i⟩
    ⟨256, fun _ => 0⟩ ⟨2, fun _ => 0⟩ _ _ _ _ rfl rfl rfl rfl rfl _
    (swappedPagesPrefillSpec.validateMetadata_ok swappedPages_prefillValid) _ rfl
    ⟨256, fun _ => 0⟩ ⟨2, fun _ => 0⟩ rfl rfl
  exact ⟨_, _, paged, contiguous, swappedPagesPrefillSpec.validateMetadata_ok _, rfl, run, run',
    (same 1 (by decide)).1 2 (by decide), (same 1 (by decide)).2⟩

end LoomKernels
