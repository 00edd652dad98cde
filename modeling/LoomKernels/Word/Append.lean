import LoomKernels.Word.Rope

/-!
# The append references on words of any size

The two append references on words of `w` bits. Both end in the same program, `appendRotated`: the
rotary reference, then the copy of every key/value head into the slot of its token. Once the
arguments have passed the checks, nothing in it can stop (`appendRotated_succeeds`).

The validators look a slot up with `expect`. They stop there when the length of a request is not a
word, so the tables that the single-token validator accepts have no such request
(`validatePageTable_lengths_fit`).
-/

namespace LoomKernels.Word

section Append

variable {B : Type} (rot : Rotation B) (nan : B) {w : Nat}

/-- The length checks of both references. -/
def requireAppendBuffers (query key value : Slice B) (queryOutputLen keyPagesLen valuePagesLen : Nat)
    (queryNumel keyNumel kvPagesNumel : Machine HostFailure Nat) : Machine HostFailure Unit := do
  lift (requireLen "query" query.len (← queryNumel))
  lift (requireLen "key" key.len (← keyNumel))
  lift (requireLen "value" value.len (← keyNumel))
  lift (requireLen "query_output" queryOutputLen (← queryNumel))
  lift (requireLen "key_pages" keyPagesLen (← kvPagesNumel))
  lift (requireLen "value_pages" valuePagesLen (← kvPagesNumel))

/-- The ranges of one `copy_from_slice` of a head. -/
def copyRanges (w destination destinationLen source sourceLen : Nat) : Machine HostFailure Unit := do
  rangeInBounds destination (← addWord w destination singleDecodeHeadDim) destinationLen
  rangeInBounds source (← addWord w source singleDecodeHeadDim) sourceLen

/-- One key/value head of one token: two rows copied into the pages. -/
def appendHead (w numKvHeads : Nat) (rotatedKey value : Slice B) (keyPagesLen valuePagesLen : Nat)
    (token : Nat) (slot : Nat × Nat) (kvHead : Nat) : Program HostFailure (AppendOut B) Unit := do
  let source ← compute (contiguousOffset w numKvHeads kvHead token)
  let destination ← compute (slotOffset w numKvHeads kvHead slot)
  compute (copyRanges w destination keyPagesLen source rotatedKey.len)
  modify fun out => { out with
    keyPages := writeRange destination singleDecodeHeadDim (fun c => rotatedKey.get (source + c))
      out.keyPages }
  compute (copyRanges w destination valuePagesLen source value.len)
  modify fun out => { out with
    valuePages := writeRange destination singleDecodeHeadDim (fun c => value.get (source + c))
      out.valuePages }

/-- The caller's query output and the local `rotated_key`, as the outputs of the rotary reference. -/
def ropePart (memory : AppendOut B × (Nat → B)) : RopeOut B := ⟨memory.1.queryOutput, memory.2⟩

/-- What the rotary reference leaves in them. -/
def putRopePart (memory : AppendOut B × (Nat → B)) (out : RopeOut B) : AppendOut B × (Nat → B) :=
  ({ memory.1 with queryOutput := out.queryOutput }, out.keyOutput)

/-- Rotation and copy loop of both references, once the metadata is validated. -/
def appendRotated (tokens numQueryHeads numKvHeads : Nat) (positions : Slice Int32)
    (slotFor : Nat → Machine HostFailure (Nat × Nat)) (query key value : Slice B)
    (queryOutputLen keyPagesLen valuePagesLen : Nat) (keyNumel : Machine HostFailure Nat) :
    Program HostFailure (AppendOut B) Unit := do
  let rope ← compute (lift (Bf16RopePosIdsSpec.new w tokens numQueryHeads numKvHeads
    singleDecodeHeadDim singleDecodeHeadDim f32One f32TenThousand))
  let rotatedLen ← compute keyNumel
  let ended ← withLocal (fun _ => nan) (onPart ropePart putRopePart
    (ropePosIdsBf16Reference rot query key positions queryOutputLen rotatedLen rope))
  forEach 0 tokens fun token => do
    let slot ← compute (slotFor token)
    forEach 0 numKvHeads
      (appendHead w numKvHeads ⟨rotatedLen, ended.2⟩ value keyPagesLen valuePagesLen token slot)

/-- The final position of a request, as an `i32`. -/
def finalPosition (table : PageTable w) (request : Nat) : Machine HostFailure Int32 := do
  let kvLen ← lift (expect (← table.requestKvLen request) "validated request has a KV length")
  lift (okOr (i32TryFrom (← subWord kvLen 1)) .elementCountOverflow)

/-- The checks of the single-token reference: the table, and the position of every request. -/
def checkAppend (query key value : Slice B) (pageIndptr pageIndices lastPageLen : Slice Int32)
    (queryOutputLen keyPagesLen valuePagesLen : Nat) (spec : Bf16RopePagedKvAppendSpec w) :
    Machine HostFailure (PageTable w × List Int32) := do
  requireAppendBuffers query key value queryOutputLen keyPagesLen valuePagesLen spec.paged.queryNumel
    spec.keyNumel spec.paged.kvPagesNumel
  let table ← spec.validatePageTable pageIndptr pageIndices lastPageLen
  let positions ← collectRange spec.paged.batchSize (finalPosition table)
  return (table, positions)

/-- The slot of a request's position. -/
def positionSlot (table : PageTable w) (positions : Slice Int32) (request : Nat) :
    Machine HostFailure (Nat × Nat) := do
  lift (expect (← table.physicalPageForToken request (asUsize w (positions.int request)))
    "validated final token maps to a physical slot")

def ropePagedKvAppendBf16Reference (query key value : Slice B)
    (pageIndptr pageIndices lastPageLen : Slice Int32)
    (queryOutputLen keyPagesLen valuePagesLen : Nat) (spec : Bf16RopePagedKvAppendSpec w) :
    Program HostFailure (AppendOut B) Unit := do
  let checked ← compute (checkAppend query key value pageIndptr pageIndices lastPageLen
    queryOutputLen keyPagesLen valuePagesLen spec)
  let positions := Slice.ofList checked.2
  appendRotated rot nan (w := w) positions.len spec.paged.numQueryHeads spec.paged.numKvHeads
    positions (positionSlot checked.1 positions) query key value queryOutputLen keyPagesLen
    valuePagesLen spec.keyNumel

/-- The checks of the multi-token reference. -/
def checkAppendTokens (query key value : Slice B)
    (batchIndices positions pageIndptr pageIndices lastPageLen : Slice Int32)
    (queryOutputLen keyPagesLen valuePagesLen : Nat) (spec : Bf16RopePagedKvAppendTokensSpec w) :
    Machine HostFailure (PageTable w × List (Nat × Nat)) := do
  requireAppendBuffers query key value queryOutputLen keyPagesLen valuePagesLen spec.queryNumel
    spec.keyNumel spec.paged.kvPagesNumel
  spec.validateMetadata batchIndices positions pageIndptr pageIndices lastPageLen

def ropePagedKvAppendTokensBf16Reference (query key value : Slice B)
    (batchIndices positions pageIndptr pageIndices lastPageLen : Slice Int32)
    (queryOutputLen keyPagesLen valuePagesLen : Nat) (spec : Bf16RopePagedKvAppendTokensSpec w) :
    Program HostFailure (AppendOut B) Unit := do
  let checked ← compute (checkAppendTokens query key value batchIndices positions pageIndptr
    pageIndices lastPageLen queryOutputLen keyPagesLen valuePagesLen spec)
  appendRotated rot nan (w := w) spec.tokens spec.paged.numQueryHeads spec.paged.numKvHeads positions
    (fun token => lift (expect checked.2[token]? "validated token has a physical slot"))
    query key value queryOutputLen keyPagesLen valuePagesLen spec.keyNumel

/-! ## The shared program does not stop -/

theorem requireAppendBuffers_eq_ok {query key value : Slice B}
    {queryOutputLen keyPagesLen valuePagesLen queryNumel keyNumel kvPagesNumel : Nat} :
    requireAppendBuffers query key value queryOutputLen keyPagesLen valuePagesLen (.ok queryNumel)
        (.ok keyNumel) (.ok kvPagesNumel) = .ok () ↔
      query.len = queryNumel ∧ key.len = keyNumel ∧ value.len = keyNumel ∧
        queryOutputLen = queryNumel ∧ keyPagesLen = kvPagesNumel ∧ valuePagesLen = kvPagesNumel := by
  simp only [requireAppendBuffers, ok_bind, check_bind_eq_ok, lift_eq_ok, requireLen_eq_ok]

/-- A head of a token, and the slot it is copied into, lie inside their buffers. -/
theorem appendHead_succeeds {tokens pages numKvHeads keyPagesLen valuePagesLen token kvHead : Nat}
    {rotatedKey value : Slice B} {slot : Nat × Nat}
    (key_len : rotatedKey.len = tokens * numKvHeads * singleDecodeHeadDim)
    (value_len : value.len = tokens * numKvHeads * singleDecodeHeadDim)
    (key_pages : keyPagesLen =
      pages * pagedBatchDecodePageSize * numKvHeads * singleDecodeHeadDim)
    (value_pages : valuePagesLen = keyPagesLen) (key_fits : rotatedKey.len < 2 ^ w)
    (pages_fit : keyPagesLen < 2 ^ w) (ht : token < tokens) (hk : kvHead < numKvHeads)
    (page_lt : slot.1 < pages) (offset_lt : slot.2 < pagedBatchDecodePageSize) :
    Succeeds (appendHead w numKvHeads rotatedKey value keyPagesLen valuePagesLen token slot
      kvHead) := by
  obtain ⟨source, source_end⟩ := contiguousOffset_ok ht hk (key_len ▸ key_fits)
  obtain ⟨destination, destination_end⟩ := slotOffset_ok page_lt offset_lt hk (key_pages ▸ pages_fit)
  have copies : ∀ sourceLen, sourceLen = tokens * numKvHeads * singleDecodeHeadDim →
      copyRanges w (LoomKernels.slotOffset numKvHeads kvHead slot) keyPagesLen
        ((token * numKvHeads + kvHead) * singleDecodeHeadDim) sourceLen = .ok () := by
    rintro _ rfl
    rw [copyRanges, addWord_ok (by omega), ok_bind, rangeInBounds_ok (by omega) (by omega), ok_bind,
      addWord_ok (by omega), ok_bind, rangeInBounds_ok (by omega) (by omega)]
  rw [appendHead, source, compute_ok, pure_bind, destination, compute_ok, pure_bind,
    copies _ key_len, compute_ok, pure_bind, value_pages, copies _ value_len, compute_ok]
  exact (haltsOnly_modify _).bind fun _ => (haltsOnly_pure _).bind fun _ => haltsOnly_modify _

/-- What `appendRotated` relies on. -/
structure AppendShape (w tokens pages numQueryHeads numKvHeads : Nat) (query key value : Slice B)
    (queryOutputLen keyPagesLen valuePagesLen : Nat) : Prop where
  tokens_pos : 0 < tokens
  queryHeads_pos : 0 < numQueryHeads
  kvHeads_pos : 0 < numKvHeads
  query_len : query.len = tokens * numQueryHeads * singleDecodeHeadDim
  key_len : key.len = tokens * numKvHeads * singleDecodeHeadDim
  value_len : value.len = tokens * numKvHeads * singleDecodeHeadDim
  output_len : queryOutputLen = tokens * numQueryHeads * singleDecodeHeadDim
  key_pages : keyPagesLen = pages * pagedBatchDecodePageSize * numKvHeads * singleDecodeHeadDim
  value_pages : valuePagesLen = pages * pagedBatchDecodePageSize * numKvHeads * singleDecodeHeadDim
  query_fits : tokens * numQueryHeads * singleDecodeHeadDim < 2 ^ w
  key_fits : tokens * numKvHeads * singleDecodeHeadDim < 2 ^ w
  pages_fit : pages * pagedBatchDecodePageSize * numKvHeads * singleDecodeHeadDim < 2 ^ w

theorem f32TenThousand_above_one :
    f32IsFinite f32TenThousand ∧ ¬ f32LeNonneg f32TenThousand f32One := by decide

/-- Validated tokens are rotated and copied without a stop. -/
theorem appendRotated_succeeds {tokens pages numQueryHeads numKvHeads : Nat}
    {query key value : Slice B} {queryOutputLen keyPagesLen valuePagesLen : Nat}
    (shape : AppendShape w tokens pages numQueryHeads numKvHeads query key value queryOutputLen
      keyPagesLen valuePagesLen) {positions : Slice Int32} (positions_len : positions.len = tokens)
    (positions_nonneg : ∀ token < tokens, 0 ≤ positions.int token)
    {slotFor : Nat → Machine HostFailure (Nat × Nat)}
    (slots : ∀ token < tokens, ∃ slot, slotFor token = .ok slot ∧ slot.1 < pages ∧
      slot.2 < pagedBatchDecodePageSize) :
    Succeeds (appendRotated rot nan (w := w) tokens numQueryHeads numKvHeads positions slotFor query
      key value queryOutputLen keyPagesLen valuePagesLen
      (.ok (tokens * numKvHeads * singleDecodeHeadDim))) := by
  let rope : Bf16RopePosIdsSpec w := {
    tokens, queryHeads := numQueryHeads, keyHeads := numKvHeads, headDim := singleDecodeHeadDim
    rotaryDim := singleDecodeHeadDim, ropeScale := f32One, ropeTheta := f32TenThousand
    tokens_pos := shape.tokens_pos
    queryHeads_pos := shape.queryHeads_pos
    keyHeads_pos := shape.kvHeads_pos
    headDim_pos := by decide
    rotary := by decide
    scale := f32One_positive
    theta := f32TenThousand_above_one
    query_fits := shape.query_fits
    key_fits := shape.key_fits }
  have made : Bf16RopePosIdsSpec.new w tokens numQueryHeads numKvHeads singleDecodeHeadDim
      singleDecodeHeadDim f32One f32TenThousand = .ok rope := rope.new_self
  have accepted : checkRope query key positions queryOutputLen
      (tokens * numKvHeads * singleDecodeHeadDim) rope = .ok () :=
    checkRope_eq_ok.mpr ⟨shape.query_len, shape.key_len, positions_len, shape.output_len, rfl,
      fun token _ ht => positions_nonneg token (positions_len ▸ ht)⟩
  rw [appendRotated, made, lift_ok, compute_ok, pure_bind, compute_ok, pure_bind]
  refine ((ropePosIdsBf16Reference_succeeds rot accepted).onPart.withLocal _).bind fun ended => ?_
  refine haltsOnly_forEach fun token _ ht => ?_
  obtain ⟨slot, found, page_lt, offset_lt⟩ := slots token ht
  rw [found, compute_ok, pure_bind]
  refine haltsOnly_forEach fun kvHead _ hk => ?_
  exact appendHead_succeeds rfl shape.value_len shape.key_pages
    (shape.value_pages.trans shape.key_pages.symm) shape.key_fits
    (shape.key_pages ▸ shape.pages_fit) ht hk page_lt offset_lt

/-! ## The single-token reference -/

section SingleToken

variable {table : PageTable w} (valid : table.Valid) {request : Nat}
  (hr : request < table.spec.batchSize)
include valid hr

theorem finalSlot_ok (fits : KvLenFits w table.pageIndptr table.lastPageLen request) :
    Bf16RopePagedKvAppendSpec.finalSlot table request =
      .ok (pagedFinalSlot table.pageIndptr table.pageIndices table.lastPageLen request) := by
  have positive := valid.wellFormed.kvLen_pos hr
  rw [Bf16RopePagedKvAppendSpec.finalSlot, valid.requestKvLen_ok, ok_bind, if_pos ⟨hr, fits⟩,
    expect_some, lift_ok, ok_bind, subWord_ok positive, ok_bind, valid.physicalPageForToken_ok,
    ok_bind, if_pos ⟨⟨hr, fits⟩, by omega⟩, expect_some, lift_ok]
  rfl

omit hr in
/-- The look-up of a final slot panics exactly on a length that is not a word. -/
theorem finalSlot_panics (long : ¬ KvLenFits w table.pageIndptr table.lastPageLen request) :
    Bf16RopePagedKvAppendSpec.finalSlot table request =
      .error (.failed (.panic "validated request has a KV length")) := by
  rw [Bf16RopePagedKvAppendSpec.finalSlot, valid.requestKvLen_ok, ok_bind,
    if_neg fun both => long both.2]
  rfl

theorem finalPosition_ok (fits : KvLenFits w table.pageIndptr table.lastPageLen request) :
    finalPosition table request = lift (okOr
      (i32TryFrom (pagedKvLen table.pageIndptr table.lastPageLen request - 1))
      .elementCountOverflow) := by
  rw [finalPosition, valid.requestKvLen_ok, ok_bind, if_pos ⟨hr, fits⟩, expect_some, lift_ok, ok_bind,
    subWord_ok (valid.wellFormed.kvLen_pos hr), ok_bind]

/-- The slot of a final position. -/
theorem positionSlot_ok (fits : KvLenFits w table.pageIndptr table.lastPageLen request)
    {positions : Slice Int32} (final : positions.int request =
      (pagedKvLen table.pageIndptr table.lastPageLen request - 1 : Nat)) :
    positionSlot table positions request =
      .ok (pagedFinalSlot table.pageIndptr table.pageIndices table.lastPageLen request) := by
  have positive := valid.wellFormed.kvLen_pos hr
  rw [positionSlot, asUsize_int (by omega) (by omega), final, Int.toNat_natCast,
    valid.physicalPageForToken_ok, ok_bind, if_pos ⟨⟨hr, fits⟩, by omega⟩, expect_some, lift_ok]
  rfl

end SingleToken

/-- The single-token validator accepts only tables of the decode validator, and of these only the
ones whose lengths are words. -/
theorem validatePageTable_lengths_fit {spec : Bf16RopePagedKvAppendSpec w}
    {pageIndptr pageIndices lastPageLen : Slice Int32} {table : PageTable w}
    (accepted : spec.validatePageTable pageIndptr pageIndices lastPageLen = .ok table) :
    table = ⟨spec.paged, pageIndptr, pageIndices, lastPageLen⟩ ∧ table.Valid ∧
      ∀ request < spec.paged.batchSize, KvLenFits w pageIndptr lastPageLen request := by
  obtain ⟨table', paged, rest⟩ := bind_eq_ok.mp accepted
  obtain ⟨rfl, valid⟩ := spec.paged.validatePageTable_eq_ok.mp paged
  rw [check_bind_eq_ok, checkRange_ok_iff] at rest
  obtain ⟨slots, returned⟩ := rest
  obtain rfl := Except.ok.inj returned
  refine ⟨rfl, valid, fun request hr => ?_⟩
  by_contra long
  have passed := slots request (Nat.zero_le _) hr
  rw [Bf16RopePagedKvAppendSpec.checkFinalSlots, finalSlot_panics valid long] at passed
  cases passed

/-- The shape of the buffers of a reference whose length checks have passed. -/
theorem appendShape {paged : Bf16PagedBatchDecodeSpec w} {tokens : Nat} (tokens_pos : 0 < tokens)
    (query_fits : tokens * paged.numQueryHeads * singleDecodeHeadDim < 2 ^ w)
    (key_fits : tokens * paged.numKvHeads * singleDecodeHeadDim < 2 ^ w)
    {query key value : Slice B} {queryOutputLen keyPagesLen valuePagesLen : Nat}
    (accepted : requireAppendBuffers query key value queryOutputLen keyPagesLen valuePagesLen
      (.ok (tokens * paged.numQueryHeads * singleDecodeHeadDim))
      (.ok (tokens * paged.numKvHeads * singleDecodeHeadDim)) paged.kvPagesNumel = .ok ()) :
    AppendShape w tokens paged.maxNumPages paged.numQueryHeads paged.numKvHeads query key value
      queryOutputLen keyPagesLen valuePagesLen := by
  rw [paged.kvPagesNumel_ok, requireAppendBuffers_eq_ok] at accepted
  obtain ⟨hq, hk, hv, ho, hkp, hvp⟩ := accepted
  exact ⟨tokens_pos, paged.queryHeads_pos, paged.kvHeads_pos, hq, hk, hv, ho, hkp, hvp, query_fits,
    key_fits, paged.pages_fit⟩

/-- On arguments that pass the checks, the single-token reference ends well. -/
theorem ropePagedKvAppendBf16Reference_succeeds {query key value : Slice B}
    {pageIndptr pageIndices lastPageLen : Slice Int32}
    {queryOutputLen keyPagesLen valuePagesLen : Nat} {spec : Bf16RopePagedKvAppendSpec w}
    {checked : PageTable w × List Int32}
    (accepted : checkAppend query key value pageIndptr pageIndices lastPageLen queryOutputLen
      keyPagesLen valuePagesLen spec = .ok checked) :
    Succeeds (ropePagedKvAppendBf16Reference rot nan query key value pageIndptr pageIndices
      lastPageLen queryOutputLen keyPagesLen valuePagesLen spec) := by
  rw [ropePagedKvAppendBf16Reference, accepted, compute_ok, pure_bind]
  rw [checkAppend, spec.paged.queryNumel_ok, spec.keyNumel_ok, check_bind_eq_ok] at accepted
  obtain ⟨buffers, rest⟩ := accepted
  obtain ⟨table, validated, rest⟩ := bind_eq_ok.mp rest
  obtain ⟨positions, collected, returned⟩ := bind_eq_ok.mp rest
  obtain rfl := Except.ok.inj returned
  obtain ⟨rfl, valid, fits⟩ := validatePageTable_lengths_fit validated
  obtain ⟨positions_len, final⟩ := collectRange_eq_ok.mp collected
  dsimp only
  have final : ∀ request < spec.paged.batchSize, (Slice.ofList positions).int request =
      (pagedKvLen pageIndptr lastPageLen request - 1 : Nat) := by
    intro request hr
    have found := final request (positions_len ▸ hr)
    rw [finalPosition_ok valid hr (fits request hr), lift_eq_ok, okOr_eq_ok, i32TryFrom_eq_some]
      at found
    have entry : (Slice.ofList positions).get request = positions[request] :=
      getElem!_pos positions request (positions_len ▸ hr)
    rw [Slice.int, entry]
    exact found
  have len : (Slice.ofList positions).len = spec.paged.batchSize := positions_len
  rw [len, spec.keyNumel_ok]
  refine appendRotated_succeeds rot nan
    (appendShape spec.paged.batch_pos spec.paged.query_fits spec.key_fits buffers) len
    (fun request hr => by rw [final request hr]; exact Int.natCast_nonneg _) fun request hr => ?_
  have slot := valid.wellFormed.slot_lt hr (Nat.sub_one_lt (valid.wellFormed.kvLen_pos hr).ne')
  exact ⟨_, positionSlot_ok valid hr (fits request hr) (final request hr), slot.1, slot.2⟩

/-! ## The multi-token reference -/

/-- A token passes only when its slot exists, and then the slot is recorded. -/
theorem validateToken_records {spec : Bf16RopePagedKvAppendTokensSpec w} {table : PageTable w}
    (valid : table.Valid) (hspec : table.spec = spec.paged) {batchIndices positions : Slice Int32}
    {token : Nat} {slots slots' : List (Nat × Nat)}
    (passed : spec.validateToken table batchIndices positions token slots = .ok slots') :
    0 ≤ positions.int token ∧ ∃ slot : Nat × Nat, slots' = slots ++ [slot] ∧
      slot.1 < spec.paged.maxNumPages ∧ slot.2 < pagedBatchDecodePageSize := by
  simp only [Bf16RopePagedKvAppendTokensSpec.validateToken, entry_bind_eq_ok, lift_okOr_bind_eq_ok,
    check_bind_eq_ok, lift_eq_ok, ensure_eq_ok] at passed
  obtain ⟨-, request, -, hr, rest⟩ := passed
  rw [valid.requestKvLen_ok, ok_bind] at rest
  by_cases fits : request < table.spec.batchSize ∧
      KvLenFits w table.pageIndptr table.lastPageLen request
  · rw [if_pos fits, expect_some, lift_ok, ok_bind, entry_bind_eq_ok, lift_okOr_bind_eq_ok] at rest
    obtain ⟨-, position, logical, rest⟩ := rest
    rw [valid.physicalPageForToken_ok, ok_bind, lift_okOr_bind_eq_ok] at rest
    obtain ⟨slot, found, recorded⟩ := rest
    rw [lift_eq_ok, recordSlot_eq_ok] at recorded
    have nonneg := (usizeTryFrom_eq_some.mp logical).1
    by_cases inside : position < pagedKvLen table.pageIndptr table.lastPageLen request
    · rw [if_pos ⟨fits, inside⟩, Option.some.injEq] at found
      have slot_lt := valid.wellFormed.slot_lt fits.1 inside
      rw [found, hspec] at slot_lt
      exact ⟨by omega, slot, recorded.2, slot_lt⟩
    · rw [if_neg fun both => inside both.2] at found
      cases found
  · rw [if_neg fits] at rest
    cases rest

/-- The slots of validated tokens. -/
theorem validateMetadata_slots {spec : Bf16RopePagedKvAppendTokensSpec w}
    {batchIndices positions pageIndptr pageIndices lastPageLen : Slice Int32}
    {checked : PageTable w × List (Nat × Nat)}
    (accepted : spec.validateMetadata batchIndices positions pageIndptr pageIndices lastPageLen =
      .ok checked) :
    positions.len = spec.tokens ∧
      (checked.1 = ⟨spec.paged, pageIndptr, pageIndices, lastPageLen⟩ ∧ checked.1.Valid) ∧
      checked.2.length = spec.tokens ∧
      (∀ token < spec.tokens, 0 ≤ positions.int token) ∧
      ∀ slot ∈ checked.2, slot.1 < spec.paged.maxNumPages ∧ slot.2 < pagedBatchDecodePageSize := by
  simp only [Bf16RopePagedKvAppendTokensSpec.validateMetadata, check_bind_eq_ok, lift_eq_ok,
    requireLen_eq_ok] at accepted
  obtain ⟨-, positions_len, rest⟩ := accepted
  obtain ⟨table, validated, rest⟩ := bind_eq_ok.mp rest
  obtain ⟨slots, run, returned⟩ := bind_eq_ok.mp rest
  obtain rfl := Except.ok.inj returned
  obtain ⟨rfl, valid⟩ := spec.paged.validatePageTable_eq_ok.mp validated
  refine ⟨positions_len, ⟨rfl, valid⟩, ?_⟩
  refine forRangeM_partial
    (P := fun n (slots : List (Nat × Nat)) => slots.length = n ∧
      (∀ token < n, 0 ≤ positions.int token) ∧
      ∀ slot ∈ slots, slot.1 < spec.paged.maxNumPages ∧ slot.2 < pagedBatchDecodePageSize)
    (Nat.zero_le _) run ⟨rfl, nofun, nofun⟩ ?_
  rintro token slots slots' _ ht ⟨len, nonneg, inside⟩ passed
  obtain ⟨here, slot, rfl, slot_lt⟩ := validateToken_records valid rfl passed
  refine ⟨by rw [List.length_append, len, List.length_singleton], fun t ht' => ?_, fun s hs => ?_⟩
  · rcases Nat.lt_succ_iff_lt_or_eq.mp ht' with before | rfl
    · exact nonneg t before
    · exact here
  · rcases List.mem_append.mp hs with before | last
    · exact inside s before
    · rw [List.mem_singleton.mp last]
      exact slot_lt

/-- On arguments that pass the checks, the multi-token reference ends well. -/
theorem ropePagedKvAppendTokensBf16Reference_succeeds {query key value : Slice B}
    {batchIndices positions pageIndptr pageIndices lastPageLen : Slice Int32}
    {queryOutputLen keyPagesLen valuePagesLen : Nat} {spec : Bf16RopePagedKvAppendTokensSpec w}
    {checked : PageTable w × List (Nat × Nat)}
    (accepted : checkAppendTokens query key value batchIndices positions pageIndptr pageIndices
      lastPageLen queryOutputLen keyPagesLen valuePagesLen spec = .ok checked) :
    Succeeds (ropePagedKvAppendTokensBf16Reference rot nan query key value batchIndices positions
      pageIndptr pageIndices lastPageLen queryOutputLen keyPagesLen valuePagesLen spec) := by
  rw [ropePagedKvAppendTokensBf16Reference, accepted, compute_ok, pure_bind]
  rw [checkAppendTokens, spec.queryNumel_ok, spec.keyNumel_ok, check_bind_eq_ok] at accepted
  obtain ⟨buffers, validated⟩ := accepted
  obtain ⟨positions_len, -, slots_len, nonneg, inside⟩ := validateMetadata_slots validated
  rw [spec.keyNumel_ok]
  refine appendRotated_succeeds rot nan
    (appendShape spec.tokens_pos spec.query_fits spec.key_fits buffers) positions_len nonneg
    fun token ht => ?_
  have listed : token < checked.2.length := slots_len ▸ ht
  have slot_lt := inside _ (List.getElem_mem listed)
  exact ⟨checked.2[token], by rw [List.getElem?_eq_getElem listed, expect_some, lift_ok], slot_lt⟩

end Append

end LoomKernels.Word
