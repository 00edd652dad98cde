import LoomKernels.Host.PagedDecode
import LoomKernels.Host.Rope

/-!
# Rotary embedding and paged append

Two append contracts over one page table. The single-token form appends to the final slot of every
request; the multi-token form takes an explicit request and position for each token. Both validators
reject two appends to one physical slot (`AppendTableValid`, `AppendTokensValid`), and both
references run the same loop over tokens and key/value heads, `appendPages`.

`AppendEffect` is what an append is for: every appended token is found in the slot of its position,
nothing else in the pages changes, and the query is rotated. Both references have exactly this
effect (`append_effect`).
-/

namespace LoomKernels

/-- `ROPE_PAGED_KV_APPEND_MAX_TOKENS` -/
abbrev ropePagedKvAppendMaxTokens : Nat := 64

/-! ## Single-token contract -/

structure Bf16RopePagedKvAppendSpec where
  paged : Bf16PagedBatchDecodeSpec

namespace Bf16RopePagedKvAppendSpec

def new (batchSize maxNumPages numQueryHeads numKvHeads headDim pageSize : Nat) :
    Host Bf16RopePagedKvAppendSpec := do
  return ⟨← Bf16PagedBatchDecodeSpec.new batchSize maxNumPages numQueryHeads numKvHeads headDim
    pageSize⟩

variable (spec : Bf16RopePagedKvAppendSpec)

def batchSize : Nat := spec.paged.batchSize

def maxNumPages : Nat := spec.paged.maxNumPages

def numQueryHeads : Nat := spec.paged.numQueryHeads

def numKvHeads : Nat := spec.paged.numKvHeads

def queryNumel : Nat := spec.paged.queryNumel

def keyNumel : Nat := spec.batchSize * spec.numKvHeads * singleDecodeHeadDim

def valueNumel : Nat := spec.keyNumel

def queryOutputNumel : Nat := spec.queryNumel

def kvPagesNumel : Nat := spec.paged.kvPagesNumel

def pageIndptrNumel : Nat := spec.paged.pageIndptrNumel

def lastPageLenNumel : Nat := spec.paged.lastPageLenNumel

/-- The slot of a request's final token, as the validator looks it up. -/
def finalSlot (table : Bf16PagedBatchDecodePageTable) (request : Nat) : Host (Nat × Nat) := do
  let kvLen ← expect (table.requestKvLen request) "validated request has a KV length"
  expect (table.physicalPageForToken request (kvLen - 1))
    "validated final token maps to a physical slot"

/-- One request's final slot against those of the requests after it. -/
def checkFinalSlots (table : Bf16PagedBatchDecodePageTable) (firstRequest : Nat) : Host Unit := do
  let firstSlot ← finalSlot table firstRequest
  checkRange (firstRequest + 1) spec.batchSize fun secondRequest => do
    let secondSlot ← finalSlot table secondRequest
    ensure (firstSlot ≠ secondSlot)
      (.duplicatePageAppendSlot firstRequest secondRequest firstSlot.1 firstSlot.2)

/-- The page table of the decode contract, with distinct final slots. -/
def validatePageTable (pageIndptr pageIndices lastPageLen : Slice Int32) :
    Host Bf16PagedBatchDecodePageTable := do
  let table ← spec.paged.validatePageTable pageIndptr pageIndices lastPageLen
  checkRange 0 spec.batchSize (spec.checkFinalSlots table)
  return table

end Bf16RopePagedKvAppendSpec

/-! ## Multi-token contract -/

/-- A multi-token contract that `new` accepts. -/
structure Bf16RopePagedKvAppendTokensSpec where
  paged : Bf16PagedBatchDecodeSpec
  tokens : Nat
  tokens_pos : 0 < tokens
  tokens_le : tokens ≤ ropePagedKvAppendMaxTokens
  query_fits : tokens * paged.numQueryHeads * singleDecodeHeadDim < usizeSize
  key_fits : tokens * paged.numKvHeads * singleDecodeHeadDim < usizeSize

namespace Bf16RopePagedKvAppendTokensSpec

def new (tokens batchSize maxNumPages numQueryHeads numKvHeads headDim pageSize : Nat) :
    Host Bf16RopePagedKvAppendTokensSpec := do
  if zero : tokens = 0 then fail .zeroDimension
  else if max : tokens > ropePagedKvAppendMaxTokens then
    fail (.unsupportedAppendTokenCount ropePagedKvAppendMaxTokens tokens)
  else
    let paged ← Bf16PagedBatchDecodeSpec.new batchSize maxNumPages numQueryHeads numKvHeads headDim
      pageSize
    -- `paged` holds the head counts it was given, and the head dimension it was given is 128
    if fits : tokens * paged.numQueryHeads * singleDecodeHeadDim < usizeSize ∧
        tokens * paged.numKvHeads * singleDecodeHeadDim < usizeSize then
      .ok {
        paged, tokens
        tokens_pos := by omega
        tokens_le := by omega
        query_fits := fits.1
        key_fits := fits.2 }
    else fail .elementCountOverflow

/-- `new` accepts every specification there is. -/
theorem new_self (spec : Bf16RopePagedKvAppendTokensSpec) :
    new spec.tokens spec.paged.batchSize spec.paged.maxNumPages spec.paged.numQueryHeads
      spec.paged.numKvHeads singleDecodeHeadDim pagedBatchDecodePageSize = .ok spec := by
  have h1 := spec.tokens_pos
  have h2 := spec.tokens_le
  rw [new, dif_neg (by omega), dif_neg (by omega), Bf16PagedBatchDecodeSpec.new_self, ok_bind,
    dif_pos ⟨spec.query_fits, spec.key_fits⟩]

variable (spec : Bf16RopePagedKvAppendTokensSpec)

def batchSize : Nat := spec.paged.batchSize

def maxNumPages : Nat := spec.paged.maxNumPages

def numQueryHeads : Nat := spec.paged.numQueryHeads

def numKvHeads : Nat := spec.paged.numKvHeads

def queryNumel : Nat := spec.tokens * spec.numQueryHeads * singleDecodeHeadDim

def keyNumel : Nat := spec.tokens * spec.numKvHeads * singleDecodeHeadDim

def valueNumel : Nat := spec.keyNumel

def queryOutputNumel : Nat := spec.queryNumel

def kvPagesNumel : Nat := spec.paged.kvPagesNumel

def batchIndicesNumel : Nat := spec.tokens

def positionsNumel : Nat := spec.tokens

def pageIndptrNumel : Nat := spec.paged.pageIndptrNumel

def lastPageLenNumel : Nat := spec.paged.lastPageLenNumel

end Bf16RopePagedKvAppendTokensSpec

/-- Validated token mapping; `slots` lists the physical slot of every token. -/
structure Bf16RopePagedKvAppendTokensMetadata where
  spec : Bf16RopePagedKvAppendTokensSpec
  table : Bf16PagedBatchDecodePageTable
  batchIndices : Slice Int32
  positions : Slice Int32
  slots : List (Nat × Nat)

def Bf16RopePagedKvAppendTokensMetadata.physicalSlotForToken
    (metadata : Bf16RopePagedKvAppendTokensMetadata) (token : Nat) : Option (Nat × Nat) :=
  metadata.slots[token]?

namespace Bf16RopePagedKvAppendTokensSpec

variable (spec : Bf16RopePagedKvAppendTokensSpec)

/-- The slot of a new token against the slots of the tokens before it. -/
def recordSlot (token : Nat) (slots : List (Nat × Nat)) (slot : Nat × Nat) :
    Host (List (Nat × Nat)) :=
  match slots.findIdx? (· == slot) with
  | some firstToken => fail (.duplicatePageAppendTokenSlot firstToken token slot.1 slot.2)
  | none => .ok (slots ++ [slot])

/-- One token of `validate_metadata`, after the slots of the tokens before it. -/
def validateToken (table : Bf16PagedBatchDecodePageTable) (batchIndices positions : Slice Int32)
    (token : Nat) (slots : List (Nat × Nat)) : Host (List (Nat × Nat)) := do
  let request ← okOr (usizeTryFrom (batchIndices.int token))
    (.appendBatchIndexOutOfRange token (batchIndices.int token) spec.batchSize)
  ensure (request < spec.batchSize)
    (.appendBatchIndexOutOfRange token (batchIndices.int token) spec.batchSize)
  let kvLen ← expect (table.requestKvLen request) "validated request has a KV length"
  let position ← okOr (usizeTryFrom (positions.int token))
    (.appendPositionOutOfRange token request (positions.int token) kvLen)
  let slot ← okOr (table.physicalPageForToken request position)
    (.appendPositionOutOfRange token request (positions.int token) kvLen)
  recordSlot token slots slot

def validateMetadata (batchIndices positions pageIndptr pageIndices lastPageLen : Slice Int32) :
    Host Bf16RopePagedKvAppendTokensMetadata := do
  requireLen "batch_indices" batchIndices.len spec.tokens
  requireLen "positions" positions.len spec.tokens
  let table ← spec.paged.validatePageTable pageIndptr pageIndices lastPageLen
  let slots ← forRangeM 0 spec.tokens (spec.validateToken table batchIndices positions) []
  return { spec, table, batchIndices, positions, slots }

end Bf16RopePagedKvAppendTokensSpec

/-! ## References -/

section References

variable {B : Type} (rot : Rotation B) (nan : B)

/-- The buffers an append writes. -/
structure AppendOut (B : Type) where
  queryOutput : Nat → B
  keyPages : Nat → B
  valuePages : Nat → B

/-- One key/value head of one token: two rows copied into the pages. -/
def appendHead (numKvHeads : Nat) (rotatedKey value : Nat → B) (token : Nat) (slot : Nat × Nat)
    (kvHead : Nat) (out : AppendOut B) : AppendOut B :=
  let source := (token * numKvHeads + kvHead) * singleDecodeHeadDim
  let destination := slotOffset numKvHeads kvHead slot
  { out with
    keyPages := writeRange destination singleDecodeHeadDim (fun c => rotatedKey (source + c))
      out.keyPages
    valuePages := writeRange destination singleDecodeHeadDim (fun c => value (source + c))
      out.valuePages }

/-- The copy loop of both references; they differ in how a token finds its slot. -/
def appendPages (tokens numKvHeads : Nat) (slotFor : Nat → Host (Nat × Nat))
    (rotatedKey value : Nat → B) (out : AppendOut B) : Host (AppendOut B) :=
  forRangeM 0 tokens
    (fun token out => do
      let slot ← slotFor token
      return forRange 0 numKvHeads (appendHead numKvHeads rotatedKey value token slot) out)
    out

/-- Rotation and copy loop of both references, once the metadata is validated. -/
def appendRotated (tokens numQueryHeads numKvHeads : Nat) (positions : Slice Int32)
    (slotFor : Nat → Host (Nat × Nat)) (query key value queryOutput keyPages valuePages : Slice B) :
    Host (AppendOut B) := do
  let rope ← Bf16RopePosIdsSpec.new tokens numQueryHeads numKvHeads singleDecodeHeadDim
    singleDecodeHeadDim f32One f32TenThousand
  let rotated ← ropePosIdsBf16Reference rot query key positions queryOutput
    ⟨tokens * numKvHeads * singleDecodeHeadDim, fun _ => nan⟩ rope
  appendPages tokens numKvHeads slotFor rotated.keyOutput value.get
    ⟨rotated.queryOutput, keyPages.get, valuePages.get⟩

/-- The final position of a request, as an `i32`. -/
def finalPosition (table : Bf16PagedBatchDecodePageTable) (request : Nat) : Host Int32 := do
  let kvLen ← expect (table.requestKvLen request) "validated request has a KV length"
  okOr (i32TryFrom (kvLen - 1)) .elementCountOverflow

/-- The slot of a request's position. -/
def positionSlot (table : Bf16PagedBatchDecodePageTable) (positions : Slice Int32) (request : Nat) :
    Host (Nat × Nat) :=
  expect (table.physicalPageForToken request (asUsize (positions.int request)))
    "validated final token maps to a physical slot"

def ropePagedKvAppendBf16Reference (query key value : Slice B)
    (pageIndptr pageIndices lastPageLen : Slice Int32) (queryOutput keyPages valuePages : Slice B)
    (spec : Bf16RopePagedKvAppendSpec) : Host (AppendOut B) := do
  requireLen "query" query.len spec.queryNumel
  requireLen "key" key.len spec.keyNumel
  requireLen "value" value.len spec.valueNumel
  requireLen "query_output" queryOutput.len spec.queryOutputNumel
  requireLen "key_pages" keyPages.len spec.kvPagesNumel
  requireLen "value_pages" valuePages.len spec.kvPagesNumel
  let table ← spec.validatePageTable pageIndptr pageIndices lastPageLen
  let positions ← collectRange spec.batchSize (finalPosition table)
  appendRotated rot nan spec.batchSize spec.numQueryHeads spec.numKvHeads (Slice.ofList positions)
    (positionSlot table (Slice.ofList positions)) query key value queryOutput keyPages valuePages

def ropePagedKvAppendTokensBf16Reference (query key value : Slice B)
    (batchIndices positions pageIndptr pageIndices lastPageLen : Slice Int32)
    (queryOutput keyPages valuePages : Slice B) (spec : Bf16RopePagedKvAppendTokensSpec) :
    Host (AppendOut B) := do
  requireLen "query" query.len spec.queryNumel
  requireLen "key" key.len spec.keyNumel
  requireLen "value" value.len spec.valueNumel
  requireLen "query_output" queryOutput.len spec.queryOutputNumel
  requireLen "key_pages" keyPages.len spec.kvPagesNumel
  requireLen "value_pages" valuePages.len spec.kvPagesNumel
  let metadata ← spec.validateMetadata batchIndices positions pageIndptr pageIndices lastPageLen
  appendRotated rot nan spec.tokens spec.numQueryHeads spec.numKvHeads positions
    (fun token => expect (metadata.physicalSlotForToken token)
      "validated token has a physical slot")
    query key value queryOutput keyPages valuePages

end References

/-! ## What the validators establish -/

/-- The slot of a request's final token. -/
def pagedFinalSlot (pageIndptr pageIndices lastPageLen : Slice Int32) (request : Nat) : Nat × Nat :=
  pagedSlot pageIndptr pageIndices request (pagedKvLen pageIndptr lastPageLen request - 1)

/-- A page table that the single-token validator accepts. -/
structure AppendTableValid (spec : Bf16RopePagedKvAppendSpec)
    (pageIndptr pageIndices lastPageLen : Slice Int32) : Prop where
  table : PageTableWellFormed spec.batchSize spec.maxNumPages pageIndptr pageIndices lastPageLen
  distinct : ∀ first second, first < second → second < spec.batchSize →
    pagedFinalSlot pageIndptr pageIndices lastPageLen first ≠
      pagedFinalSlot pageIndptr pageIndices lastPageLen second

theorem finalSlot_eq (table : Bf16PagedBatchDecodePageTable) {request : Nat}
    (h : request < table.spec.batchSize) :
    Bf16RopePagedKvAppendSpec.finalSlot table request =
      .ok (pagedFinalSlot table.pageIndptr table.pageIndices table.lastPageLen request) := by
  have pos := table.valid.kvLen_pos h
  rw [Bf16RopePagedKvAppendSpec.finalSlot, table.requestKvLen_eq h, expect_some, ok_bind,
    table.physicalPageForToken_eq h (by omega)]
  rfl

theorem checkFinalSlots_eq_ok (spec : Bf16RopePagedKvAppendSpec)
    (table : Bf16PagedBatchDecodePageTable) (hspec : table.spec = spec.paged) {first : Nat}
    (hf : first < spec.batchSize) :
    spec.checkFinalSlots table first = .ok () ↔
      ∀ second, first < second → second < spec.batchSize →
        pagedFinalSlot table.pageIndptr table.pageIndices table.lastPageLen first ≠
          pagedFinalSlot table.pageIndptr table.pageIndices table.lastPageLen second := by
  have inside : ∀ request < spec.batchSize, request < table.spec.batchSize := by
    rw [hspec]
    exact fun _ h => h
  rw [Bf16RopePagedKvAppendSpec.checkFinalSlots, finalSlot_eq table (inside first hf), ok_bind,
    checkRange_ok_iff]
  refine forall_congr' fun second => forall_congr' fun _ => forall_congr' fun hs => ?_
  rw [finalSlot_eq table (inside second hs), ok_bind, ensure_eq_ok]

/-- The single-token validator accepts exactly the well-formed tables with distinct final slots. -/
theorem Bf16RopePagedKvAppendSpec.validatePageTable_eq_ok (spec : Bf16RopePagedKvAppendSpec)
    {pageIndptr pageIndices lastPageLen : Slice Int32} {table : Bf16PagedBatchDecodePageTable} :
    spec.validatePageTable pageIndptr pageIndices lastPageLen = .ok table ↔
      ∃ valid : AppendTableValid spec pageIndptr pageIndices lastPageLen,
        table = ⟨spec.paged, pageIndptr, pageIndices, lastPageLen, valid.table⟩ := by
  rw [validatePageTable, bind_eq_ok]
  constructor
  · rintro ⟨t, ht, hrest⟩
    obtain ⟨valid, rfl⟩ := spec.paged.validatePageTable_eq_ok.mp ht
    rw [check_bind_eq_ok, checkRange_ok_iff] at hrest
    obtain ⟨pairs, hret⟩ := hrest
    refine ⟨⟨valid, fun first second hlt hs => ?_⟩, (Except.ok.inj hret).symm⟩
    exact (checkFinalSlots_eq_ok spec _ rfl (hlt.trans hs)).mp
      (pairs first (Nat.zero_le _) (hlt.trans hs)) second hlt hs
  · rintro ⟨valid, rfl⟩
    refine ⟨_, spec.paged.validatePageTable_ok valid.table, ?_⟩
    rw [check_bind_eq_ok, checkRange_ok_iff]
    exact ⟨fun first _ hf => (checkFinalSlots_eq_ok spec _ rfl hf).mpr (valid.distinct first), rfl⟩

/-- The request of a token of a multi-token append. -/
def appendRequest (batchIndices : Slice Int32) (token : Nat) : Nat := (batchIndices.int token).toNat

/-- The position of a token of a multi-token append. -/
def appendPosition (positions : Slice Int32) (token : Nat) : Nat := (positions.int token).toNat

/-- The slot of a token of a multi-token append. -/
def appendSlotOf (batchIndices positions pageIndptr pageIndices : Slice Int32) (token : Nat) :
    Nat × Nat :=
  pagedSlot pageIndptr pageIndices (appendRequest batchIndices token)
    (appendPosition positions token)

/-- What the multi-token validator checks of one token, apart from the other tokens. -/
structure AppendTokenInRange (batchSize : Nat) (batchIndices positions pageIndptr lastPageLen :
    Slice Int32) (token : Nat) : Prop where
  request_nonneg : 0 ≤ batchIndices.int token
  request_lt : appendRequest batchIndices token < batchSize
  position_nonneg : 0 ≤ positions.int token
  position_lt : appendPosition positions token <
    pagedKvLen pageIndptr lastPageLen (appendRequest batchIndices token)

/-- Metadata that the multi-token validator accepts. -/
structure AppendTokensValid (spec : Bf16RopePagedKvAppendTokensSpec)
    (batchIndices positions pageIndptr pageIndices lastPageLen : Slice Int32) : Prop where
  batch_len : batchIndices.len = spec.tokens
  positions_len : positions.len = spec.tokens
  table : PageTableWellFormed spec.batchSize spec.maxNumPages pageIndptr pageIndices lastPageLen
  token : ∀ token < spec.tokens,
    AppendTokenInRange spec.batchSize batchIndices positions pageIndptr lastPageLen token
  distinct : ∀ first second, first < second → second < spec.tokens →
    appendSlotOf batchIndices positions pageIndptr pageIndices first ≠
      appendSlotOf batchIndices positions pageIndptr pageIndices second

theorem recordSlot_eq_ok {token : Nat} {slots slots' : List (Nat × Nat)} {slot : Nat × Nat} :
    Bf16RopePagedKvAppendTokensSpec.recordSlot token slots slot = .ok slots' ↔
      slot ∉ slots ∧ slots' = slots ++ [slot] := by
  have fresh : slots.findIdx? (· == slot) = none ↔ slot ∉ slots := by
    rw [List.findIdx?_eq_none_iff]
    exact ⟨fun h hmem => by simpa using h slot hmem,
      fun h x hx => beq_false_of_ne fun he => h (he ▸ hx)⟩
  unfold Bf16RopePagedKvAppendTokensSpec.recordSlot
  split
  · rename_i found
    have : slot ∈ slots := by
      by_contra h
      rw [fresh.mpr h] at found
      cases found
    simp [fail, this]
  · rename_i found
    simp [fresh.mp found, eq_comm]

/-- One token passes when it is in range and its slot is new. -/
theorem validateToken_eq_ok (spec : Bf16RopePagedKvAppendTokensSpec)
    (table : Bf16PagedBatchDecodePageTable) (hspec : table.spec = spec.paged)
    {batchIndices positions : Slice Int32} {token : Nat} {slots slots' : List (Nat × Nat)} :
    spec.validateToken table batchIndices positions token slots = .ok slots' ↔
      AppendTokenInRange spec.batchSize batchIndices positions table.pageIndptr table.lastPageLen
        token ∧
      appendSlotOf batchIndices positions table.pageIndptr table.pageIndices token ∉ slots ∧
      slots' =
        slots ++ [appendSlotOf batchIndices positions table.pageIndptr table.pageIndices token] := by
  have inside : ∀ request < spec.batchSize, request < table.spec.batchSize := by
    rw [hspec]
    exact fun _ h => h
  simp only [Bf16RopePagedKvAppendTokensSpec.validateToken, okOr_bind_eq_ok, check_bind_eq_ok,
    ensure_eq_ok, usizeTryFrom_eq_some]
  constructor
  · rintro ⟨request, hreq, hlt, rest⟩
    rw [table.requestKvLen_eq (inside _ hlt), expect_some, ok_bind, okOr_bind_eq_ok] at rest
    obtain ⟨position, hpos, rest⟩ := rest
    rw [usizeTryFrom_eq_some] at hpos
    rw [okOr_bind_eq_ok] at rest
    obtain ⟨slot, hslot, rest⟩ := rest
    have hr : appendRequest batchIndices token = request := by rw [appendRequest, hreq]; rfl
    have hp : appendPosition positions token = position := by rw [appendPosition, hpos]; rfl
    by_cases hkv : position < pagedKvLen table.pageIndptr table.lastPageLen request
    · rw [table.physicalPageForToken_eq (inside _ hlt) hkv, Option.some.injEq, ← hr, ← hp] at hslot
      subst hslot
      exact ⟨⟨by omega, by rw [hr]; exact hlt, by omega, by rw [hr, hp]; exact hkv⟩,
        recordSlot_eq_ok.mp rest⟩
    · rw [table.physicalPageForToken_none (inside _ hlt) (by omega)] at hslot
      cases hslot
  · rintro ⟨range, fresh⟩
    have hlt := range.request_lt
    refine ⟨appendRequest batchIndices token, (Int.toNat_of_nonneg range.request_nonneg).symm, hlt, ?_⟩
    rw [table.requestKvLen_eq (inside _ hlt), expect_some, ok_bind,
      usizeTryFrom_eq_some.mpr (Int.toNat_of_nonneg range.position_nonneg).symm, okOr_some, ok_bind,
      table.physicalPageForToken_eq (inside _ hlt) (show (positions.int token).toNat < _ from
        range.position_lt), okOr_some, ok_bind]
    exact recordSlot_eq_ok.mpr fresh

/-- The slots of all tokens, in order. -/
def appendSlots (spec : Bf16RopePagedKvAppendTokensSpec)
    (batchIndices positions pageIndptr pageIndices : Slice Int32) : List (Nat × Nat) :=
  (List.range spec.tokens).map (appendSlotOf batchIndices positions pageIndptr pageIndices)

/-- The multi-token validator accepts exactly the valid metadata, and lists the slots. -/
theorem Bf16RopePagedKvAppendTokensSpec.validateMetadata_eq_ok
    (spec : Bf16RopePagedKvAppendTokensSpec)
    {batchIndices positions pageIndptr pageIndices lastPageLen : Slice Int32}
    {metadata : Bf16RopePagedKvAppendTokensMetadata} :
    spec.validateMetadata batchIndices positions pageIndptr pageIndices lastPageLen =
        .ok metadata ↔
      ∃ valid : AppendTokensValid spec batchIndices positions pageIndptr pageIndices lastPageLen,
        metadata = {
          spec, batchIndices, positions
          table := ⟨spec.paged, pageIndptr, pageIndices, lastPageLen, valid.table⟩
          slots := appendSlots spec batchIndices positions pageIndptr pageIndices } := by
  simp only [validateMetadata, check_bind_eq_ok, requireLen_eq_ok]
  constructor
  · rintro ⟨hb, hp, rest⟩
    obtain ⟨table, htable, rest⟩ := bind_eq_ok.mp rest
    obtain ⟨valid, rfl⟩ := spec.paged.validatePageTable_eq_ok.mp htable
    obtain ⟨slots, hslots, hret⟩ := bind_eq_ok.mp rest
    -- after `n` tokens: all in range, and the list of their slots has no repetition
    have loop := forRangeM_partial
      (P := fun n (slots : List (Nat × Nat)) =>
        slots = (List.range n).map (appendSlotOf batchIndices positions pageIndptr pageIndices) ∧
        slots.Nodup ∧ ∀ token < n, AppendTokenInRange spec.batchSize batchIndices positions
          pageIndptr lastPageLen token)
      (Nat.zero_le _) hslots ⟨rfl, List.nodup_nil, by simp⟩ ?_
    · obtain ⟨rfl, nodup, range⟩ := loop
      refine ⟨⟨hb, hp, valid, range, fun first second hlt hs he => ?_⟩, (Except.ok.inj hret).symm⟩
      exact hlt.ne ((List.nodup_map_iff_inj_on List.nodup_range).mp nodup first
        (List.mem_range.mpr (hlt.trans hs)) second (List.mem_range.mpr hs) he)
    · rintro token slots slots' _ _ ⟨rfl, nodup, range⟩ hstep
      obtain ⟨here, fresh, rfl⟩ := (validateToken_eq_ok spec _ rfl).mp hstep
      refine ⟨by rw [List.range_succ, List.map_append]; rfl, ?_, fun t ht => ?_⟩
      · exact List.nodup_append'.mpr ⟨nodup, List.nodup_singleton _,
          List.disjoint_singleton.mpr fresh⟩
      · rcases Nat.lt_succ_iff_lt_or_eq.mp ht with hlt | rfl
        · exact range t hlt
        · exact here
  · rintro ⟨valid, rfl⟩
    refine ⟨valid.batch_len, valid.positions_len, ?_⟩
    rw [spec.paged.validatePageTable_ok valid.table, ok_bind]
    obtain ⟨slots, hslots, rfl⟩ : ∃ slots, forRangeM 0 spec.tokens (spec.validateToken
        ⟨spec.paged, pageIndptr, pageIndices, lastPageLen, valid.table⟩ batchIndices positions) [] =
        .ok slots ∧ slots = (List.range spec.tokens).map
          (appendSlotOf batchIndices positions pageIndptr pageIndices) := by
      refine forRangeM_invariant (P := fun n slots => slots = (List.range n).map
        (appendSlotOf batchIndices positions pageIndptr pageIndices)) (Nat.zero_le _) rfl ?_
      rintro token _ _ ht rfl
      refine ⟨_, (validateToken_eq_ok spec _ rfl).mpr ⟨valid.token token ht, ?_, rfl⟩,
        by rw [List.range_succ, List.map_append]; rfl⟩
      rw [List.mem_map]
      rintro ⟨first, hfirst, he⟩
      exact valid.distinct first token (List.mem_range.mp hfirst) ht he
    rw [hslots]
    rfl

end LoomKernels
