import LoomKernels.Host.PagedAppend

/-!
# The effect of an append

`AppendEffect` says what an append does: the rotated key and the value of every appended token and
head are in the slot of the token's request and position, every other element of the pages is as
before, and the query output is the rotated query. It does not mention the order of the copies; that
no later copy lands on an earlier token's slot rests on the distinct slots the validators establish.
-/

namespace LoomKernels

variable {B : Type}

/-! ## The specification -/

/-- The rotation of the append contracts: the whole head, scale `1.0`, theta `10_000.0`. -/
def appendRotation (rot : Rotation B) (position : Nat) : Nat → B → B → B × B :=
  rot singleDecodeHeadDim f32One f32TenThousand position

/-- The effect of appending `tokens` tokens, token `t` at `position t` of request `request t`. -/
structure AppendEffect (rot : Rotation B) (table : Bf16PagedBatchDecodePageTable)
    (tokens numQueryHeads numKvHeads : Nat) (request position : Nat → Nat)
    (query key value : Nat → B) (before out : AppendOut B) : Prop where
  stored : ∀ token < tokens, ∀ head < numKvHeads,
    ∃ slot, table.physicalPageForToken (request token) (position token) = some slot ∧
      ∀ c < 128,
        out.keyPages (slotOffset numKvHeads head slot + c) =
          rotatedHead 64 (appendRotation rot (position token)) key
            ((token * numKvHeads + head) * 128) c ∧
        out.valuePages (slotOffset numKvHeads head slot + c) =
          value ((token * numKvHeads + head) * 128 + c)
  frame : ∀ i, (∀ token < tokens, ∀ head < numKvHeads, ∀ slot,
      table.physicalPageForToken (request token) (position token) = some slot →
      ¬ (slotOffset numKvHeads head slot ≤ i ∧ i < slotOffset numKvHeads head slot + 128)) →
    out.keyPages i = before.keyPages i ∧ out.valuePages i = before.valuePages i
  rotated_query : ∀ token < tokens, ∀ head < numQueryHeads, ∀ c < 128,
    out.queryOutput ((token * numQueryHeads + head) * 128 + c) =
      rotatedHead 64 (appendRotation rot (position token)) query
        ((token * numQueryHeads + head) * 128) c

/-- Only the requests and positions of the appended tokens matter. -/
theorem AppendEffect.congr {rot : Rotation B} {table : Bf16PagedBatchDecodePageTable}
    {tokens numQueryHeads numKvHeads : Nat} {request request' position position' : Nat → Nat}
    {query key value : Nat → B} {before out : AppendOut B}
    (hr : ∀ token < tokens, request token = request' token)
    (hp : ∀ token < tokens, position token = position' token)
    (effect : AppendEffect rot table tokens numQueryHeads numKvHeads request position query key value
      before out) :
    AppendEffect rot table tokens numQueryHeads numKvHeads request' position' query key value before
      out := by
  refine ⟨fun token ht => ?_, fun i hi => effect.frame i fun token ht => ?_, fun token ht => ?_⟩
  · rw [← hr token ht, ← hp token ht]
    exact effect.stored token ht
  · rw [hr token ht, hp token ht]
    exact hi token ht
  · rw [← hp token ht]
    exact effect.rotated_query token ht

/-! ## The copy loop -/

section Loop

variable {tokens numKvHeads : Nat} {slot : Nat → Nat × Nat} {rotatedKey value : Nat → B}

/-- The row of the pages that receives row `token * num_kv_heads + kv_head`. -/
def appendRow (numKvHeads : Nat) (slot : Nat → Nat × Nat) (row : Nat) : Nat :=
  ((slot (row / numKvHeads)).1 * 16 + (slot (row / numKvHeads)).2) * numKvHeads + row % numKvHeads

/-- The copy loop, once every token has its slot. -/
def appendLoop (tokens numKvHeads : Nat) (slot : Nat → Nat × Nat) (rotatedKey value : Nat → B)
    (out : AppendOut B) : AppendOut B :=
  forRange 0 tokens
    (fun token out =>
      forRange 0 numKvHeads (appendHead numKvHeads rotatedKey value token (slot token)) out)
    out

theorem appendPages_eq {slotFor : Nat → Host (Nat × Nat)}
    (found : ∀ token < tokens, slotFor token = .ok (slot token)) (out : AppendOut B) :
    appendPages tokens numKvHeads slotFor rotatedKey value out =
      .ok (appendLoop tokens numKvHeads slot rotatedKey value out) := by
  refine forRangeM_ok out fun token s _ ht => ?_
  rw [found token ht]
  rfl

/-- The rows copied into the pages, for the key pages and for the value pages. -/
theorem appendLoop_pages (out : AppendOut B) :
    (appendLoop tokens numKvHeads slot rotatedKey value out).keyPages =
        forRange 0 (tokens * numKvHeads)
          (fun row mem => writeRange (appendRow numKvHeads slot row * 128) 128
            (fun c => rotatedKey (row * 128 + c)) mem) out.keyPages ∧
      (appendLoop tokens numKvHeads slot rotatedKey value out).valuePages =
        forRange 0 (tokens * numKvHeads)
          (fun row mem => writeRange (appendRow numKvHeads slot row * 128) 128
            (fun c => value (row * 128 + c)) mem) out.valuePages := by
  rw [appendLoop, forRange_nested]
  constructor
  · refine forRange_view AppendOut.keyPages (fun row s => ?_) _ _ _
    simp only [appendHead, Nat.div_add_mod']
    rfl
  · refine forRange_view AppendOut.valuePages (fun row s => ?_) _ _ _
    simp only [appendHead, Nat.div_add_mod']
    rfl

theorem appendLoop_queryOutput (out : AppendOut B) :
    (appendLoop tokens numKvHeads slot rotatedKey value out).queryOutput = out.queryOutput := by
  rw [appendLoop, forRange_nested]
  exact forRange_invariant (P := fun _ (s : AppendOut B) => s.queryOutput = out.queryOutput)
    (Nat.zero_le _) rfl fun _ _ _ _ h => h

/-- Distinct slots give distinct rows. -/
theorem appendRow_injective (offset : ∀ token < tokens, (slot token).2 < 16)
    (distinct : ∀ t < tokens, ∀ u < tokens, slot t = slot u → t = u) :
    ∀ r < tokens * numKvHeads, ∀ r' < tokens * numKvHeads,
      appendRow numKvHeads slot r = appendRow numKvHeads slot r' → r = r' := by
  intro r hr r' hr' h
  have heads : 0 < numKvHeads := by
    rcases Nat.eq_zero_or_pos numKvHeads with rfl | h
    · simp at hr
    · exact h
  have ht := (lt_rows_iff heads).mpr hr
  have ht' := (lt_rows_iff heads).mpr hr'
  have hm := Nat.mod_lt r heads
  have hm' := Nat.mod_lt r' heads
  have hmod : r % numKvHeads = r' % numKvHeads := by
    have := congrArg (· % numKvHeads) h
    simpa only [appendRow, row_mod hm, row_mod hm'] using this
  have hdiv : (slot (r / numKvHeads)).1 * 16 + (slot (r / numKvHeads)).2 =
      (slot (r' / numKvHeads)).1 * 16 + (slot (r' / numKvHeads)).2 := by
    have := congrArg (· / numKvHeads) h
    simpa only [appendRow, row_div hm, row_div hm'] using this
  have ho := offset _ ht
  have ho' := offset _ ht'
  have hslot : slot (r / numKvHeads) = slot (r' / numKvHeads) := Prod.ext (by omega) (by omega)
  have htoken := distinct _ ht _ ht' hslot
  rw [← Nat.div_add_mod' r numKvHeads, ← Nat.div_add_mod' r' numKvHeads, htoken, hmod]

theorem slotOffset_eq_row {token head : Nat} (hh : head < numKvHeads) :
    slotOffset numKvHeads head (slot token) =
      appendRow numKvHeads slot (token * numKvHeads + head) * 128 := by
  rw [appendRow, row_div hh, row_mod hh]
  rfl

/-- The loop has the effect of an append, when every token is found in its slot, the slots are
distinct, and the rows it copies from are rotated. -/
theorem appendLoop_effect {rot : Rotation B} {table : Bf16PagedBatchDecodePageTable}
    {numQueryHeads : Nat} {request position : Nat → Nat} {query key rotatedQuery : Nat → B}
    {before : AppendOut B}
    (found : ∀ token < tokens,
      table.physicalPageForToken (request token) (position token) = some (slot token))
    (offset : ∀ token < tokens, (slot token).2 < 16)
    (distinct : ∀ t < tokens, ∀ u < tokens, slot t = slot u → t = u)
    (keys : ∀ row < tokens * numKvHeads, ∀ c < 128, rotatedKey (row * 128 + c) =
      rotatedHead 64 (appendRotation rot (position (row / numKvHeads))) key (row * 128) c)
    (queries : ∀ row < tokens * numQueryHeads, ∀ c < 128, rotatedQuery (row * 128 + c) =
      rotatedHead 64 (appendRotation rot (position (row / numQueryHeads))) query (row * 128) c) :
    AppendEffect rot table tokens numQueryHeads numKvHeads request position query key value before
      (appendLoop tokens numKvHeads slot rotatedKey value
        ⟨rotatedQuery, before.keyPages, before.valuePages⟩) := by
  have injective : ∀ r < tokens * numKvHeads, ∀ r' < tokens * numKvHeads,
      appendRow numKvHeads slot r = appendRow numKvHeads slot r' → r = r' :=
    appendRow_injective offset distinct
  refine ⟨fun token ht head hh => ⟨slot token, found token ht, fun c hc => ?_⟩, fun i hi => ?_,
    fun token ht head hh c hc => ?_⟩
  · have hrow : token * numKvHeads + head < tokens * numKvHeads := rowMajor_lt ht hh
    have hdest : (slotOffset numKvHeads head (slot token) + c) / 128 =
        appendRow numKvHeads slot (token * numKvHeads + head) := by
      rw [slotOffset_eq_row hh, row_div hc]
    have hcol : (slotOffset numKvHeads head (slot token) + c) % 128 = c := by
      rw [slotOffset_eq_row hh, row_mod hc]
    rw [(appendLoop_pages _).1, (appendLoop_pages _).2,
      scatterRows_at (by omega) injective hrow hdest, scatterRows_at (by omega) injective hrow hdest,
      hcol, keys _ hrow c hc, row_div hh]
    exact ⟨rfl, rfl⟩
  · have outside : ∀ row < tokens * numKvHeads, i / 128 ≠ appendRow numKvHeads slot row := by
      intro row hrow he
      have heads : 0 < numKvHeads := by
        rcases Nat.eq_zero_or_pos numKvHeads with rfl | h
        · simp at hrow
        · exact h
      have ht := (lt_rows_iff heads).mpr hrow
      have hh := Nat.mod_lt row heads
      refine hi (row / numKvHeads) ht (row % numKvHeads) hh _ (found _ ht) ?_
      rw [slotOffset_eq_row hh, Nat.div_add_mod']
      exact (mem_row_iff (by omega)).mpr he
    rw [(appendLoop_pages _).1, (appendLoop_pages _).2]
    exact ⟨scatterRows_frame (by omega) outside, scatterRows_frame (by omega) outside⟩
  · rw [appendLoop_queryOutput]
    exact (queries _ (rowMajor_lt ht hh) c hc).trans (by rw [row_div hh])

end Loop

/-! ## The references -/

/-- There are no more key/value heads than query heads. -/
theorem Bf16PagedBatchDecodeSpec.kvHeads_le (spec : Bf16PagedBatchDecodeSpec) :
    spec.numKvHeads ≤ spec.numQueryHeads :=
  Nat.le_of_dvd spec.queryHeads_pos (Nat.dvd_of_mod_eq_zero spec.group)

/-- The rotary contract of an append of `tokens` tokens. -/
def appendRope (paged : Bf16PagedBatchDecodeSpec) (tokens : Nat) (tokens_pos : 0 < tokens)
    (fits : tokens * paged.numQueryHeads * singleDecodeHeadDim < usizeSize) :
    Bf16RopePosIdsSpec where
  tokens := tokens
  queryHeads := paged.numQueryHeads
  keyHeads := paged.numKvHeads
  headDim := singleDecodeHeadDim
  rotaryDim := singleDecodeHeadDim
  ropeScale := f32One
  ropeTheta := f32TenThousand
  tokens_pos := tokens_pos
  queryHeads_pos := paged.queryHeads_pos
  keyHeads_pos := paged.kvHeads_pos
  headDim_pos := by decide
  rotary := by decide
  scale := f32One_positive
  theta := by decide
  query_fits := fits
  key_fits :=
    (Nat.mul_le_mul_right _ (Nat.mul_le_mul_left _ paged.kvHeads_le)).trans_lt fits

/-- The rotated heads of an append: row `token * heads + head` of `input`, rotated to the position
of the token. -/
def appendRotate (rot : Rotation B) (positions : Slice Int32) (heads : Nat) (input before : Nat → B)
    (i : Nat) : B :=
  if i / 128 < positions.len * heads then
    rotatedHead 64 (rot singleDecodeHeadDim f32One f32TenThousand (positions.int (i / 128 / heads)))
      input (i / 128 * 128) (i % 128)
  else before i

section References

variable {rot : Rotation B} {nan : B} {query key value queryOutput keyPages valuePages : Slice B}

theorem rotateTensor_appendRope (paged : Bf16PagedBatchDecodeSpec) {tokens : Nat}
    (tokens_pos : 0 < tokens)
    (fits : tokens * paged.numQueryHeads * singleDecodeHeadDim < usizeSize) (positions : Slice Int32)
    (heads : Nat) (input before : Nat → B) :
    rotateTensor rot input positions heads (appendRope paged tokens tokens_pos fits) before =
      appendRotate rot positions heads input before := by
  funext i
  rw [rotateTensor_apply rot input positions heads (appendRope paged tokens tokens_pos fits) rfl]
  simp only [appendRope, appendRotate, singleDecodeHeadDim, Nat.reduceDiv]
  exact if_congr Iff.rfl rfl rfl

/-- Rotation and copy loop succeed when the positions are not negative and every token has a
slot. -/
theorem appendRotated_eq {paged : Bf16PagedBatchDecodeSpec} {tokens : Nat} (tokens_pos : 0 < tokens)
    (fits : tokens * paged.numQueryHeads * singleDecodeHeadDim < usizeSize)
    {positions : Slice Int32} {slotFor : Nat → Host (Nat × Nat)} {slot : Nat → Nat × Nat}
    (hq : query.len = tokens * paged.numQueryHeads * singleDecodeHeadDim)
    (hk : key.len = tokens * paged.numKvHeads * singleDecodeHeadDim)
    (ho : queryOutput.len = tokens * paged.numQueryHeads * singleDecodeHeadDim)
    (hp : positions.len = tokens) (nonneg : ∀ token < tokens, 0 ≤ positions.int token)
    (found : ∀ token < tokens, slotFor token = .ok (slot token)) :
    appendRotated rot nan tokens paged.numQueryHeads paged.numKvHeads positions slotFor query key
        value queryOutput keyPages valuePages =
      .ok (appendLoop tokens paged.numKvHeads slot
        (appendRotate rot positions paged.numKvHeads key.get fun _ => nan) value.get
        ⟨appendRotate rot positions paged.numQueryHeads query.get queryOutput.get, keyPages.get,
          valuePages.get⟩) := by
  have rope : Bf16RopePosIdsSpec.new tokens paged.numQueryHeads paged.numKvHeads singleDecodeHeadDim
      singleDecodeHeadDim f32One f32TenThousand = .ok (appendRope paged tokens tokens_pos fits) :=
    Bf16RopePosIdsSpec.new_self (appendRope paged tokens tokens_pos fits)
  have rotated : ropePosIdsBf16Reference rot query key positions queryOutput
      ⟨tokens * paged.numKvHeads * singleDecodeHeadDim, fun _ => nan⟩
      (appendRope paged tokens tokens_pos fits) = .ok _ :=
    (ropePosIdsBf16Reference_eq_ok rot).mpr ⟨hq, hk, hp, ho, rfl,
      fun token _ ht => nonneg token (hp ▸ ht), rfl⟩
  rw [appendRotated, rope, ok_bind, rotated, ok_bind, appendPages_eq found]
  simp only [rotateTensor_appendRope]
  rfl

/-- The lengths that both append references require. -/
structure AppendLengths (queryNumel keyNumel valueNumel queryOutputNumel kvPagesNumel : Nat)
    (query key value queryOutput keyPages valuePages : Slice B) : Prop where
  query : query.len = queryNumel
  key : key.len = keyNumel
  value : value.len = valueNumel
  queryOutput : queryOutput.len = queryOutputNumel
  keyPages : keyPages.len = kvPagesNumel
  valuePages : valuePages.len = kvPagesNumel

variable {batchIndices positions pageIndptr pageIndices lastPageLen : Slice Int32}

/-- What the multi-token reference computes on metadata it accepts. -/
def tokensAppendOut (rot : Rotation B) (nan : B) (query key value : Nat → B)
    (batchIndices positions pageIndptr pageIndices : Slice Int32) (before : AppendOut B)
    (spec : Bf16RopePagedKvAppendTokensSpec) : AppendOut B :=
  appendLoop spec.tokens spec.numKvHeads (appendSlotOf batchIndices positions pageIndptr pageIndices)
    (appendRotate rot positions spec.numKvHeads key fun _ => nan) value
    ⟨appendRotate rot positions spec.numQueryHeads query before.queryOutput, before.keyPages,
      before.valuePages⟩

/-- The multi-token reference succeeds exactly on exact lengths and valid metadata. -/
theorem tokensReference_eq_ok {spec : Bf16RopePagedKvAppendTokensSpec} {out : AppendOut B} :
    ropePagedKvAppendTokensBf16Reference rot nan query key value batchIndices positions pageIndptr
        pageIndices lastPageLen queryOutput keyPages valuePages spec = .ok out ↔
      AppendLengths spec.queryNumel spec.keyNumel spec.valueNumel spec.queryOutputNumel
        spec.kvPagesNumel query key value queryOutput keyPages valuePages ∧
      AppendTokensValid spec batchIndices positions pageIndptr pageIndices lastPageLen ∧
      out = tokensAppendOut rot nan query.get key.get value.get batchIndices positions pageIndptr
        pageIndices ⟨queryOutput.get, keyPages.get, valuePages.get⟩ spec := by
  simp only [ropePagedKvAppendTokensBf16Reference, check_bind_eq_ok, requireLen_eq_ok]
  have run : ∀ valid : AppendTokensValid spec batchIndices positions pageIndptr pageIndices
      lastPageLen, query.len = spec.queryNumel → key.len = spec.keyNumel →
      queryOutput.len = spec.queryOutputNumel →
      appendRotated rot nan spec.tokens spec.numQueryHeads spec.numKvHeads positions
        (fun token => expect (appendSlots spec batchIndices positions pageIndptr pageIndices)[token]?
          "validated token has a physical slot")
        query key value queryOutput keyPages valuePages =
      .ok (tokensAppendOut rot nan query.get key.get value.get batchIndices positions pageIndptr
        pageIndices ⟨queryOutput.get, keyPages.get, valuePages.get⟩ spec) := by
    intro valid hq hk ho
    refine appendRotated_eq spec.tokens_pos spec.query_fits hq hk ho valid.positions_len
      (fun token ht => (valid.token token ht).position_nonneg) fun token ht => ?_
    rw [appendSlots, List.getElem?_map, List.getElem?_range ht]
    rfl
  constructor
  · rintro ⟨hq, hk, hv, ho, hkp, hvp, rest⟩
    obtain ⟨metadata, hmeta, rest⟩ := bind_eq_ok.mp rest
    obtain ⟨valid, rfl⟩ := spec.validateMetadata_eq_ok.mp hmeta
    exact ⟨⟨hq, hk, hv, ho, hkp, hvp⟩, valid,
      (Except.ok.inj ((run valid hq hk ho).symm.trans rest)).symm⟩
  · rintro ⟨⟨hq, hk, hv, ho, hkp, hvp⟩, valid, rfl⟩
    refine ⟨hq, hk, hv, ho, hkp, hvp, bind_eq_ok.mpr ⟨_,
      spec.validateMetadata_eq_ok.mpr ⟨valid, rfl⟩, run valid hq hk ho⟩⟩

/-- What the single-token reference computes, given the final positions. -/
def appendOut (rot : Rotation B) (nan : B) (query key value : Nat → B) (positions pageIndptr
    pageIndices lastPageLen : Slice Int32) (before : AppendOut B) (spec : Bf16RopePagedKvAppendSpec) :
    AppendOut B :=
  appendLoop spec.batchSize spec.numKvHeads (pagedFinalSlot pageIndptr pageIndices lastPageLen)
    (appendRotate rot positions spec.numKvHeads key fun _ => nan) value
    ⟨appendRotate rot positions spec.numQueryHeads query before.queryOutput, before.keyPages,
      before.valuePages⟩

/-- The final position of every request, as an `i32` array. -/
structure FinalPositions (spec : Bf16RopePagedKvAppendSpec)
    (pageIndptr lastPageLen positions : Slice Int32) : Prop where
  len : positions.len = spec.batchSize
  position : ∀ request < spec.batchSize,
    positions.int request = (pagedKvLen pageIndptr lastPageLen request - 1 : Nat)

theorem finalPosition_eq_ok (table : Bf16PagedBatchDecodePageTable) {request : Nat}
    (h : request < table.spec.batchSize) {position : Int32} :
    finalPosition table request = .ok position ↔
      position.toInt = (pagedKvLen table.pageIndptr table.lastPageLen request - 1 : Nat) := by
  rw [finalPosition, table.requestKvLen_eq h, expect_some, ok_bind, okOr_eq_ok, i32TryFrom_eq_some]

theorem positionSlot_eq (table : Bf16PagedBatchDecodePageTable) {request : Nat}
    (h : request < table.spec.batchSize) (final : positions.int request =
      (pagedKvLen table.pageIndptr table.lastPageLen request - 1 : Nat)) :
    positionSlot table positions request =
      .ok (pagedFinalSlot table.pageIndptr table.pageIndices table.lastPageLen request) := by
  have pos := table.valid.kvLen_pos h
  have lt := table.valid.kvLen_lt h
  rw [positionSlot, final, asUsize_natCast (by omega), table.physicalPageForToken_eq h (by omega)]
  rfl

/-- Collecting the final positions gives the final positions. -/
theorem collect_finalPosition {spec : Bf16RopePagedKvAppendSpec}
    (table : Bf16PagedBatchDecodePageTable) (hspec : table.spec = spec.paged) {xs : List Int32} :
    collectRange spec.batchSize (finalPosition table) = .ok xs ↔
      FinalPositions spec table.pageIndptr table.lastPageLen (Slice.ofList xs) := by
  have inside : ∀ request < spec.batchSize, request < table.spec.batchSize := by
    rw [hspec]
    exact fun _ h => h
  have entry : ∀ request (h : request < xs.length),
      (Slice.ofList xs).int request = (xs[request]).toInt := fun request h =>
    congrArg Int32.toInt (getElem!_pos xs request h)
  rw [collectRange_eq_ok]
  constructor
  · rintro ⟨hlen, items⟩
    refine ⟨hlen, fun request hr => ?_⟩
    rw [entry request (hlen ▸ hr)]
    exact (finalPosition_eq_ok table (inside request hr)).mp (items request (hlen ▸ hr))
  · intro final
    have hlen : xs.length = spec.batchSize := final.len
    refine ⟨hlen, fun request h => ?_⟩
    have hr : request < spec.batchSize := hlen ▸ h
    rw [finalPosition_eq_ok table (inside request hr), ← entry request h]
    exact final.position request hr

theorem appendRotated_final {spec : Bf16RopePagedKvAppendSpec}
    (valid : AppendTableValid spec pageIndptr pageIndices lastPageLen)
    (final : FinalPositions spec pageIndptr lastPageLen positions)
    (hq : query.len = spec.queryNumel) (hk : key.len = spec.keyNumel)
    (ho : queryOutput.len = spec.queryOutputNumel) :
    appendRotated rot nan spec.batchSize spec.numQueryHeads spec.numKvHeads positions
        (positionSlot ⟨spec.paged, pageIndptr, pageIndices, lastPageLen, valid.table⟩ positions) query
        key value queryOutput keyPages valuePages =
      .ok (appendOut rot nan query.get key.get value.get positions pageIndptr pageIndices lastPageLen
        ⟨queryOutput.get, keyPages.get, valuePages.get⟩ spec) :=
  appendRotated_eq spec.paged.batch_pos spec.paged.query_fits hq hk ho final.len
    (fun request hr => by rw [final.position request hr]; exact Int.natCast_nonneg _)
    fun request hr => positionSlot_eq ⟨spec.paged, pageIndptr, pageIndices, lastPageLen, valid.table⟩
      hr (final.position request hr)

/-- The single-token reference succeeds exactly on exact lengths and a valid table whose final
positions are `i32` values. -/
theorem reference_eq_ok {spec : Bf16RopePagedKvAppendSpec} {out : AppendOut B} :
    ropePagedKvAppendBf16Reference rot nan query key value pageIndptr pageIndices lastPageLen
        queryOutput keyPages valuePages spec = .ok out ↔
      AppendLengths spec.queryNumel spec.keyNumel spec.valueNumel spec.queryOutputNumel
        spec.kvPagesNumel query key value queryOutput keyPages valuePages ∧
      AppendTableValid spec pageIndptr pageIndices lastPageLen ∧
      ∃ xs, FinalPositions spec pageIndptr lastPageLen (Slice.ofList xs) ∧
        out = appendOut rot nan query.get key.get value.get (Slice.ofList xs) pageIndptr pageIndices
          lastPageLen ⟨queryOutput.get, keyPages.get, valuePages.get⟩ spec := by
  simp only [ropePagedKvAppendBf16Reference, check_bind_eq_ok, requireLen_eq_ok]
  constructor
  · rintro ⟨hq, hk, hv, ho, hkp, hvp, rest⟩
    obtain ⟨table, htable, rest⟩ := bind_eq_ok.mp rest
    obtain ⟨valid, rfl⟩ := spec.validatePageTable_eq_ok.mp htable
    obtain ⟨xs, hxs, rest⟩ := bind_eq_ok.mp rest
    have final := (collect_finalPosition _ rfl).mp hxs
    exact ⟨⟨hq, hk, hv, ho, hkp, hvp⟩, valid, xs, final,
      Except.ok.inj (rest.symm.trans (appendRotated_final valid final hq hk ho))⟩
  · rintro ⟨⟨hq, hk, hv, ho, hkp, hvp⟩, valid, xs, final, rfl⟩
    exact ⟨hq, hk, hv, ho, hkp, hvp, bind_eq_ok.mpr ⟨_, spec.validatePageTable_eq_ok.mpr ⟨valid, rfl⟩,
      bind_eq_ok.mpr ⟨xs, (collect_finalPosition _ rfl).mpr final,
        appendRotated_final valid final hq hk ho⟩⟩⟩

/-! ## The effect of the references -/

/-- A row of the rotated heads, read through the position of its token. -/
theorem appendRotate_row {heads tokens : Nat} {position : Nat → Nat} (hlen : positions.len = tokens)
    (hpos : ∀ token < tokens, positions.int token = position token) (input before : Nat → B) :
    ∀ row < tokens * heads, ∀ c < 128,
      appendRotate rot positions heads input before (row * 128 + c) =
        rotatedHead 64 (appendRotation rot (position (row / heads))) input (row * 128) c := by
  intro row hrow c hc
  have heads_pos : 0 < heads := by
    rcases Nat.eq_zero_or_pos heads with rfl | h
    · simp at hrow
    · exact h
  rw [appendRotate, row_div hc, row_mod hc, hlen, if_pos hrow,
    hpos _ ((lt_rows_iff heads_pos).mpr hrow)]
  rfl

theorem pairwise_injective {tokens : Nat} {slot : Nat → Nat × Nat}
    (distinct : ∀ first second, first < second → second < tokens → slot first ≠ slot second) :
    ∀ t < tokens, ∀ u < tokens, slot t = slot u → t = u := by
  intro t ht u hu h
  rcases Nat.lt_trichotomy t u with hlt | heq | hlt
  · exact absurd h (distinct t u hlt hu)
  · exact heq
  · exact absurd h.symm (distinct u t hlt ht)

theorem tokensAppendOut_effect (rot : Rotation B) (nan : B)
    {spec : Bf16RopePagedKvAppendTokensSpec}
    (valid : AppendTokensValid spec batchIndices positions pageIndptr pageIndices lastPageLen)
    (query key value : Nat → B) (before : AppendOut B) :
    AppendEffect rot ⟨spec.paged, pageIndptr, pageIndices, lastPageLen, valid.table⟩ spec.tokens
      spec.numQueryHeads spec.numKvHeads (appendRequest batchIndices) (appendPosition positions)
      query key value before
      (tokensAppendOut rot nan query key value batchIndices positions pageIndptr pageIndices before
        spec) := by
  have hpos : ∀ token < spec.tokens, positions.int token = appendPosition positions token :=
    fun token ht => (Int.toNat_of_nonneg (valid.token token ht).position_nonneg).symm
  exact appendLoop_effect
    (fun token ht => Bf16PagedBatchDecodePageTable.physicalPageForToken_eq
      ⟨spec.paged, pageIndptr, pageIndices, lastPageLen, valid.table⟩ (valid.token token ht).request_lt
      (valid.token token ht).position_lt)
    (fun token ht => (valid.table.slot_lt (valid.token token ht).request_lt
      (valid.token token ht).position_lt).2)
    (pairwise_injective valid.distinct)
    (appendRotate_row valid.positions_len hpos key fun _ => nan)
    (appendRotate_row valid.positions_len hpos query before.queryOutput)

theorem appendOut_effect {spec : Bf16RopePagedKvAppendSpec}
    (valid : AppendTableValid spec pageIndptr pageIndices lastPageLen)
    (final : FinalPositions spec pageIndptr lastPageLen positions)
    (query key value : Nat → B) (before : AppendOut B) :
    AppendEffect rot ⟨spec.paged, pageIndptr, pageIndices, lastPageLen, valid.table⟩ spec.batchSize
      spec.numQueryHeads spec.numKvHeads id
      (fun request => pagedKvLen pageIndptr lastPageLen request - 1) query key value before
      (appendOut rot nan query key value positions pageIndptr pageIndices lastPageLen before spec) := by
  have inside : ∀ request < spec.batchSize, pagedKvLen pageIndptr lastPageLen request - 1 <
      pagedKvLen pageIndptr lastPageLen request := fun request hr =>
    Nat.sub_one_lt_of_lt (valid.table.kvLen_pos hr)
  exact appendLoop_effect
    (fun request hr => Bf16PagedBatchDecodePageTable.physicalPageForToken_eq
      ⟨spec.paged, pageIndptr, pageIndices, lastPageLen, valid.table⟩ hr (inside request hr))
    (fun request hr => (valid.table.slot_lt hr (inside request hr)).2)
    (pairwise_injective valid.distinct)
    (appendRotate_row final.len final.position key fun _ => nan)
    (appendRotate_row final.len final.position query before.queryOutput)

/-- Both append references have exactly the effect of an append: the multi-token one on the requests
and positions it is given, the single-token one on the last position of every request. -/
theorem append_effect (rot : Rotation B) (nan : B)
    (query key value queryOutput keyPages valuePages : Slice B)
    (batchIndices positions pageIndptr pageIndices lastPageLen : Slice Int32) :
    (∀ spec out,
      ropePagedKvAppendBf16Reference rot nan query key value pageIndptr pageIndices lastPageLen
        queryOutput keyPages valuePages spec = .ok out →
      ∃ table, spec.validatePageTable pageIndptr pageIndices lastPageLen = .ok table ∧
        AppendEffect rot table spec.batchSize spec.numQueryHeads spec.numKvHeads id
          (fun request => (table.requestKvLen request).getD 0 - 1) query.get key.get value.get
          ⟨queryOutput.get, keyPages.get, valuePages.get⟩ out) ∧
    (∀ spec out,
      ropePagedKvAppendTokensBf16Reference rot nan query key value batchIndices positions pageIndptr
        pageIndices lastPageLen queryOutput keyPages valuePages spec = .ok out →
      ∃ metadata, spec.validateMetadata batchIndices positions pageIndptr pageIndices lastPageLen =
          .ok metadata ∧
        AppendEffect rot metadata.table spec.tokens spec.numQueryHeads spec.numKvHeads
          (fun token => asUsize (batchIndices.int token))
          (fun token => asUsize (positions.int token)) query.get key.get value.get
          ⟨queryOutput.get, keyPages.get, valuePages.get⟩ out) := by
  constructor
  · intro spec out h
    obtain ⟨-, valid, xs, final, rfl⟩ := reference_eq_ok.mp h
    refine ⟨_, spec.validatePageTable_eq_ok.mpr ⟨valid, rfl⟩, ?_⟩
    refine AppendEffect.congr (fun _ _ => rfl) (fun request hr => ?_)
      (appendOut_effect valid final query.get key.get value.get _)
    rw [Bf16PagedBatchDecodePageTable.requestKvLen_eq _ hr]
    rfl
  · intro spec out h
    obtain ⟨-, valid, rfl⟩ := tokensReference_eq_ok.mp h
    refine ⟨_, spec.validateMetadata_eq_ok.mpr ⟨valid, rfl⟩, ?_⟩
    have cast : ∀ x : Int, 0 ≤ x → x < 2 ^ 31 → x.toNat = asUsize x := fun x h h' => by
      have := asUsize_of_nonneg h h'
      omega
    exact AppendEffect.congr
      (fun token ht => cast _ (valid.token token ht).request_nonneg (batchIndices.int_lt token))
      (fun token ht => cast _ (valid.token token ht).position_nonneg (positions.int_lt token))
      (tokensAppendOut_effect _ _ valid query.get key.get value.get _)

end References

/-! ## One page -/

def onePageAppendSpec : Bf16RopePagedKvAppendSpec := ⟨onePageSpec⟩

def onePageTokensSpec : Bf16RopePagedKvAppendTokensSpec where
  paged := onePageSpec
  tokens := 1
  tokens_pos := Nat.one_pos
  tokens_le := by decide
  query_fits := by decide
  key_fits := by decide

theorem twoTokens_le : 2 ≤ ropePagedKvAppendMaxTokens := by decide

/-- Two requests that share a page, with one token for each. -/
def sharedPageAppendSpec : Bf16RopePagedKvAppendSpec := ⟨twoRequestSpec⟩

def sharedPageTokensSpec : Bf16RopePagedKvAppendTokensSpec where
  paged := twoRequestSpec
  tokens := 2
  tokens_pos := Nat.two_pos
  tokens_le := twoTokens_le
  query_fits := twoRows_fit
  key_fits := twoRows_fit

theorem sharedPage_appendValid : AppendTableValid sharedPageAppendSpec (Slice.ofList [0, 1, 2])
    (Slice.ofList [0, 0]) (Slice.ofList [1, 2]) where
  table := sharedPage_wellFormed
  distinct first second hlt hs := by
    obtain ⟨rfl, rfl⟩ := lt_two_pair hlt hs
    decide

theorem sharedPage_tokensValid : AppendTokensValid sharedPageTokensSpec (Slice.ofList [0, 1])
    (Slice.ofList [0, 1]) (Slice.ofList [0, 1, 2]) (Slice.ofList [0, 0]) (Slice.ofList [1, 2]) where
  batch_len := rfl
  positions_len := rfl
  table := sharedPage_wellFormed
  token token ht := by
    obtain rfl | rfl := lt_two_cases ht
    · exact ⟨by decide, by decide, by decide, by decide⟩
    · exact ⟨by decide, by decide, by decide, by decide⟩
  distinct first second hlt hs := by
    obtain ⟨rfl, rfl⟩ := lt_two_pair hlt hs
    decide

theorem sharedPage_finalPositions : FinalPositions sharedPageAppendSpec (Slice.ofList [0, 1, 2])
    (Slice.ofList [1, 2]) (Slice.ofList [0, 1]) where
  len := rfl
  position request hr := by
    obtain rfl | rfl := lt_two_cases hr
    · decide
    · decide

/-- A rotation for the example: it adds the pair index to the first component. -/
def shiftFirst : Rotation Nat := fun _ _ _ _ pair first second => (first + pair, second)

theorem append_effect_sharedPage :
    ∃ out out',
      (ropePagedKvAppendBf16Reference shiftFirst 0 ⟨256, id⟩ ⟨256, fun i => 2 * i⟩
          ⟨256, fun i => 3 * i⟩ (Slice.ofList [0, 1, 2]) (Slice.ofList [0, 0]) (Slice.ofList [1, 2])
          ⟨256, fun _ => 7⟩ ⟨2048, fun _ => 8⟩ ⟨2048, fun _ => 9⟩ sharedPageAppendSpec = .ok out ∧
        ∃ table, sharedPageAppendSpec.validatePageTable (Slice.ofList [0, 1, 2])
            (Slice.ofList [0, 0]) (Slice.ofList [1, 2]) = .ok table ∧
          AppendEffect shiftFirst table 2 1 1 id
            (fun request => (table.requestKvLen request).getD 0 - 1) id (fun i => 2 * i)
            (fun i => 3 * i) ⟨fun _ => 7, fun _ => 8, fun _ => 9⟩ out) ∧
      (ropePagedKvAppendTokensBf16Reference shiftFirst 0 ⟨256, id⟩ ⟨256, fun i => 2 * i⟩
          ⟨256, fun i => 3 * i⟩ (Slice.ofList [0, 1]) (Slice.ofList [0, 1]) (Slice.ofList [0, 1, 2])
          (Slice.ofList [0, 0]) (Slice.ofList [1, 2]) ⟨256, fun _ => 7⟩ ⟨2048, fun _ => 8⟩
          ⟨2048, fun _ => 9⟩ sharedPageTokensSpec = .ok out' ∧
        ∃ metadata, sharedPageTokensSpec.validateMetadata (Slice.ofList [0, 1])
            (Slice.ofList [0, 1]) (Slice.ofList [0, 1, 2]) (Slice.ofList [0, 0])
            (Slice.ofList [1, 2]) = .ok metadata ∧
          AppendEffect shiftFirst metadata.table 2 1 1
            (fun token => asUsize ((Slice.ofList [0, 1]).int token))
            (fun token => asUsize ((Slice.ofList [0, 1]).int token)) id (fun i => 2 * i)
            (fun i => 3 * i) ⟨fun _ => 7, fun _ => 8, fun _ => 9⟩ out') := by
  have lengths : AppendLengths 256 256 256 256 2048 (⟨256, id⟩ : Slice Nat) ⟨256, fun i => 2 * i⟩
      ⟨256, fun i => 3 * i⟩ ⟨256, fun _ => 7⟩ ⟨2048, fun _ => 8⟩ ⟨2048, fun _ => 9⟩ :=
    ⟨rfl, rfl, rfl, rfl, rfl, rfl⟩
  have effect := append_effect shiftFirst 0 ⟨256, id⟩ ⟨256, fun i => 2 * i⟩ ⟨256, fun i => 3 * i⟩
    ⟨256, fun _ => 7⟩ ⟨2048, fun _ => 8⟩ ⟨2048, fun _ => 9⟩ (Slice.ofList [0, 1])
    (Slice.ofList [0, 1]) (Slice.ofList [0, 1, 2]) (Slice.ofList [0, 0]) (Slice.ofList [1, 2])
  refine ⟨_, _, ⟨reference_eq_ok.mpr ⟨lengths, sharedPage_appendValid, [0, 1],
    sharedPage_finalPositions, rfl⟩, ?_⟩,
    tokensReference_eq_ok.mpr ⟨lengths, sharedPage_tokensValid, rfl⟩, ?_⟩
  · exact effect.1 _ _ (reference_eq_ok.mpr ⟨lengths, sharedPage_appendValid, [0, 1],
      sharedPage_finalPositions, rfl⟩)
  · exact effect.2 _ _ (tokensReference_eq_ok.mpr ⟨lengths, sharedPage_tokensValid, rfl⟩)

end LoomKernels
