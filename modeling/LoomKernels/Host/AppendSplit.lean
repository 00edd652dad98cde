import LoomKernels.Host.PagePool

/-!
# Splitting an append

A multi-token append takes no more than 64 tokens, so that a longer one is made of several calls.
How the tokens are distributed over calls, and in which order the calls come, makes no difference:
every call of a window of the tokens is accepted when the whole is, and any order of the windows
leaves the pool of the whole (`appendTokens_split`). The single-token form is the multi-token form at
the last positions of all requests (`append_eq_appendTokens`).
-/

namespace LoomKernels

variable {B : Type} {rot : Rotation B} {nan : B}

/-! ## Pools and slots -/

theorem Slice.eq_mk {s : Slice B} {len : Nat} {get : Nat → B} (sameLen : s.len = len)
    (sameGet : s.get = get) : s = ⟨len, get⟩ := by
  subst sameLen sameGet
  rfl

/-- What the slots hold is all that a pool holds. -/
theorem storedTokens_injective {numKvHeads : Nat} (heads : 0 < numKvHeads)
    {keyPages valuePages keyPages' valuePages' : Nat → B}
    (same : storedTokens numKvHeads keyPages valuePages =
      storedTokens numKvHeads keyPages' valuePages') :
    keyPages = keyPages' ∧ valuePages = valuePages' := by
  have width : 0 < numKvHeads * 128 := Nat.mul_pos heads (by decide)
  have position : ∀ i, slotOffset numKvHeads 0
      (i / (numKvHeads * 128) / 16, i / (numKvHeads * 128) % 16) + i % (numKvHeads * 128) = i := by
    intro i
    have token : i / (numKvHeads * 128) / 16 * 16 + i / (numKvHeads * 128) % 16 =
        i / (numKvHeads * 128) := Nat.div_add_mod' _ _
    rw [slotOffset, pagedBatchDecodePageSize, token, singleDecodeHeadDim, Nat.add_zero, Nat.mul_assoc]
    exact Nat.div_add_mod' i (numKvHeads * 128)
  have component : ∀ i, keyPages i = keyPages' i ∧ valuePages i = valuePages' i := by
    intro i
    have held := congrFun same
      (i / (numKvHeads * 128) / 16, ⟨i / (numKvHeads * 128) % 16, Nat.mod_lt _ (by decide)⟩)
    have keys := congrFun (congrArg KvToken.key held) ⟨_, Nat.mod_lt i width⟩
    have values := congrFun (congrArg KvToken.value held) ⟨_, Nat.mod_lt i width⟩
    simp only [storedTokens, position] at keys values
    exact ⟨keys, values⟩
  exact ⟨funext fun i => (component i).1, funext fun i => (component i).2⟩

/-! ## Windows of a call -/

section Windows

variable (query key value queryOutput : Slice B)
  (batchIndices positions pageIndptr pageIndices lastPageLen : Slice Int32)

/-- The call of the tokens from `start` on, as many as the contract `part` takes. -/
def tokensWindow (start : Nat) (part : Bf16RopePagedKvAppendTokensSpec) : AppendCall B :=
  .tokens part (query.window (start * part.numQueryHeads * 128) part.queryNumel)
    (key.window (start * part.numKvHeads * 128) part.keyNumel)
    (value.window (start * part.numKvHeads * 128) part.valueNumel)
    (queryOutput.window (start * part.numQueryHeads * 128) part.queryOutputNumel)
    (batchIndices.window start part.tokens) (positions.window start part.tokens) pageIndptr
    pageIndices lastPageLen

/-- One call after the other, from token `start` on. -/
def tokensWindows : Nat → List Bf16RopePagedKvAppendTokensSpec → List (AppendCall B)
  | _, [] => []
  | start, part :: parts =>
    tokensWindow query key value queryOutput batchIndices positions pageIndptr pageIndices lastPageLen
      start part :: tokensWindows (start + part.tokens) parts

/-- The number of tokens of some contracts. -/
def totalTokens (parts : List Bf16RopePagedKvAppendTokensSpec) : Nat :=
  (parts.map Bf16RopePagedKvAppendTokensSpec.tokens).sum

@[simp] theorem totalTokens_cons (part : Bf16RopePagedKvAppendTokensSpec)
    (parts : List Bf16RopePagedKvAppendTokensSpec) :
    totalTokens (part :: parts) = part.tokens + totalTokens parts := rfl

variable {query key value queryOutput batchIndices positions pageIndptr pageIndices lastPageLen}

theorem rotatedHead_shift (half : Nat) (rotate : Nat → B → B → B × B) (input : Nat → B)
    (start base c : Nat) :
    rotatedHead half rotate (fun i => input (start + i)) base c =
      rotatedHead half rotate input (start + base) c := by
  simp only [rotatedHead, Nat.add_assoc]

theorem rotatedHead_window (half : Nat) (rotate : Nat → B → B → B × B) (start len base c : Nat) :
    rotatedHead half rotate (query.window start len).get base c =
      rotatedHead half rotate query.get (start + base) c :=
  rotatedHead_shift half rotate query.get start base c

/-- The tokens of a window are tokens of the whole. -/
theorem appendedToken_window (numKvHeads position start token len : Nat) :
    appendedToken rot numKvHeads position (key.window (start * numKvHeads * 128) len).get
        (value.window (start * numKvHeads * 128) len).get token =
      appendedToken rot numKvHeads position key.get value.get (start + token) := by
  have row : ∀ head, start * numKvHeads * 128 + (token * numKvHeads + head) * 128 =
      ((start + token) * numKvHeads + head) * 128 := fun head => by ring
  simp only [appendedToken, rotatedHead_window]
  simp only [Slice.window, ← Nat.add_assoc, row]

/-- The rotated heads of a window. -/
theorem appendRotate_window {heads start tokens len i : Nat} (pos : 0 < heads)
    (inside : start + tokens ≤ positions.len) {before before' : Nat → B}
    (hi : i < tokens * heads * 128) :
    appendRotate rot (positions.window start tokens) heads
        (query.window (start * heads * 128) len).get before i =
      appendRotate rot positions heads query.get before' (start * heads * 128 + i) := by
  have row : i / 128 < tokens * heads := (lt_rows_iff (by decide)).mpr hi
  have total : start * heads + i / 128 < positions.len * heads := by
    refine lt_of_lt_of_le ?_ (Nat.mul_le_mul_right heads inside)
    rw [Nat.add_mul]
    exact Nat.add_lt_add_left row _
  have index : (start * heads * 128 + i) / 128 = start * heads + i / 128 := by
    rw [Nat.mul_comm, Nat.mul_add_div (by decide)]
  have token : (start * heads + i / 128) / heads = start + i / 128 / heads := by
    rw [Nat.mul_comm, Nat.mul_add_div pos]
  have column : (start * heads * 128 + i) % 128 = i % 128 := Nat.mul_add_mod' _ _ _
  have base : start * heads * 128 + i / 128 * 128 = (start * heads + i / 128) * 128 := by ring
  have window : i / 128 < (positions.window start tokens).len * heads := row
  rw [appendRotate, appendRotate, index, token, column, if_pos window, if_pos total,
    rotatedHead_window, base]
  rfl

/-- The writes of a window. -/
theorem tokensWindow_writes {numKvHeads start : Nat} {part : Bf16RopePagedKvAppendTokensSpec}
    (heads : part.numKvHeads = numKvHeads) :
    (tokensWindow query key value queryOutput batchIndices positions pageIndptr pageIndices
        lastPageLen start part).writes rot numKvHeads =
      (List.range' start part.tokens).map fun token =>
        (cacheSlot pageIndptr pageIndices (appendRequest batchIndices token)
            (appendPosition positions token),
          appendedToken rot numKvHeads (appendPosition positions token) key.get value.get token) := by
  subst heads
  rw [List.range'_eq_map_range, List.map_map]
  exact List.map_congr_left fun token _ =>
    Prod.ext rfl (appendedToken_window part.numKvHeads _ start token part.keyNumel)

theorem tokensWindows_writes {numKvHeads : Nat} {parts : List Bf16RopePagedKvAppendTokensSpec}
    (heads : ∀ part ∈ parts, part.numKvHeads = numKvHeads) (start : Nat) :
    (tokensWindows query key value queryOutput batchIndices positions pageIndptr pageIndices
        lastPageLen start parts).flatMap (AppendCall.writes rot numKvHeads) =
      (List.range' start (totalTokens parts)).map fun token =>
        (cacheSlot pageIndptr pageIndices (appendRequest batchIndices token)
            (appendPosition positions token),
          appendedToken rot numKvHeads (appendPosition positions token) key.get value.get token) := by
  induction parts generalizing start with
  | nil => rfl
  | cons part parts ih =>
    rw [tokensWindows, List.flatMap_cons, tokensWindow_writes (heads part List.mem_cons_self),
      ih (fun other later => heads other (List.mem_cons_of_mem _ later)), totalTokens_cons,
      ← List.range'_append_1, List.map_append]

/-- A window of valid metadata is valid. -/
theorem AppendTokensValid.window {spec part : Bf16RopePagedKvAppendTokensSpec} {start : Nat}
    (valid : AppendTokensValid spec batchIndices positions pageIndptr pageIndices lastPageLen)
    (shape : part.paged = spec.paged) (inside : start + part.tokens ≤ spec.tokens) :
    AppendTokensValid part (batchIndices.window start part.tokens)
      (positions.window start part.tokens) pageIndptr pageIndices lastPageLen where
  batch_len := rfl
  positions_len := rfl
  table := by
    rw [Bf16RopePagedKvAppendTokensSpec.batchSize, Bf16RopePagedKvAppendTokensSpec.maxNumPages, shape]
    exact valid.table
  token token ht := by
    rw [Bf16RopePagedKvAppendTokensSpec.batchSize, shape]
    have here := valid.token (start + token) (by omega)
    exact ⟨here.request_nonneg, here.request_lt, here.position_nonneg, here.position_lt⟩
  distinct first second hlt hs :=
    valid.distinct (start + first) (start + second) (by omega) (by omega)

/-- The lengths of the whole are the lengths of its windows. -/
theorem AppendLengths.window {spec part : Bf16RopePagedKvAppendTokensSpec} {start : Nat}
    {pool : PagePool B} (shape : part.paged = spec.paged)
    (lengths : AppendLengths spec.queryNumel spec.keyNumel spec.valueNumel spec.queryOutputNumel
      spec.kvPagesNumel query key value queryOutput pool.keyPages pool.valuePages) :
    AppendLengths part.queryNumel part.keyNumel part.valueNumel part.queryOutputNumel
      part.kvPagesNumel (query.window (start * part.numQueryHeads * 128) part.queryNumel)
      (key.window (start * part.numKvHeads * 128) part.keyNumel)
      (value.window (start * part.numKvHeads * 128) part.valueNumel)
      (queryOutput.window (start * part.numQueryHeads * 128) part.queryOutputNumel) pool.keyPages
      pool.valuePages := by
  have pages : part.kvPagesNumel = spec.kvPagesNumel :=
    congrArg Bf16PagedBatchDecodeSpec.kvPagesNumel shape
  exact ⟨rfl, rfl, rfl, rfl, lengths.keyPages.trans pages.symm, lengths.valuePages.trans pages.symm⟩

/-- A window of an accepted call is accepted, and rotates its queries as the whole does. -/
theorem tokensWindow_result {spec part : Bf16RopePagedKvAppendTokensSpec} {start : Nat}
    {pool : PagePool B}
    (valid : AppendTokensValid spec batchIndices positions pageIndptr pageIndices lastPageLen)
    (lengths : AppendLengths spec.queryNumel spec.keyNumel spec.valueNumel spec.queryOutputNumel
      spec.kvPagesNumel query key value queryOutput pool.keyPages pool.valuePages)
    (shape : part.paged = spec.paged) (inside : start + part.tokens ≤ spec.tokens) (pool' : PagePool B)
    (keys : pool'.keyPages.len = pool.keyPages.len)
    (values : pool'.valuePages.len = pool.valuePages.len) :
    ∃ out', (tokensWindow query key value queryOutput batchIndices positions pageIndptr pageIndices
        lastPageLen start part).result rot nan pool' = .ok out' ∧
      ∀ i < part.queryNumel, out'.queryOutput i =
        (tokensAppendOut rot nan query.get key.get value.get batchIndices positions pageIndptr
          pageIndices ⟨queryOutput.get, pool.keyPages.get, pool.valuePages.get⟩ spec).queryOutput
            (start * spec.numQueryHeads * 128 + i) := by
  have valid' := valid.window shape inside
  have lengths' : AppendLengths spec.queryNumel spec.keyNumel spec.valueNumel spec.queryOutputNumel
      spec.kvPagesNumel query key value queryOutput pool'.keyPages pool'.valuePages :=
    { lengths with
      keyPages := keys.trans lengths.keyPages
      valuePages := values.trans lengths.valuePages }
  refine ⟨_, tokensReference_eq_ok.mpr ⟨lengths'.window shape, valid', rfl⟩, fun i hi => ?_⟩
  have heads : part.numQueryHeads = spec.numQueryHeads :=
    congrArg Bf16PagedBatchDecodeSpec.numQueryHeads shape
  rw [tokensAppendOut, tokensAppendOut, appendLoop_queryOutput, appendLoop_queryOutput, ← heads]
  exact appendRotate_window part.paged.queryHeads_pos (inside.trans_eq valid.positions_len.symm) hi

/-- A window among the windows, with the tokens of the windows before it. -/
theorem mem_tokensWindows {parts : List Bf16RopePagedKvAppendTokensSpec} {start : Nat}
    {call : AppendCall B} (among : call ∈ tokensWindows query key value queryOutput batchIndices
      positions pageIndptr pageIndices lastPageLen start parts) :
    ∃ part ∈ parts, ∃ first, first + part.tokens ≤ start + totalTokens parts ∧
      call = tokensWindow query key value queryOutput batchIndices positions pageIndptr pageIndices
        lastPageLen first part := by
  induction parts generalizing start with
  | nil => exact absurd among List.not_mem_nil
  | cons part parts ih =>
    rw [totalTokens_cons]
    rcases List.mem_cons.mp among with rfl | later
    · exact ⟨part, List.mem_cons_self, start, by omega, rfl⟩
    · obtain ⟨other, ho, first, inside, rfl⟩ := ih later
      exact ⟨other, List.mem_cons_of_mem _ ho, first, by omega, rfl⟩

end Windows

/-- The slots of the tokens of valid metadata are distinct. -/
theorem AppendTokensValid.slots_nodup {numKvHeads : Nat} {spec : Bf16RopePagedKvAppendTokensSpec}
    {batchIndices positions pageIndptr pageIndices lastPageLen : Slice Int32}
    (valid : AppendTokensValid spec batchIndices positions pageIndptr pageIndices lastPageLen)
    (key value : Nat → B) :
    ((tokenWrites rot spec.tokens numKvHeads pageIndptr pageIndices (appendRequest batchIndices)
      (appendPosition positions) key value).map Prod.fst).Nodup := by
  rw [tokenWrites, List.map_map]
  refine (List.nodup_map_iff_inj_on List.nodup_range).mpr fun t ht u hu same => ?_
  exact pairwise_injective valid.distinct t (List.mem_range.mp ht) u (List.mem_range.mp hu)
    (cacheSlot_injective same)

/-- Distributing the tokens of an accepted append over several calls makes no difference: whatever
the numbers of tokens and the order of the calls, every call is accepted, rotates its queries as the
whole does, and the run leaves the pool that the whole leaves. -/
theorem appendTokens_split {spec : Bf16RopePagedKvAppendTokensSpec} {pool : PagePool B}
    {query key value queryOutput : Slice B}
    {batchIndices positions pageIndptr pageIndices lastPageLen : Slice Int32} {out : AppendOut B}
    (whole : ropePagedKvAppendTokensBf16Reference rot nan query key value batchIndices positions
      pageIndptr pageIndices lastPageLen queryOutput pool.keyPages pool.valuePages spec = .ok out)
    {parts : List Bf16RopePagedKvAppendTokensSpec} (shape : ∀ part ∈ parts, part.paged = spec.paged)
    (total : totalTokens parts = spec.tokens) {calls : List (AppendCall B)}
    (order : calls.Perm (tokensWindows query key value queryOutput batchIndices positions pageIndptr
      pageIndices lastPageLen 0 parts)) :
    (∀ part ∈ parts, ∀ start, start + part.tokens ≤ spec.tokens → ∀ before : List (AppendCall B),
      ∃ out', (tokensWindow query key value queryOutput batchIndices positions pageIndptr pageIndices
          lastPageLen start part).result rot nan (pool.run rot nan before) = .ok out' ∧
        ∀ i < part.queryNumel,
          out'.queryOutput i = out.queryOutput (start * spec.numQueryHeads * 128 + i)) ∧
    pool.run rot nan calls = pool.store out := by
  obtain ⟨lengths, valid, rfl⟩ := tokensReference_eq_ok.mp whole
  have accepted := fun part hp start inside (before : List (AppendCall B)) =>
    @tokensWindow_result _ rot nan query key value queryOutput batchIndices positions pageIndptr
      pageIndices lastPageLen spec part start pool valid lengths (shape part hp) inside
      (pool.run rot nan before) (PagePool.run_len pool before).1 (PagePool.run_len pool before).2
  refine ⟨accepted, ?_⟩
  have heads : ∀ part ∈ parts, part.numKvHeads = spec.numKvHeads := fun part hp =>
    congrArg Bf16PagedBatchDecodeSpec.numKvHeads (shape part hp)
  have among : ∀ call ∈ calls, ∃ part ∈ parts, ∃ first, first + part.tokens ≤ spec.tokens ∧
      call = tokensWindow query key value queryOutput batchIndices positions pageIndptr pageIndices
        lastPageLen first part := by
    intro call hc
    have here := mem_tokensWindows (order.mem_iff.mp hc)
    rwa [total, Nat.zero_add] at here
  have shaped : ∀ call ∈ calls, call.numKvHeads = spec.numKvHeads := by
    intro call hc
    obtain ⟨part, hp, first, -, rfl⟩ := among call hc
    exact heads part hp
  -- every window is accepted, so that the log is a permutation of the writes of the whole
  have log : (pool.log rot nan spec.numKvHeads calls).Perm (tokenWrites rot spec.tokens
      spec.numKvHeads pageIndptr pageIndices (appendRequest batchIndices) (appendPosition positions)
      key.get value.get) := by
    have kept : calls.filter (fun call => (call.result rot nan pool).isOk) = calls := by
      refine List.filter_eq_self.mpr fun call hc => ?_
      obtain ⟨part, hp, first, inside, rfl⟩ := among call hc
      obtain ⟨out', ok, -⟩ := accepted part hp first inside []
      exact isOk_iff.mpr ⟨out', ok⟩
    rw [PagePool.log, kept]
    refine (order.flatMap_right _).trans (List.Perm.of_eq ?_)
    rw [tokensWindows_writes heads, total, ← List.range_eq_range']
    rfl
  have stored := @storedTokens_run _ rot nan _ pool _ shaped
  have effect := (tokensAppendOut_effect rot nan valid query.get key.get value.get
    ⟨queryOutput.get, pool.keyPages.get, pool.valuePages.get⟩).storedTokens_eq
      (fun token ht => valid.table.physicalPageOf_eq (valid.token token ht).request_lt
        (valid.token token ht).position_lt)
      (pairwise_injective valid.distinct)
  have reordered := applyWrites_perm log.symm (valid.slots_nodup key.get value.get)
    (storedTokens spec.numKvHeads pool.keyPages.get pool.valuePages.get)
  obtain ⟨keyPages, valuePages⟩ := storedTokens_injective spec.paged.kvHeads_pos
    (stored.trans (reordered.symm.trans effect.symm))
  obtain ⟨keys, values⟩ := @PagePool.run_len _ rot nan pool calls
  exact PagePool.ext (Slice.eq_mk keys keyPages) (Slice.eq_mk values valuePages)

/-- Two tokens of one request. -/
def twoTokensAppendSpec : Bf16RopePagedKvAppendTokensSpec where
  paged := onePageSpec
  tokens := 2
  tokens_pos := Nat.two_pos
  tokens_le := twoTokens_le
  query_fits := twoRows_fit
  key_fits := twoRows_fit

theorem twoTokens_appendValid : AppendTokensValid twoTokensAppendSpec (.ofList [0, 0]) (.ofList [0, 1])
    (.ofList [0, 1]) (.ofList [0]) (.ofList [2]) where
  batch_len := rfl
  positions_len := rfl
  table := onePageSpec.checkPageTable_eq_ok.mp rfl
  token token ht := by
    obtain rfl | rfl := lt_two_cases ht
    · exact ⟨by decide, by decide, by decide, by decide⟩
    · exact ⟨by decide, by decide, by decide, by decide⟩
  distinct first second hlt hs := by
    obtain ⟨rfl, rfl⟩ := lt_two_pair hlt hs
    decide

/-- The second token first. -/
theorem appendTokens_split_twoTokens : ∃ out,
    ropePagedKvAppendTokensBf16Reference shiftFirst 0 ⟨256, id⟩ ⟨256, fun i => 2 * i⟩
      ⟨256, fun i => 3 * i⟩ (.ofList [0, 0]) (.ofList [0, 1]) (.ofList [0, 1]) (.ofList [0])
      (.ofList [2]) ⟨256, fun _ => 7⟩ ⟨2048, fun _ => 8⟩ ⟨2048, fun _ => 9⟩ twoTokensAppendSpec = .ok out ∧
    PagePool.run shiftFirst 0 ⟨⟨2048, fun _ => 8⟩, ⟨2048, fun _ => 9⟩⟩
      [tokensWindow ⟨256, id⟩ ⟨256, fun i => 2 * i⟩ ⟨256, fun i => 3 * i⟩ ⟨256, fun _ => 7⟩
        (.ofList [0, 0]) (.ofList [0, 1]) (.ofList [0, 1]) (.ofList [0]) (.ofList [2]) 1
        onePageTokensSpec,
       tokensWindow ⟨256, id⟩ ⟨256, fun i => 2 * i⟩ ⟨256, fun i => 3 * i⟩ ⟨256, fun _ => 7⟩
        (.ofList [0, 0]) (.ofList [0, 1]) (.ofList [0, 1]) (.ofList [0]) (.ofList [2]) 0
        onePageTokensSpec] = PagePool.store ⟨⟨2048, fun _ => 8⟩, ⟨2048, fun _ => 9⟩⟩ out := by
  have lengths : AppendLengths 256 256 256 256 2048 (⟨256, id⟩ : Slice Nat) ⟨256, fun i => 2 * i⟩
      ⟨256, fun i => 3 * i⟩ ⟨256, fun _ => 7⟩ ⟨2048, fun _ => 8⟩ ⟨2048, fun _ => 9⟩ :=
    ⟨rfl, rfl, rfl, rfl, rfl, rfl⟩
  have whole := @tokensReference_eq_ok Nat shiftFirst 0 _ _ _ _ _ _ _ _ _ _ _ twoTokensAppendSpec _ |>.mpr
    ⟨lengths, twoTokens_appendValid, rfl⟩
  have shape : ∀ part ∈ [onePageTokensSpec, onePageTokensSpec], part.paged = twoTokensAppendSpec.paged := by
    intro part hp
    rcases List.mem_pair.mp hp with rfl | rfl
    all_goals rfl
  exact ⟨_, whole, (@appendTokens_split Nat shiftFirst 0 twoTokensAppendSpec
    ⟨⟨2048, fun _ => 8⟩, ⟨2048, fun _ => 9⟩⟩ ⟨256, id⟩ ⟨256, fun i => 2 * i⟩ ⟨256, fun i => 3 * i⟩
    ⟨256, fun _ => 7⟩ _ _ _ _ _ _ whole _ shape rfl _ (List.Perm.swap _ _ _)).2⟩

/-! ## The single-token form -/

section Final

variable {spec : Bf16RopePagedKvAppendSpec} {tokens : Bf16RopePagedKvAppendTokensSpec}
  {batchIndices positions positions' pageIndptr pageIndices lastPageLen : Slice Int32}

/-- The requests in order. -/
structure AllRequests (spec : Bf16RopePagedKvAppendSpec) (batchIndices : Slice Int32) : Prop where
  len : batchIndices.len = spec.batchSize
  request : ∀ request < spec.batchSize, batchIndices.int request = request

theorem AllRequests.appendRequest_eq (all : AllRequests spec batchIndices) {request : Nat}
    (hr : request < spec.batchSize) : appendRequest batchIndices request = request := by
  rw [appendRequest, all.request request hr, Int.toNat_natCast]

theorem FinalPositions.appendPosition_eq
    (final : FinalPositions spec pageIndptr lastPageLen positions) {request : Nat}
    (hr : request < spec.batchSize) :
    appendPosition positions request = pagedKvLen pageIndptr lastPageLen request - 1 := by
  rw [appendPosition, final.position request hr, Int.toNat_natCast]

/-- The slot of a request is the slot of its last token. -/
theorem AllRequests.appendSlotOf_eq (all : AllRequests spec batchIndices)
    (final : FinalPositions spec pageIndptr lastPageLen positions) {request : Nat}
    (hr : request < spec.batchSize) :
    appendSlotOf batchIndices positions pageIndptr pageIndices request =
      pagedFinalSlot pageIndptr pageIndices lastPageLen request := by
  rw [appendSlotOf, all.appendRequest_eq hr, final.appendPosition_eq hr, pagedFinalSlot]

/-- At the last positions of all requests, the two validators agree. -/
theorem appendTokensValid_iff (shape : tokens.paged = spec.paged)
    (count : tokens.tokens = spec.batchSize) (all : AllRequests spec batchIndices)
    (final : FinalPositions spec pageIndptr lastPageLen positions) :
    AppendTokensValid tokens batchIndices positions pageIndptr pageIndices lastPageLen ↔
      AppendTableValid spec pageIndptr pageIndices lastPageLen := by
  have batch : tokens.batchSize = spec.batchSize := congrArg Bf16PagedBatchDecodeSpec.batchSize shape
  have pages : tokens.maxNumPages = spec.maxNumPages :=
    congrArg Bf16PagedBatchDecodeSpec.maxNumPages shape
  constructor
  · intro valid
    refine ⟨batch ▸ pages ▸ valid.table, fun first second hlt hs => ?_⟩
    rw [← all.appendSlotOf_eq final (hlt.trans hs), ← all.appendSlotOf_eq final hs]
    exact valid.distinct first second hlt (count ▸ hs)
  · intro valid
    refine ⟨all.len.trans count.symm, final.len.trans count.symm, batch ▸ pages ▸ valid.table,
      fun token ht => ?_, fun first second hlt hs => ?_⟩
    · have hr : token < spec.batchSize := count ▸ ht
      have pos := valid.table.kvLen_pos hr
      refine ⟨?_, ?_, ?_, ?_⟩
      · exact all.request token hr ▸ Int.natCast_nonneg _
      · rw [all.appendRequest_eq hr, batch]
        exact hr
      · exact final.position token hr ▸ Int.natCast_nonneg _
      · rw [all.appendRequest_eq hr, final.appendPosition_eq hr]
        exact Nat.sub_one_lt_of_lt pos
    · have hr : second < spec.batchSize := count ▸ hs
      rw [all.appendSlotOf_eq final (hlt.trans hr), all.appendSlotOf_eq final hr]
      exact valid.distinct first second hlt hr

/-- Rotated heads at equal positions. -/
theorem appendRotate_congr (len : positions.len = positions'.len)
    (same : ∀ token < positions.len, positions.int token = positions'.int token) (heads : Nat)
    (input before : Nat → B) :
    appendRotate rot positions heads input before = appendRotate rot positions' heads input before := by
  funext i
  rw [appendRotate, appendRotate, ← len]
  by_cases inside : i / 128 < positions.len * heads
  · have token : i / 128 / heads < positions.len := Nat.div_lt_of_lt_mul (by rwa [Nat.mul_comm])
    rw [if_pos inside, if_pos inside, same _ token]
  · rw [if_neg inside, if_neg inside]

/-- Two arrays of last positions. -/
theorem FinalPositions.int_eq (final : FinalPositions spec pageIndptr lastPageLen positions)
    (final' : FinalPositions spec pageIndptr lastPageLen positions') :
    ∀ token < positions.len, positions.int token = positions'.int token := fun token ht =>
  (final.position token (final.len ▸ ht)).trans (final'.position token (final.len ▸ ht)).symm

/-- At the last positions of all requests, the two references compute the same buffers. -/
theorem tokensAppendOut_eq (shape : tokens.paged = spec.paged)
    (count : tokens.tokens = spec.batchSize) (all : AllRequests spec batchIndices)
    (final : FinalPositions spec pageIndptr lastPageLen positions)
    (final' : FinalPositions spec pageIndptr lastPageLen positions') (query key value : Nat → B)
    (before : AppendOut B) :
    tokensAppendOut rot nan query key value batchIndices positions pageIndptr pageIndices before
        tokens =
      appendOut rot nan query key value positions' pageIndptr pageIndices lastPageLen before spec := by
  have queryHeads : tokens.numQueryHeads = spec.numQueryHeads :=
    congrArg Bf16PagedBatchDecodeSpec.numQueryHeads shape
  have kvHeads : tokens.numKvHeads = spec.numKvHeads :=
    congrArg Bf16PagedBatchDecodeSpec.numKvHeads shape
  have len : positions.len = positions'.len := final.len.trans final'.len.symm
  rw [tokensAppendOut, appendOut, queryHeads, kvHeads, count,
    appendRotate_congr len (final.int_eq final'), appendRotate_congr len (final.int_eq final'),
    appendLoop, appendLoop]
  exact forRange_congr _ fun token _ _ ht => by rw [all.appendSlotOf_eq final ht]

/-- The positions as a list. -/
theorem FinalPositions.exists_list (final : FinalPositions spec pageIndptr lastPageLen positions) :
    ∃ xs, FinalPositions spec pageIndptr lastPageLen (Slice.ofList xs) := by
  refine ⟨(List.range spec.batchSize).map positions.get, by simp [Slice.ofList], fun request hr => ?_⟩
  rw [← final.position request hr, Slice.int, Slice.int, Slice.ofList]
  dsimp only
  rw [getElem!_pos _ _ (by simpa using hr), List.getElem_map, List.getElem_range]

/-- The single-token form is the multi-token form at the last positions of all requests: one accepts
what the other accepts, and they compute the same buffers. -/
theorem append_eq_appendTokens (shape : tokens.paged = spec.paged)
    (count : tokens.tokens = spec.batchSize) (all : AllRequests spec batchIndices)
    (final : FinalPositions spec pageIndptr lastPageLen positions)
    (query key value queryOutput keyPages valuePages : Slice B) (out : AppendOut B) :
    ropePagedKvAppendBf16Reference rot nan query key value pageIndptr pageIndices lastPageLen
        queryOutput keyPages valuePages spec = .ok out ↔
      ropePagedKvAppendTokensBf16Reference rot nan query key value batchIndices positions pageIndptr
        pageIndices lastPageLen queryOutput keyPages valuePages tokens = .ok out := by
  have queryNumel : tokens.queryNumel = spec.queryNumel := by
    rw [Bf16RopePagedKvAppendTokensSpec.queryNumel, count, Bf16RopePagedKvAppendTokensSpec.numQueryHeads,
      shape]
    rfl
  have keyNumel : tokens.keyNumel = spec.keyNumel := by
    rw [Bf16RopePagedKvAppendTokensSpec.keyNumel, count, Bf16RopePagedKvAppendTokensSpec.numKvHeads,
      shape]
    rfl
  have pagesNumel : tokens.kvPagesNumel = spec.kvPagesNumel :=
    congrArg Bf16PagedBatchDecodeSpec.kvPagesNumel shape
  have lengths : AppendLengths tokens.queryNumel tokens.keyNumel tokens.valueNumel
      tokens.queryOutputNumel tokens.kvPagesNumel query key value queryOutput keyPages valuePages ↔
      AppendLengths spec.queryNumel spec.keyNumel spec.valueNumel spec.queryOutputNumel
        spec.kvPagesNumel query key value queryOutput keyPages valuePages := by
    rw [Bf16RopePagedKvAppendTokensSpec.valueNumel, Bf16RopePagedKvAppendTokensSpec.queryOutputNumel,
      queryNumel, keyNumel, pagesNumel]
    rfl
  rw [reference_eq_ok, tokensReference_eq_ok, lengths, appendTokensValid_iff shape count all final]
  constructor
  · rintro ⟨lengths, valid, xs, final', rfl⟩
    exact ⟨lengths, valid, (tokensAppendOut_eq shape count all final final' _ _ _ _).symm⟩
  · rintro ⟨lengths, valid, rfl⟩
    obtain ⟨xs, final'⟩ := final.exists_list
    exact ⟨lengths, valid, xs, final', tokensAppendOut_eq shape count all final final' _ _ _ _⟩

end Final

/-- Two requests that share a page, with one token for each. -/
theorem append_eq_appendTokens_sharedPage : ∃ out,
    ropePagedKvAppendBf16Reference shiftFirst 0 ⟨256, id⟩ ⟨256, fun i => 2 * i⟩
      ⟨256, fun i => 3 * i⟩ (.ofList [0, 1, 2]) (.ofList [0, 0]) (.ofList [1, 2]) ⟨256, fun _ => 7⟩
      ⟨2048, fun _ => 8⟩ ⟨2048, fun _ => 9⟩ sharedPageAppendSpec = .ok out ∧
    ropePagedKvAppendTokensBf16Reference shiftFirst 0 ⟨256, id⟩ ⟨256, fun i => 2 * i⟩
      ⟨256, fun i => 3 * i⟩ (.ofList [0, 1]) (.ofList [0, 1]) (.ofList [0, 1, 2]) (.ofList [0, 0])
      (.ofList [1, 2]) ⟨256, fun _ => 7⟩ ⟨2048, fun _ => 8⟩ ⟨2048, fun _ => 9⟩
      sharedPageTokensSpec = .ok out := by
  have all : AllRequests sharedPageAppendSpec (.ofList [0, 1]) := ⟨rfl, fun request hr => by
    obtain rfl | rfl := lt_two_cases hr
    · decide
    · decide⟩
  have lengths : AppendLengths 256 256 256 256 2048 (⟨256, id⟩ : Slice Nat) ⟨256, fun i => 2 * i⟩
      ⟨256, fun i => 3 * i⟩ ⟨256, fun _ => 7⟩ ⟨2048, fun _ => 8⟩ ⟨2048, fun _ => 9⟩ :=
    ⟨rfl, rfl, rfl, rfl, rfl, rfl⟩
  have tokens := @tokensReference_eq_ok Nat shiftFirst 0 _ _ _ _ _ _ _ _ _ _ _ sharedPageTokensSpec _
    |>.mpr ⟨lengths, sharedPage_tokensValid, rfl⟩
  exact ⟨_, (append_eq_appendTokens rfl rfl all sharedPage_finalPositions _ _ _ _ _ _ _).mpr tokens,
    tokens⟩

end LoomKernels
