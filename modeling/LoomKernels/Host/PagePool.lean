import LoomKernels.Host.AppendEffect
import LoomKernels.Host.Gather

/-!
# The page pool

Appends write a pool of pages that decode and prefill read, each call through a page table of its
own. Who owns which page is not decided here, so a pool is described slot by slot: `storedTokens` are
the keys and values it holds, and an accepted append call is a list of writes of tokens to slots.

* A run of append calls leaves in every slot the token that was last appended to it
  (`storedTokens_run`), whatever the tables of the calls.
* Decode and prefill through a table compute, operation for operation, what single decode computes
  over the tokens that were last appended to the slots of the table (`poolRun_decode_eq_single`,
  `poolRun_prefill_eq_single`).
-/

namespace LoomKernels

variable {F B : Type}

/-! ## Slots and tokens -/

/-- A page and an offset in it. -/
abbrev CacheSlot : Type := Nat × Fin 16

/-- The key and the value of one token, all its heads. -/
structure KvToken (numKvHeads : Nat) (B : Type) where
  key : Fin (numKvHeads * 128) → B
  value : Fin (numKvHeads * 128) → B

/-- The slot of a request's token. -/
def cacheSlot (pageIndptr pageIndices : Slice Int32) (request token : Nat) : CacheSlot :=
  ((pagedSlot pageIndptr pageIndices request token).1, ⟨token % 16, Nat.mod_lt _ (by decide)⟩)

theorem cacheSlot_injective {pageIndptr pageIndices : Slice Int32} {request token request' token' :
    Nat} (same : cacheSlot pageIndptr pageIndices request token =
      cacheSlot pageIndptr pageIndices request' token') :
    pagedSlot pageIndptr pageIndices request token =
      pagedSlot pageIndptr pageIndices request' token' := by
  have page := congrArg Prod.fst same
  have offset := congrArg (fun slot : CacheSlot => slot.2.val) same
  exact Prod.ext page offset

/-- The token that a pool holds in a slot. -/
def storedTokens (numKvHeads : Nat) (keyPages valuePages : Nat → B) (slot : CacheSlot) :
    KvToken numKvHeads B where
  key i := keyPages (slotOffset numKvHeads 0 (slot.1, slot.2) + i)
  value i := valuePages (slotOffset numKvHeads 0 (slot.1, slot.2) + i)

/-- The components of the heads lie one after another. -/
theorem slotOffset_head (numKvHeads head c : Nat) (slot : Nat × Nat) :
    slotOffset numKvHeads head slot + c = slotOffset numKvHeads 0 slot + (head * 128 + c) := by
  simp only [slotOffset, singleDecodeHeadDim]
  ring

/-- The row of the pages of a component of a slot. -/
theorem slotOffset_row (numKvHeads : Nat) (slot : Nat × Nat) (i : Nat) :
    (slotOffset numKvHeads 0 slot + i) / 128 = (slot.1 * 16 + slot.2) * numKvHeads + i / 128 := by
  rw [slotOffset, singleDecodeHeadDim, Nat.add_zero, Nat.add_comm, Nat.add_mul_div_right _ _
    (by decide), Nat.add_comm]

/-- A component of a slot lies in the head of one slot only. -/
theorem slot_of_component {numKvHeads head i : Nat} {slot : CacheSlot} {slot' : Nat × Nat}
    (hi : i < numKvHeads * 128) (hh : head < numKvHeads) (offset : slot'.2 < 16)
    (inside : slotOffset numKvHeads head slot' ≤ slotOffset numKvHeads 0 (slot.1, slot.2) + i ∧
      slotOffset numKvHeads 0 (slot.1, slot.2) + i < slotOffset numKvHeads head slot' + 128) :
    slot' = (slot.1, slot.2.val) := by
  have row := (mem_row_iff (by decide)).mp inside
  rw [slotOffset_row] at row
  have hrow : i / 128 < numKvHeads := (lt_rows_iff (by decide)).mpr hi
  have index := congrArg (· / numKvHeads) row
  simp only [row_div hrow, row_div hh, pagedBatchDecodePageSize] at index
  have lt := slot.2.isLt
  have page : slot'.1 = slot.1 := by omega
  exact Prod.ext page (by dsimp only; omega)

/-! ## Appends as writes -/

/-- The token that an append stores: its key rotated to its position, and its value. -/
def appendedToken (rot : Rotation B) (numKvHeads position : Nat) (key value : Nat → B)
    (token : Nat) : KvToken numKvHeads B where
  key i := rotatedHead 64 (appendRotation rot position) key
    ((token * numKvHeads + i / 128) * 128) (i % 128)
  value i := value ((token * numKvHeads + i / 128) * 128 + i % 128)

/-- The writes of an append, in the order of its tokens. -/
def tokenWrites (rot : Rotation B) (tokens numKvHeads : Nat) (pageIndptr pageIndices : Slice Int32)
    (request position : Nat → Nat) (key value : Nat → B) : List (CacheSlot × KvToken numKvHeads B) :=
  (List.range tokens).map fun token =>
    (cacheSlot pageIndptr pageIndices (request token) (position token),
      appendedToken rot numKvHeads (position token) key value token)

section Append

variable {rot : Rotation B} {table : Bf16PagedBatchDecodePageTable}
  {tokens numQueryHeads numKvHeads : Nat} {request position : Nat → Nat} {query key value : Nat → B}
  {before out : AppendOut B}

/-- On a table that finds every appended token in a slot of its own, an append is its writes. -/
theorem AppendEffect.storedTokens_eq
    (effect : AppendEffect rot table tokens numQueryHeads numKvHeads request position query key value
      before out)
    (found : ∀ token < tokens, table.physicalPageForToken (request token) (position token) =
      some (pagedSlot table.pageIndptr table.pageIndices (request token) (position token)))
    (distinct : ∀ t < tokens, ∀ u < tokens,
      pagedSlot table.pageIndptr table.pageIndices (request t) (position t) =
        pagedSlot table.pageIndptr table.pageIndices (request u) (position u) → t = u) :
    storedTokens numKvHeads out.keyPages out.valuePages =
      applyWrites (tokenWrites rot tokens numKvHeads table.pageIndptr table.pageIndices request
        position key value) (storedTokens numKvHeads before.keyPages before.valuePages) := by
  funext slot
  by_cases written : ∃ token < tokens,
      cacheSlot table.pageIndptr table.pageIndices (request token) (position token) = slot
  · obtain ⟨token, ht, rfl⟩ := written
    have once : ∀ w ∈ tokenWrites rot tokens numKvHeads table.pageIndptr table.pageIndices request
        position key value,
        w.1 = cacheSlot table.pageIndptr table.pageIndices (request token) (position token) →
          w.2 = appendedToken rot numKvHeads (position token) key value token := by
      intro w hw same
      obtain ⟨other, ho, rfl⟩ := List.mem_map.mp hw
      rw [distinct other (List.mem_range.mp ho) token ht (cacheSlot_injective same)]
    rw [applyWrites_of_value once (List.mem_map.mpr ⟨_, List.mem_map.mpr
      ⟨token, List.mem_range.mpr ht, rfl⟩, rfl⟩)]
    -- every component belongs to a head, and the append stored all heads
    have stored : ∀ i : Fin (numKvHeads * 128), _ := fun i =>
      effect.stored token ht (i / 128) ((lt_rows_iff (by decide)).mpr i.isLt)
    have component : ∀ i : Fin (numKvHeads * 128), slotOffset numKvHeads 0
        (pagedSlot table.pageIndptr table.pageIndices (request token) (position token)) + i =
          slotOffset numKvHeads (i / 128)
            (pagedSlot table.pageIndptr table.pageIndices (request token) (position token)) +
            i % 128 := fun i => by
      rw [slotOffset_head numKvHeads (i / 128), Nat.div_add_mod']
    have both : ∀ i : Fin (numKvHeads * 128), _ ∧ _ := fun i => by
      obtain ⟨_, here, stored⟩ := stored i
      rw [found token ht] at here
      cases here
      exact stored (i % 128) (Nat.mod_lt _ (by decide))
    simp only [storedTokens, appendedToken, KvToken.mk.injEq]
    constructor
    · funext i
      exact (congrArg out.keyPages (component i)).trans (both i).1
    · funext i
      exact (congrArg out.valuePages (component i)).trans (both i).2
  · have outside : slot ∉ (tokenWrites rot tokens numKvHeads table.pageIndptr table.pageIndices
        request position key value).map Prod.fst := by
      intro named
      obtain ⟨w, hw, rfl⟩ := List.mem_map.mp named
      obtain ⟨token, ht, rfl⟩ := List.mem_map.mp hw
      exact written ⟨token, List.mem_range.mp ht, rfl⟩
    rw [applyWrites_of_not_mem outside]
    have frame : ∀ i : Fin (numKvHeads * 128),
        out.keyPages (slotOffset numKvHeads 0 (slot.1, slot.2) + i) =
          before.keyPages (slotOffset numKvHeads 0 (slot.1, slot.2) + i) ∧
        out.valuePages (slotOffset numKvHeads 0 (slot.1, slot.2) + i) =
          before.valuePages (slotOffset numKvHeads 0 (slot.1, slot.2) + i) := fun i => by
      refine effect.frame _ fun token ht head hh other here inside => written ⟨token, ht, ?_⟩
      rw [found token ht] at here
      cases here
      have same := slot_of_component i.isLt hh (Nat.mod_lt _ (by decide)) inside
      have page := congrArg Prod.fst same
      have offset := congrArg Prod.snd same
      exact Prod.ext page (Fin.ext offset)
    simp only [storedTokens, KvToken.mk.injEq]
    exact ⟨funext fun i => (frame i).1, funext fun i => (frame i).2⟩

end Append

/-! ## Runs of append calls -/

@[ext] structure PagePool (B : Type) where
  keyPages : Slice B
  valuePages : Slice B

/-- The pool with the pages of an append. -/
def PagePool.store (pool : PagePool B) (out : AppendOut B) : PagePool B :=
  ⟨⟨pool.keyPages.len, out.keyPages⟩, ⟨pool.valuePages.len, out.valuePages⟩⟩

/-- A call of one of the append references: all its arguments but the pool. -/
inductive AppendCall (B : Type) where
  | final (spec : Bf16RopePagedKvAppendSpec) (query key value queryOutput : Slice B)
      (pageIndptr pageIndices lastPageLen : Slice Int32)
  | tokens (spec : Bf16RopePagedKvAppendTokensSpec) (query key value queryOutput : Slice B)
      (batchIndices positions pageIndptr pageIndices lastPageLen : Slice Int32)

namespace AppendCall

variable (rot : Rotation B) (nan : B)

def numKvHeads : AppendCall B → Nat
  | .final spec .. => spec.numKvHeads
  | .tokens spec .. => spec.numKvHeads

def result (pool : PagePool B) : AppendCall B → Host (AppendOut B)
  | .final spec query key value queryOutput pageIndptr pageIndices lastPageLen =>
    ropePagedKvAppendBf16Reference rot nan query key value pageIndptr pageIndices lastPageLen
      queryOutput pool.keyPages pool.valuePages spec
  | .tokens spec query key value queryOutput batchIndices positions pageIndptr pageIndices
      lastPageLen =>
    ropePagedKvAppendTokensBf16Reference rot nan query key value batchIndices positions pageIndptr
      pageIndices lastPageLen queryOutput pool.keyPages pool.valuePages spec

/-- The pool after a call. A rejected call has written nothing. -/
def step (pool : PagePool B) (call : AppendCall B) : PagePool B :=
  match call.result rot nan pool with
  | .ok out => pool.store out
  | .error _ => pool

/-- The tokens that a call appends, with their slots. -/
def writes (numKvHeads : Nat) : AppendCall B → List (CacheSlot × KvToken numKvHeads B)
  | .final spec _ key value _ pageIndptr pageIndices lastPageLen =>
    tokenWrites rot spec.batchSize numKvHeads pageIndptr pageIndices id
      (fun request => pagedKvLen pageIndptr lastPageLen request - 1) key.get value.get
  | .tokens spec _ key value _ batchIndices positions pageIndptr pageIndices _ =>
    tokenWrites rot spec.tokens numKvHeads pageIndptr pageIndices (appendRequest batchIndices)
      (appendPosition positions) key.get value.get

end AppendCall

namespace PagePool

variable (rot : Rotation B) (nan : B)

def run (pool : PagePool B) (calls : List (AppendCall B)) : PagePool B :=
  calls.foldl (AppendCall.step rot nan) pool

/-- The writes of the calls that the pool accepts. -/
def log (numKvHeads : Nat) (pool : PagePool B) (calls : List (AppendCall B)) :
    List (CacheSlot × KvToken numKvHeads B) :=
  (calls.filter fun call => (call.result rot nan pool).isOk).flatMap
    (AppendCall.writes rot numKvHeads)

end PagePool

section Run

variable {rot : Rotation B} {nan : B}

theorem isOk_iff {ε α : Type} {x : Except ε α} : x.isOk = true ↔ ∃ a, x = .ok a := by
  cases x with
  | ok a => exact ⟨fun _ => ⟨a, rfl⟩, fun _ => rfl⟩
  | error e => exact ⟨nofun, nofun⟩

/-- Whether a call is accepted depends on the sizes of the pool, not on what it holds. -/
theorem AppendCall.result_isOk_congr {pool pool' : PagePool B}
    (keys : pool.keyPages.len = pool'.keyPages.len)
    (values : pool.valuePages.len = pool'.valuePages.len) (call : AppendCall B) :
    (call.result rot nan pool).isOk = (call.result rot nan pool').isOk := by
  rw [Bool.eq_iff_iff, isOk_iff, isOk_iff]
  cases call with
  | final =>
    simp only [result, reference_eq_ok]
    constructor
    · rintro ⟨_, ⟨q, k, v, o, kp, vp⟩, valid, xs, final, -⟩
      exact ⟨_, ⟨q, k, v, o, keys ▸ kp, values ▸ vp⟩, valid, xs, final, rfl⟩
    · rintro ⟨_, ⟨q, k, v, o, kp, vp⟩, valid, xs, final, -⟩
      exact ⟨_, ⟨q, k, v, o, keys.trans kp, values.trans vp⟩, valid, xs, final, rfl⟩
  | tokens =>
    simp only [result, tokensReference_eq_ok]
    constructor
    · rintro ⟨_, ⟨q, k, v, o, kp, vp⟩, valid, -⟩
      exact ⟨_, ⟨q, k, v, o, keys ▸ kp, values ▸ vp⟩, valid, rfl⟩
    · rintro ⟨_, ⟨q, k, v, o, kp, vp⟩, valid, -⟩
      exact ⟨_, ⟨q, k, v, o, keys.trans kp, values.trans vp⟩, valid, rfl⟩

theorem AppendCall.step_len (pool : PagePool B) (call : AppendCall B) :
    (call.step rot nan pool).keyPages.len = pool.keyPages.len ∧
      (call.step rot nan pool).valuePages.len = pool.valuePages.len := by
  unfold step
  split <;> exact ⟨rfl, rfl⟩

/-- An accepted call is its writes. -/
theorem AppendCall.storedTokens_ok {pool : PagePool B} {call : AppendCall B} {out : AppendOut B}
    (accepted : call.result rot nan pool = .ok out) :
    storedTokens call.numKvHeads out.keyPages out.valuePages =
      applyWrites (call.writes rot call.numKvHeads)
        (storedTokens call.numKvHeads pool.keyPages.get pool.valuePages.get) := by
  cases call with
  | final spec query key value queryOutput pageIndptr pageIndices lastPageLen =>
    obtain ⟨-, valid, xs, final, rfl⟩ := reference_eq_ok.mp accepted
    have inside : ∀ request < spec.batchSize, pagedKvLen pageIndptr lastPageLen request - 1 <
        pagedKvLen pageIndptr lastPageLen request := fun request hr =>
      Nat.sub_one_lt_of_lt (valid.table.kvLen_pos hr)
    exact (appendOut_effect valid final _ _ _ _).storedTokens_eq
      (fun request hr => valid.table.physicalPageOf_eq hr (inside request hr))
      (pairwise_injective valid.distinct)
  | tokens spec query key value queryOutput batchIndices positions pageIndptr pageIndices
      lastPageLen =>
    obtain ⟨-, valid, rfl⟩ := tokensReference_eq_ok.mp accepted
    exact (tokensAppendOut_effect rot nan valid _ _ _ _).storedTokens_eq
      (fun token ht => valid.table.physicalPageOf_eq (valid.token token ht).request_lt
        (valid.token token ht).position_lt)
      (pairwise_injective valid.distinct)

/-- The writes of a run do not depend on what the pool holds. -/
theorem PagePool.log_congr (numKvHeads : Nat) {pool pool' : PagePool B}
    (keys : pool.keyPages.len = pool'.keyPages.len)
    (values : pool.valuePages.len = pool'.valuePages.len) (calls : List (AppendCall B)) :
    pool.log rot nan numKvHeads calls = pool'.log rot nan numKvHeads calls := by
  unfold log
  rw [List.filter_congr fun call _ => AppendCall.result_isOk_congr keys values call]

theorem PagePool.run_len (pool : PagePool B) (calls : List (AppendCall B)) :
    (pool.run rot nan calls).keyPages.len = pool.keyPages.len ∧
      (pool.run rot nan calls).valuePages.len = pool.valuePages.len := by
  induction calls generalizing pool with
  | nil => exact ⟨rfl, rfl⟩
  | cons call calls ih =>
    obtain ⟨keys, values⟩ := @AppendCall.step_len _ rot nan pool call
    exact ⟨(ih _).1.trans keys, (ih _).2.trans values⟩

/-- A run is the writes of its accepted calls, in order. -/
theorem storedTokens_run {numKvHeads : Nat} (pool : PagePool B) {calls : List (AppendCall B)}
    (heads : ∀ call ∈ calls, call.numKvHeads = numKvHeads) :
    storedTokens numKvHeads (pool.run rot nan calls).keyPages.get
        (pool.run rot nan calls).valuePages.get =
      applyWrites (pool.log rot nan numKvHeads calls)
        (storedTokens numKvHeads pool.keyPages.get pool.valuePages.get) := by
  induction calls generalizing pool with
  | nil => rfl
  | cons call calls ih =>
    have here := heads call List.mem_cons_self
    obtain ⟨keys, values⟩ := @AppendCall.step_len _ rot nan pool call
    have rest := ih (call.step rot nan pool) fun other later =>
      heads other (List.mem_cons_of_mem _ later)
    rw [PagePool.log_congr numKvHeads keys values] at rest
    refine rest.trans ?_
    cases result : call.result rot nan pool with
    | ok out =>
      subst here
      have log : pool.log rot nan call.numKvHeads (call :: calls) =
          call.writes rot call.numKvHeads ++ pool.log rot nan call.numKvHeads calls := by
        rw [PagePool.log, List.filter_cons_of_pos (by rw [result]; rfl), List.flatMap_cons]
        rfl
      rw [log, applyWrites_append, ← AppendCall.storedTokens_ok result, AppendCall.step, result]
      rfl
    | error e =>
      have log : pool.log rot nan numKvHeads (call :: calls) =
          pool.log rot nan numKvHeads calls := by
        rw [PagePool.log, List.filter_cons_of_neg (by rw [result]; exact Bool.false_ne_true)]
        rfl
      rw [log, AppendCall.step, result]

end Run

/-! ## Reading the pool -/

/-- The keys or the values of `tokens` tokens, one after another. -/
def flatTokens {numKvHeads : Nat} (heads : 0 < numKvHeads) (tokens : Nat)
    (component : Nat → Fin (numKvHeads * 128) → B) : Slice B where
  len := tokens * numKvHeads * singleDecodeHeadDim
  get i := component (i / (numKvHeads * 128))
    ⟨i % (numKvHeads * 128), Nat.mod_lt _ (Nat.mul_pos heads (by decide))⟩

theorem flatTokens_get {numKvHeads head c : Nat} (heads : 0 < numKvHeads) (tokens token : Nat)
    (component : Nat → Fin (numKvHeads * 128) → B) (hh : head < numKvHeads) (hc : c < 128) :
    (flatTokens heads tokens component).get ((token * numKvHeads + head) * 128 + c) =
      component token ⟨head * 128 + c, rowMajor_lt hh hc⟩ := by
  have position : (token * numKvHeads + head) * 128 + c =
      token * (numKvHeads * 128) + (head * 128 + c) := by ring
  have inside : head * 128 + c < numKvHeads * 128 := rowMajor_lt hh hc
  simp only [flatTokens, position, row_div inside, row_mod inside]

/-- Row `row` of `out` is what single decode of `query` computes over `tokens` tokens, in every head
count and buffer that its contract accepts. -/
def SingleDecodeRow (ops : FloatOps F B) {numKvHeads : Nat} (heads : 0 < numKvHeads)
    (numQueryHeads : Nat) (query : Slice B) (tokens : Nat) (history : Nat → KvToken numKvHeads B)
    (head : Nat) (out : AttentionOut F B) (row : Nat) : Prop :=
  ∀ spec, Bf16SingleDecodeSpec.new tokens numQueryHeads numKvHeads singleDecodeHeadDim = .ok spec →
    ∀ {output : Slice B} {lse : Slice F}, output.len = spec.outputNumel → lse.len = spec.lseNumel →
      ∃ single, singleDecodeBf16Reference ops query
          (flatTokens heads tokens fun token => (history token).key)
          (flatTokens heads tokens fun token => (history token).value) output lse spec = .ok single ∧
        SameRow out row single head

section Read

variable {ops : FloatOps F B} {numKvHeads numQueryHeads : Nat}

/-- A row that attends to slots of the pool, whose query head and tokens are those of a single
decode. -/
theorem SingleDecodeRow.of_stored {heads : 0 < numKvHeads} {query : Slice B}
    {query' keyPages valuePages : Nat → B} {pageIndptr pageIndices : Slice Int32}
    {request tokens head row rows : Nat} {history : Nat → KvToken numKvHeads B}
    {state : Nat → SoftmaxState F Nat} {before out : AttentionOut F B}
    (stored : ∀ token < tokens, storedTokens numKvHeads keyPages valuePages
      (cacheSlot pageIndptr pageIndices request token) = history token)
    (queryLen : query.len = numQueryHeads * singleDecodeHeadDim)
    (queryHead : ∀ c < 128, query' (row * 128 + c) = query.get (head * 128 + c))
    (group : numQueryHeads % numKvHeads = 0) (hh : head < numQueryHeads)
    (computed : Computed ops state before rows out) (hrow : row < rows)
    (attends : state row = ops.attend query' keyPages valuePages (row * 128)
      (fun token => slotOffset numKvHeads (head / (numQueryHeads / numKvHeads))
        (pagedSlot pageIndptr pageIndices request token)) 0 tokens) :
    SingleDecodeRow ops heads numQueryHeads query tokens history head out row := by
  intro spec accepted output lse ho hl
  obtain ⟨kvLen, queryHeads, kvHeads⟩ := Bf16SingleDecodeSpec.new_eq_ok accepted
  have numel : ∀ component : Nat → Fin (numKvHeads * 128) → B,
      (flatTokens heads tokens component).len = spec.kvNumel := fun component => by
    rw [Bf16SingleDecodeSpec.kvNumel, kvLen, kvHeads]
    rfl
  have window : query.len = spec.queryNumel := by
    rw [queryLen, Bf16SingleDecodeSpec.queryNumel, queryHeads]
  obtain ⟨single, run, computed'⟩ :=
    singleDecodeBf16Reference_computed ops spec window (numel _) (numel _) ho hl
  refine ⟨single, run, computed.sameRow computed' hrow (queryHeads ▸ hh) ?_⟩
  have hkv : head / (numQueryHeads / numKvHeads) < numKvHeads := kvHead_lt group hh
  rw [attends, Bf16SingleDecodeSpec.headState, Bf16SingleDecodeSpec.gqaGroupSize, kvLen, queryHeads,
    kvHeads]
  -- both rows read the components of the token that the slot holds
  have component : ∀ token < tokens, ∀ c (hc : c < 128),
      keyPages (slotOffset numKvHeads (head / (numQueryHeads / numKvHeads))
          (pagedSlot pageIndptr pageIndices request token) + c) =
        (history token).key ⟨head / (numQueryHeads / numKvHeads) * 128 + c, rowMajor_lt hkv hc⟩ ∧
      valuePages (slotOffset numKvHeads (head / (numQueryHeads / numKvHeads))
          (pagedSlot pageIndptr pageIndices request token) + c) =
        (history token).value
          ⟨head / (numQueryHeads / numKvHeads) * 128 + c, rowMajor_lt hkv hc⟩ := by
    intro token ht c hc
    rw [← stored token ht, slotOffset_head]
    exact ⟨rfl, rfl⟩
  have shift := Nat.zero_add tokens
  nth_rewrite 1 [← shift]
  refine attend_shift ops queryHead (fun token ht c hc => ?_) fun token ht c hc => ?_
  · rw [Nat.zero_add, (component token ht c hc).1]
    exact (flatTokens_get heads tokens token (fun token => (history token).key) hkv hc).symm
  · rw [Nat.zero_add, (component token ht c hc).2]
    exact (flatTokens_get heads tokens token (fun token => (history token).value) hkv hc).symm

variable {rot : Rotation B} {nan : B} {pool : PagePool B} {calls : List (AppendCall B)}

/-- A slot holds the token last appended to it. -/
theorem storedTokens_of_lastWrite (heads : ∀ call ∈ calls, call.numKvHeads = numKvHeads)
    {slot : CacheSlot} {token : KvToken numKvHeads B}
    (last : lastWrite (pool.log rot nan numKvHeads calls) slot = some token) :
    storedTokens numKvHeads (pool.run rot nan calls).keyPages.get
      (pool.run rot nan calls).valuePages.get slot = token := by
  rw [storedTokens_run pool heads]
  exact applyWrites_of_lastWrite last _

/-- Every request whose tokens were all appended is decoded like a single request over its last
appended tokens. -/
def DecodesAppended (ops : FloatOps F B) (heads : 0 < numKvHeads)
    (log : List (CacheSlot × KvToken numKvHeads B)) (table : Bf16PagedBatchDecodePageTable)
    (query : Slice B) (out : AttentionOut F B) : Prop :=
  ∀ request < table.spec.batchSize, ∃ kvLen, table.requestKvLen request = some kvLen ∧
    ∀ history : Nat → KvToken numKvHeads B,
      (∀ token < kvLen, lastWrite log (cacheSlot table.pageIndptr table.pageIndices request token) =
        some (history token)) →
      ∀ head < table.spec.numQueryHeads,
        SingleDecodeRow ops heads table.spec.numQueryHeads
          (query.window (request * (table.spec.numQueryHeads * 128)) (table.spec.numQueryHeads * 128))
          kvLen history head out (request * table.spec.numQueryHeads + head)

/-- Every query row whose causal tokens were all appended is decoded like a single request over its
last appended tokens. -/
def PrefillsAppended (ops : FloatOps F B) (heads : 0 < numKvHeads)
    (log : List (CacheSlot × KvToken numKvHeads B)) (metadata : Bf16PagedPrefillMetadata)
    (query : Slice B) (out : AttentionOut F B) : Prop :=
  ∀ request < metadata.spec.batchSize, ∃ qoStart qoEnd,
    metadata.requestQueryRange request = some (qoStart, qoEnd) ∧
    ∀ queryRow, qoStart ≤ queryRow → queryRow < qoEnd →
      ∃ causalEnd, metadata.causalKvEnd request (queryRow - qoStart) = some causalEnd ∧
        ∀ history : Nat → KvToken numKvHeads B,
          (∀ token < causalEnd,
            lastWrite log (cacheSlot metadata.pageIndptr metadata.pageIndices request token) =
              some (history token)) →
          ∀ head < metadata.spec.numQueryHeads,
            SingleDecodeRow ops heads metadata.spec.numQueryHeads
              (query.window (queryRow * (metadata.spec.numQueryHeads * 128))
                (metadata.spec.numQueryHeads * 128))
              causalEnd history head out (queryRow * metadata.spec.numQueryHeads + head)

/-- The rows that decode computes over the pool of a run. -/
theorem decodesAppended_of_computed (heads : 0 < numKvHeads)
    (shape : ∀ call ∈ calls, call.numKvHeads = numKvHeads) {table : Bf16PagedBatchDecodePageTable}
    (kvHeads : table.spec.numKvHeads = numKvHeads) {query : Slice B} {before out : AttentionOut F B}
    (computed : Computed ops (table.spec.rowState ops query.get (pool.run rot nan calls).keyPages.get
      (pool.run rot nan calls).valuePages.get table.pageIndptr table.pageIndices table.lastPageLen)
      before table.spec.lseNumel out) :
    DecodesAppended ops heads (pool.log rot nan numKvHeads calls) table query out := by
  subst kvHeads
  refine fun request hr => ⟨_, table.requestKvLen_eq hr, fun history last head hh => ?_⟩
  refine SingleDecodeRow.of_stored (fun token ht => storedTokens_of_lastWrite shape (last token ht))
    rfl (fun c hc => ?_) table.spec.group hh computed (rowMajor_lt hr hh)
    (table.spec.rowState_eq ops _ _ _ _ _ _ request hh)
  rw [Slice.window, show (request * table.spec.numQueryHeads + head) * 128 + c =
    request * (table.spec.numQueryHeads * 128) + (head * 128 + c) by ring]

/-- The tokens a prefill row of a request attends to. -/
theorem Bf16PagedPrefillSpec.rowState_attends (ops : FloatOps F B) (spec : Bf16PagedPrefillSpec)
    {qoIndptr : Slice Int32} (query keyPages valuePages : Nat → B)
    (pageIndptr pageIndices lastPageLen : Slice Int32)
    (qo : IndptrWellFormed spec.batchSize spec.nnzQo qoIndptr) {request queryRow head : Nat}
    (hr : request < spec.batchSize) (lo : indptrStart qoIndptr request ≤ queryRow)
    (hi : queryRow < indptrStart qoIndptr (request + 1)) (hh : head < spec.numQueryHeads) :
    spec.rowState ops query keyPages valuePages qoIndptr pageIndptr pageIndices lastPageLen
        (queryRow * spec.numQueryHeads + head) =
      ops.attend query keyPages valuePages
        ((queryRow * spec.numQueryHeads + head) * singleDecodeHeadDim)
        (fun token => slotOffset spec.numKvHeads (head / spec.gqaGroupSize)
          (pagedSlot pageIndptr pageIndices request token))
        0 (causalCount qoIndptr (pagedKvLen pageIndptr lastPageLen request) request queryRow) := by
  rw [rowState, row_div hh, row_mod hh, qo.requestOf_eq hr lo hi]

/-- The rows that prefill computes over the pool of a run. -/
theorem prefillsAppended_of_computed (heads : 0 < numKvHeads)
    (shape : ∀ call ∈ calls, call.numKvHeads = numKvHeads) {metadata : Bf16PagedPrefillMetadata}
    (kvHeads : metadata.spec.numKvHeads = numKvHeads) {query : Slice B}
    {before out : AttentionOut F B}
    (computed : Computed ops (metadata.spec.rowState ops query.get
      (pool.run rot nan calls).keyPages.get (pool.run rot nan calls).valuePages.get metadata.qoIndptr
      metadata.pageIndptr metadata.pageIndices metadata.lastPageLen) before metadata.spec.lseNumel
      out) :
    PrefillsAppended ops heads (pool.log rot nan numKvHeads calls) metadata query out := by
  subst kvHeads
  refine fun request hr => ⟨_, _, metadata.requestQueryRange_eq hr, fun queryRow lo hi =>
    ⟨_, metadata.causalKvEnd_eq hr lo hi, fun history last head hh => ?_⟩⟩
  have inside : queryRow < metadata.spec.nnzQo :=
    hi.trans_le (metadata.valid.qo.start_le_total hr)
  refine SingleDecodeRow.of_stored (fun token ht => storedTokens_of_lastWrite shape (last token ht))
    rfl (fun c hc => ?_) metadata.spec.group hh computed (rowMajor_lt inside hh)
    (metadata.spec.rowState_attends ops _ _ _ _ _ _ metadata.valid.qo hr lo hi hh)
  rw [Slice.window, show (queryRow * metadata.spec.numQueryHeads + head) * 128 + c =
    queryRow * (metadata.spec.numQueryHeads * 128) + (head * 128 + c) by ring]

/-- After any run of append calls, decode of a request whose tokens were all appended is single decode
over its last appended tokens, operation for operation. -/
theorem poolRun_decode_eq_single (heads : 0 < numKvHeads)
    (shape : ∀ call ∈ calls, call.numKvHeads = numKvHeads) {spec : Bf16PagedBatchDecodeSpec}
    (kvHeads : spec.numKvHeads = numKvHeads) {query output : Slice B} {lse : Slice F}
    {pageIndptr pageIndices lastPageLen : Slice Int32} (hq : query.len = spec.queryNumel)
    (hk : pool.keyPages.len = spec.kvPagesNumel) (hv : pool.valuePages.len = spec.kvPagesNumel)
    (ho : output.len = spec.outputNumel) (hl : lse.len = spec.lseNumel)
    {table : Bf16PagedBatchDecodePageTable}
    (accepted : spec.validatePageTable pageIndptr pageIndices lastPageLen = .ok table) :
    ∃ out, pagedBatchDecodeBf16Reference ops query (pool.run rot nan calls).keyPages
        (pool.run rot nan calls).valuePages pageIndptr pageIndices lastPageLen output lse spec =
          .ok out ∧
      DecodesAppended ops heads (pool.log rot nan numKvHeads calls) table query out := by
  obtain ⟨valid, rfl⟩ := spec.validatePageTable_eq_ok.mp accepted
  obtain ⟨keys, values⟩ := @PagePool.run_len _ rot nan pool calls
  obtain ⟨out, run, computed⟩ := pagedBatchDecodeBf16Reference_computed ops spec hq
    (keys.trans hk) (values.trans hv) ho hl valid
  exact ⟨out, run, decodesAppended_of_computed heads shape kvHeads computed⟩

/-- After any run of append calls, a prefill row whose causal tokens were all appended is single
decode of its query row over these tokens, operation for operation. -/
theorem poolRun_prefill_eq_single (heads : 0 < numKvHeads)
    (shape : ∀ call ∈ calls, call.numKvHeads = numKvHeads) {spec : Bf16PagedPrefillSpec}
    (kvHeads : spec.numKvHeads = numKvHeads) {query output : Slice B} {lse : Slice F}
    {qoIndptr pageIndptr pageIndices lastPageLen : Slice Int32} (hq : query.len = spec.queryNumel)
    (hk : pool.keyPages.len = spec.kvPagesNumel) (hv : pool.valuePages.len = spec.kvPagesNumel)
    (ho : output.len = spec.outputNumel) (hl : lse.len = spec.lseNumel)
    {metadata : Bf16PagedPrefillMetadata}
    (accepted : spec.validateMetadata qoIndptr pageIndptr pageIndices lastPageLen = .ok metadata) :
    ∃ out, pagedPrefillBf16Reference ops query (pool.run rot nan calls).keyPages
        (pool.run rot nan calls).valuePages qoIndptr pageIndptr pageIndices lastPageLen output lse
          spec = .ok out ∧
      PrefillsAppended ops heads (pool.log rot nan numKvHeads calls) metadata query out := by
  obtain ⟨valid, rfl⟩ := spec.validateMetadata_eq_ok.mp accepted
  obtain ⟨keys, values⟩ := @PagePool.run_len _ rot nan pool calls
  obtain ⟨out, run, computed⟩ := pagedPrefillBf16Reference_computed ops spec hq
    (keys.trans hk) (values.trans hv) ho hl valid
  exact ⟨out, run, prefillsAppended_of_computed heads shape kvHeads computed⟩

end Read

/-! ## Two calls on one page -/

/-- A rotation for the example: it leaves the pairs alone. -/
def noRotation : Rotation ℝ := fun _ _ _ _ _ first second => (first, second)

/-- The append of one token at the position before `kvLen`. -/
noncomputable def oneTokenCall (kvLen : Int32) : AppendCall ℝ :=
  .final onePageAppendSpec ⟨128, fun i => i⟩ ⟨128, fun i => i + 1⟩ ⟨128, fun i => i + i⟩
    ⟨128, fun _ => 0⟩ (.ofList [0, 1]) (.ofList [0]) (.ofList [kvLen])

def emptyPool : PagePool ℝ := ⟨⟨2048, fun _ => 0⟩, ⟨2048, fun _ => 0⟩⟩

/-- The token of such a call. -/
noncomputable def oneTokenHistory (rot : Rotation ℝ) (position : Nat) : KvToken 1 ℝ :=
  appendedToken rot 1 position (fun i => i + 1) (fun i => i + i) 0

theorem oneTokenCall_accepted (rot : Rotation ℝ) {kvLen : Int32} (lo : 1 ≤ kvLen.toInt)
    (hi : kvLen.toInt ≤ 16) : ((oneTokenCall kvLen).result rot 0 emptyPool).isOk = true := by
  have table : PageTableWellFormed 1 1 (Slice.ofList [0, 1]) (Slice.ofList [0])
      (Slice.ofList [kvLen]) :=
    { onePage_wellFormed with
      tail_len := rfl
      tail := fun request hr => by
        obtain rfl : request = 0 := Nat.lt_one_iff.mp hr
        exact ⟨lo, hi⟩ }
  have valid : AppendTableValid onePageAppendSpec (Slice.ofList [0, 1]) (Slice.ofList [0])
      (Slice.ofList [kvLen]) := ⟨table, fun first second hlt hs => by
    obtain rfl : second = 0 := Nat.lt_one_iff.mp hs
    exact absurd hlt (Nat.not_lt_zero first)⟩
  have position : pagedKvLen (Slice.ofList [0, 1]) (Slice.ofList [kvLen]) 0 = kvLen.toInt.toNat := by
    rw [pagedKvLen]
    exact Nat.zero_add _
  refine isOk_iff.mpr ⟨_, reference_eq_ok.mpr ⟨⟨rfl, rfl, rfl, rfl, rfl, rfl⟩, valid,
    [Int32.ofInt (kvLen.toInt - 1)], ⟨rfl, fun request hr => ?_⟩, rfl⟩⟩
  obtain rfl : request = 0 := Nat.lt_one_iff.mp hr
  rw [position]
  show (Int32.ofInt (kvLen.toInt - 1)).toInt = _
  rw [Int32.toInt_ofInt_of_le (by omega) (by omega)]
  omega

theorem oneTokenCalls_accepted (rot : Rotation ℝ) : ∀ call ∈ [oneTokenCall 1, oneTokenCall 2],
    (call.result rot 0 emptyPool).isOk = true := by
  intro call hc
  rcases List.mem_pair.mp hc with rfl | rfl
  all_goals exact oneTokenCall_accepted rot (by decide) (by decide)

theorem oneTokenCalls_log (rot : Rotation ℝ) :
    emptyPool.log rot 0 1 [oneTokenCall 1, oneTokenCall 2] =
      [((0, 0), oneTokenHistory rot 0), ((0, 1), oneTokenHistory rot 1)] := by
  rw [PagePool.log, List.filter_eq_self.mpr (oneTokenCalls_accepted rot)]
  rfl

theorem oneTokenCalls_shape : ∀ call ∈ [oneTokenCall 1, oneTokenCall 2], call.numKvHeads = 1 := by
  intro call hc
  rcases List.mem_pair.mp hc with rfl | rfl
  all_goals rfl

theorem oneTokenCalls_last (rot : Rotation ℝ) : ∀ token < 2,
    lastWrite (emptyPool.log rot 0 1 [oneTokenCall 1, oneTokenCall 2])
      (cacheSlot (.ofList [0, 1]) (.ofList [0]) 0 token) = some (oneTokenHistory rot token) := by
  intro token ht
  rw [oneTokenCalls_log]
  rcases Nat.lt_succ_iff_lt_or_eq.mp ht with first | rfl
  · obtain rfl : token = 0 := Nat.lt_one_iff.mp first
    rfl
  · rfl

/-- The second token attends to both. -/
theorem poolRun_decode_eq_single_twoCalls : ∃ out single,
    pagedBatchDecodeBf16Reference (exactOps ℝ) ⟨128, fun _ => 1⟩
      (emptyPool.run noRotation 0 [oneTokenCall 1, oneTokenCall 2]).keyPages
      (emptyPool.run noRotation 0 [oneTokenCall 1, oneTokenCall 2]).valuePages (.ofList [0, 1])
      (.ofList [0]) (.ofList [2]) ⟨128, fun _ => 0⟩ ⟨1, fun _ => 0⟩ onePageSpec = .ok out ∧
    singleDecodeBf16Reference (exactOps ℝ) (Slice.window ⟨128, fun _ => 1⟩ (0 * (1 * 128)) (1 * 128))
      (flatTokens Nat.one_pos 2 fun token => (oneTokenHistory noRotation token).key)
      (flatTokens Nat.one_pos 2 fun token => (oneTokenHistory noRotation token).value) ⟨128, fun _ => 0⟩
      ⟨1, fun _ => 0⟩ twoPartitionSpec.decode = .ok single ∧
    out.output 5 = single.output 5 ∧ out.lse 0 = single.lse 0 := by
  have table : onePageSpec.validatePageTable (.ofList [0, 1]) (.ofList [0]) (.ofList [2]) = .ok _ :=
    onePageSpec.validatePageTable_ok (onePageSpec.checkPageTable_eq_ok.mp rfl)
  obtain ⟨out, run, requests⟩ := @poolRun_decode_eq_single ℝ ℝ (exactOps ℝ) 1 noRotation 0 emptyPool
    _ Nat.one_pos oneTokenCalls_shape onePageSpec rfl ⟨128, fun _ => 1⟩ ⟨128, fun _ => 0⟩ ⟨1, fun _ => 0⟩ _ _ _ rfl
    rfl rfl rfl rfl _ table
  obtain ⟨kvLen, length, rows⟩ := requests 0 Nat.one_pos
  obtain rfl : 2 = kvLen := Option.some.inj length
  have row := rows (oneTokenHistory noRotation) (oneTokenCalls_last noRotation) 0 Nat.one_pos
  obtain ⟨single, run', same⟩ := @row twoPartitionSpec.decode
    (Bf16SingleDecodeSpec.new_self twoPartitionSpec.decode) ⟨128, fun _ => 0⟩ ⟨1, fun _ => 0⟩ rfl rfl
  exact ⟨out, single, run, run', same.1 5 (by decide), same.2⟩

/-- Two query rows over one page. -/
def onePagePrefillSpec : Bf16PagedPrefillSpec where
  batchSize := 1
  nnzQo := 2
  maxNumPages := 1
  numQueryHeads := 1
  numKvHeads := 1
  batch_pos := Nat.one_pos
  qo_pos := Nat.two_pos
  pages_pos := Nat.one_pos
  queryHeads_pos := Nat.one_pos
  kvHeads_pos := Nat.one_pos
  group := oneHead_divides
  qo_lt := twoRows_lt
  batch_fits := oneRequest_fits
  query_fits := twoRows_fit
  pages_fit := onePage_fits

/-- The second row attends to both tokens. -/
theorem poolRun_prefill_eq_single_twoCalls : ∃ out single,
    pagedPrefillBf16Reference (exactOps ℝ) ⟨256, fun _ => 1⟩
      (emptyPool.run noRotation 0 [oneTokenCall 1, oneTokenCall 2]).keyPages
      (emptyPool.run noRotation 0 [oneTokenCall 1, oneTokenCall 2]).valuePages (.ofList [0, 2])
      (.ofList [0, 1]) (.ofList [0]) (.ofList [2]) ⟨256, fun _ => 0⟩ ⟨2, fun _ => 0⟩
      onePagePrefillSpec = .ok out ∧
    singleDecodeBf16Reference (exactOps ℝ) (Slice.window ⟨256, fun _ => 1⟩ (1 * (1 * 128)) (1 * 128))
      (flatTokens Nat.one_pos 2 fun token => (oneTokenHistory noRotation token).key)
      (flatTokens Nat.one_pos 2 fun token => (oneTokenHistory noRotation token).value) ⟨128, fun _ => 0⟩
      ⟨1, fun _ => 0⟩ twoPartitionSpec.decode = .ok single ∧
    out.output 133 = single.output 5 ∧ out.lse 1 = single.lse 0 := by
  have metadata : onePagePrefillSpec.validateMetadata (.ofList [0, 2]) (.ofList [0, 1]) (.ofList [0])
      (.ofList [2]) = .ok _ :=
    onePagePrefillSpec.validateMetadata_ok (onePagePrefillSpec.checkMetadata_eq_ok.mp rfl)
  obtain ⟨out, run, requests⟩ := @poolRun_prefill_eq_single ℝ ℝ (exactOps ℝ) 1 noRotation 0
    emptyPool _ Nat.one_pos oneTokenCalls_shape onePagePrefillSpec rfl ⟨256, fun _ => 1⟩
    ⟨256, fun _ => 0⟩ ⟨2, fun _ => 0⟩ _ _ _ _ rfl rfl rfl rfl rfl _ metadata
  obtain ⟨qoStart, qoEnd, range, rows⟩ := requests 0 Nat.one_pos
  obtain ⟨rfl, rfl⟩ : 0 = qoStart ∧ 2 = qoEnd := Prod.mk.inj (Option.some.inj range)
  obtain ⟨causalEnd, count, rows⟩ := rows 1 (by decide) (by decide)
  obtain rfl : 2 = causalEnd := Option.some.inj count
  have row := rows (oneTokenHistory noRotation) (oneTokenCalls_last noRotation) 0 Nat.one_pos
  obtain ⟨single, run', same⟩ := @row twoPartitionSpec.decode
    (Bf16SingleDecodeSpec.new_self twoPartitionSpec.decode) ⟨128, fun _ => 0⟩ ⟨1, fun _ => 0⟩ rfl rfl
  exact ⟨out, single, run, run', same.1 5 (by decide), same.2⟩

end LoomKernels
