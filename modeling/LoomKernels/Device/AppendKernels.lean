import LoomKernels.Device.AppendGuard
import LoomKernels.Lib.Interleaving

/-!
# The append kernels

A launch has one block of 64 threads for every token and combined head: the query heads first, then
the key/value heads. A thread that passes the guard rotates one split-half pair of its head, and a
key/value block copies the value pair as well. The guards read the page table, which no thread
writes; what follows is a straight-line program of reads and writes (`appendWrites`), and threads
interleave freely.

On valid metadata, the threads of the multi-token kernel write disjoint sets and read nothing that
is written, and every complete run leaves what the host reference computes
(`tokensKernel_eq_reference`).
-/

namespace LoomKernels

/-- The arrays that the write phase reads and writes. -/
inductive AppendArray where
  | query
  | key
  | value
  | queryOutput
  | keyPages
  | valuePages
  deriving DecidableEq, Repr

/-- An element of an array. -/
abbrev AppendAddress := AppendArray × Nat

/-- An array of results. -/
def AppendArray.IsOutput (array : AppendArray) : Prop :=
  array = .queryOutput ∨ array = .keyPages ∨ array = .valuePages

/-! ## Thread programs -/

section Programs

variable {B : Type}

theorem rotatedHead_first (rotate : Nat → B → B → B × B) (input : Nat → B) (base : Nat)
    {pair : Nat} (hp : pair < rotaryPairs) : rotatedHead 64 rotate input base pair =
      (rotate pair (input (base + pair)) (input (base + rotaryPairs + pair))).1 :=
  if_pos hp

theorem rotatedHead_second (rotate : Nat → B → B → B × B) (input : Nat → B) (base pair : Nat) :
    rotatedHead 64 rotate input base (rotaryPairs + pair) =
      (rotate pair (input (base + pair)) (input (base + rotaryPairs + pair))).2 := by
  rw [rotatedHead, if_neg (by simp), Nat.add_sub_cancel_left, Nat.add_assoc]

variable [Inhabited B]

/-- `rotate_pair_to`, in a thread that has read `regs` values before. -/
def rotatePairTo (rotate : B → B → B × B) (input output : AppendArray)
    (source destination pair regs : Nat) : List (Op AppendAddress B) :=
  [.read (input, source + pair),
    .read (input, source + rotaryPairs + pair),
    .write (output, destination + pair) fun r => (rotate r[regs]! r[regs + 1]!).1,
    .write (output, destination + rotaryPairs + pair) fun r => (rotate r[regs]! r[regs + 1]!).2]

/-- `copy_pair_to`, in a thread that has read `regs` values before. -/
def copyPairTo (input output : AppendArray) (source destination pair regs : Nat) :
    List (Op AppendAddress B) :=
  [.read (input, source + pair),
    .read (input, source + rotaryPairs + pair),
    .write (output, destination + pair) fun r => r[regs]!,
    .write (output, destination + rotaryPairs + pair) fun r => r[regs + 1]!]

/-- The write phase of both kernels. `row` is the request of a single-token append and the token of
a multi-token one; `rotate position pair` is the rotation of one pair. -/
def appendWrites (rotate : Nat → Nat → B → B → B × B) (queryHeads keyHeads state pair position
    physicalPage pageOffset : Nat) : List (Op AppendAddress B) :=
  let heads := queryHeads + keyHeads
  let row := state / heads
  let combinedHead := state % heads
  if combinedHead < queryHeads then
    let base := (row * queryHeads + combinedHead) * singleDecodeHeadDim
    rotatePairTo (rotate position pair) .query .queryOutput base base pair 0
  else
    let keyHead := combinedHead - queryHeads
    let source := (row * keyHeads + keyHead) * singleDecodeHeadDim
    let destination := ((physicalPage * pagedBatchDecodePageSize + pageOffset) * keyHeads + keyHead) *
      singleDecodeHeadDim
    rotatePairTo (rotate position pair) .key .keyPages source destination pair 0 ++
      copyPairTo .value .valuePages source destination pair 2

/-- `rope_paged_kv_append_bf16_neox_d128` -/
def appendKernel (rotate : Nat → Nat → B → B → B × B)
    (batchSize maxNumPages queryHeads keyHeads : Nat)
    (pageIndptr pageIndices lastPageLen : Slice Int32) (state pair : Nat) :
    DeviceM (List (Op AppendAddress B)) := do
  match ← appendGuard batchSize maxNumPages queryHeads keyHeads pageIndptr pageIndices lastPageLen
    state pair with
  | none => return []
  | some (position, physicalPage, pageOffset) =>
    return appendWrites rotate queryHeads keyHeads state pair position physicalPage pageOffset

/-- `rope_paged_kv_append_tokens_bf16_neox_d128` -/
def tokensKernel (rotate : Nat → Nat → B → B → B × B)
    (tokens batchSize maxNumPages queryHeads keyHeads : Nat)
    (batchIndices positions pageIndptr pageIndices lastPageLen : Slice Int32) (state pair : Nat) :
    DeviceM (List (Op AppendAddress B)) := do
  match ← tokensGuard tokens batchSize maxNumPages queryHeads keyHeads batchIndices positions
    pageIndptr pageIndices lastPageLen state pair with
  | none => return []
  | some (_, position, physicalPage, pageOffset) =>
    return appendWrites rotate queryHeads keyHeads state pair position physicalPage pageOffset

/-- A thread of a launch: its block and its index in the block. -/
abbrev GridThread (blocks threads : Nat) := Fin blocks × Fin threads

/-- The programs of a launch in which no thread faults. -/
def Launched {A V : Type} {blocks threads : Nat} (kernel : Nat → Nat → DeviceM (List (Op A V)))
    (program : GridThread blocks threads → List (Op A V)) : Prop :=
  ∀ t, kernel t.1 t.2 = .ok (program t)

/-- The arrays of an append: inputs, and outputs with contents `out`. -/
def appendMemory (query key value : Nat → B) (out : AppendOut B) : AppendAddress → B
  | (.query, i) => query i
  | (.key, i) => key i
  | (.value, i) => value i
  | (.queryOutput, i) => out.queryOutput i
  | (.keyPages, i) => out.keyPages i
  | (.valuePages, i) => out.valuePages i

/-! ## What a thread writes -/

/-- The two components of a head that belong to a thread. -/
def InPair (pair c : Nat) : Prop := c = pair ∨ c = rotaryPairs + pair

theorem InPair.lt {pair c : Nat} (hp : pair < rotaryPairs) (h : InPair pair c) : c < 128 := by
  simp only [InPair, rotaryPairs] at *
  omega

theorem inPair_mod {c : Nat} (hc : c < 128) : InPair (c % rotaryPairs) c := by
  simp only [InPair, rotaryPairs]
  omega

theorem InPair.eq_mod {pair c : Nat} (hp : pair < rotaryPairs) (h : InPair pair c) :
    pair = c % rotaryPairs := by
  simp only [InPair, rotaryPairs] at *
  omega

/-- The query row of a block, one of its query heads. -/
def queryRow (queryHeads keyHeads state : Nat) : Nat :=
  state / (queryHeads + keyHeads) * queryHeads + state % (queryHeads + keyHeads)

/-- The key/value head of a block that owns no query head. -/
def keyHead (queryHeads keyHeads state : Nat) : Nat := state % (queryHeads + keyHeads) - queryHeads

/-- The key row of a block, one of its key/value heads. -/
def keyRow (queryHeads keyHeads state : Nat) : Nat :=
  state / (queryHeads + keyHeads) * keyHeads + keyHead queryHeads keyHeads state

/-- The stores of a thread that passes the guard. -/
inductive AppendStore (rotate : Nat → Nat → B → B → B × B) (query key value : Nat → B)
    (queryHeads keyHeads state pair position : Nat) (slot : Nat × Nat) :
    AppendAddress → B → Prop
  | query {c : Nat} (mine : InPair pair c) (head : state % (queryHeads + keyHeads) < queryHeads) :
      AppendStore rotate query key value queryHeads keyHeads state pair position slot
        (.queryOutput, queryRow queryHeads keyHeads state * 128 + c)
        (rotatedHead 64 (rotate position) query (queryRow queryHeads keyHeads state * 128) c)
  | key {c : Nat} (mine : InPair pair c) (head : queryHeads ≤ state % (queryHeads + keyHeads)) :
      AppendStore rotate query key value queryHeads keyHeads state pair position slot
        (.keyPages, slotOffset keyHeads (keyHead queryHeads keyHeads state) slot + c)
        (rotatedHead 64 (rotate position) key (keyRow queryHeads keyHeads state * 128) c)
  | value {c : Nat} (mine : InPair pair c) (head : queryHeads ≤ state % (queryHeads + keyHeads)) :
      AppendStore rotate query key value queryHeads keyHeads state pair position slot
        (.valuePages, slotOffset keyHeads (keyHead queryHeads keyHeads state) slot + c)
        (value (keyRow queryHeads keyHeads state * 128 + c))

variable {rotate : Nat → Nat → B → B → B × B} {query key value : Nat → B} {before : AppendOut B}
  {queryHeads keyHeads state pair position : Nat} {slot : Nat × Nat}

/-- The write phase, run alone, makes exactly these stores. -/
theorem mem_effects_appendWrites (hp : pair < rotaryPairs) {w : AppendAddress × B} :
    w ∈ effects (appendMemory query key value before) []
        (appendWrites rotate queryHeads keyHeads state pair position slot.1 slot.2) ↔
      AppendStore rotate query key value queryHeads keyHeads state pair position slot w.1 w.2 := by
  have first := fun base input => rotatedHead_first (rotate position) input base hp
  have second := fun base input => rotatedHead_second (rotate position) input base pair
  unfold appendWrites
  dsimp only
  split
  · rename_i head
    have run : effects (appendMemory query key value before) []
        (rotatePairTo (rotate position pair) .query .queryOutput
          (queryRow queryHeads keyHeads state * 128) (queryRow queryHeads keyHeads state * 128) pair
          0) =
        [((.queryOutput, queryRow queryHeads keyHeads state * 128 + pair),
          rotatedHead 64 (rotate position) query (queryRow queryHeads keyHeads state * 128) pair),
         ((.queryOutput, queryRow queryHeads keyHeads state * 128 + (rotaryPairs + pair)),
          rotatedHead 64 (rotate position) query (queryRow queryHeads keyHeads state * 128)
            (rotaryPairs + pair))] := by
      rw [first, second, ← Nat.add_assoc]
      rfl
    refine (Eq.to_iff (congrArg (w ∈ ·) run)).trans ?_
    rw [List.mem_cons, List.mem_singleton]
    constructor
    · rintro (rfl | rfl)
      · exact .query (Or.inl rfl) head
      · exact .query (Or.inr rfl) head
    · obtain ⟨a, v⟩ := w
      intro store
      cases store with
      | query mine _ => exact mine.imp (by rintro rfl; rfl) (by rintro rfl; rfl)
      | key _ other => omega
      | value _ other => omega
  · rename_i head
    have run : effects (appendMemory query key value before) []
        (rotatePairTo (rotate position pair) .key .keyPages
            (keyRow queryHeads keyHeads state * 128)
            (slotOffset keyHeads (keyHead queryHeads keyHeads state) slot) pair 0 ++
          copyPairTo .value .valuePages (keyRow queryHeads keyHeads state * 128)
            (slotOffset keyHeads (keyHead queryHeads keyHeads state) slot) pair 2) =
        [((.keyPages, slotOffset keyHeads (keyHead queryHeads keyHeads state) slot + pair),
          rotatedHead 64 (rotate position) key (keyRow queryHeads keyHeads state * 128) pair),
         ((.keyPages, slotOffset keyHeads (keyHead queryHeads keyHeads state) slot +
            (rotaryPairs + pair)),
          rotatedHead 64 (rotate position) key (keyRow queryHeads keyHeads state * 128)
            (rotaryPairs + pair)),
         ((.valuePages, slotOffset keyHeads (keyHead queryHeads keyHeads state) slot + pair),
          value (keyRow queryHeads keyHeads state * 128 + pair)),
         ((.valuePages, slotOffset keyHeads (keyHead queryHeads keyHeads state) slot +
            (rotaryPairs + pair)),
          value (keyRow queryHeads keyHeads state * 128 + (rotaryPairs + pair)))] := by
      rw [first, second, ← Nat.add_assoc, ← Nat.add_assoc]
      rfl
    refine (Eq.to_iff (congrArg (w ∈ ·) run)).trans ?_
    simp only [List.mem_cons, List.not_mem_nil, or_false]
    constructor
    · rintro (rfl | rfl | rfl | rfl)
      · exact .key (Or.inl rfl) (Nat.not_lt.mp head)
      · exact .key (Or.inr rfl) (Nat.not_lt.mp head)
      · exact .value (Or.inl rfl) (Nat.not_lt.mp head)
      · exact .value (Or.inr rfl) (Nat.not_lt.mp head)
    · obtain ⟨a, v⟩ := w
      intro store
      cases store with
      | query _ other => omega
      | key mine _ =>
        exact mine.elim (by rintro rfl; exact Or.inl rfl) (by rintro rfl; exact Or.inr (Or.inl rfl))
      | value mine _ =>
        exact mine.elim (by rintro rfl; exact Or.inr (Or.inr (Or.inl rfl)))
          (by rintro rfl; exact Or.inr (Or.inr (Or.inr rfl)))

/-- A thread reads inputs and writes outputs. -/
theorem appendWrites_reads {a : AppendAddress}
    (h : Op.read a ∈ appendWrites rotate queryHeads keyHeads state pair position slot.1 slot.2) :
    a.1 = .query ∨ a.1 = .key ∨ a.1 = .value := by
  unfold appendWrites at h
  dsimp only at h
  split at h <;> simp [rotatePairTo, copyPairTo] at h <;> grind

omit [Inhabited B] in
theorem AppendStore.isOutput {a : AppendAddress} {v : B}
    (store : AppendStore rotate query key value queryHeads keyHeads state pair position slot a v) :
    a.1.IsOutput := by
  cases store <;> simp [AppendArray.IsOutput]

/-- The write set of a thread that passes the guard. -/
theorem mem_writeSet_appendWrites (query key value : Nat → B) (hp : pair < rotaryPairs)
    {a : AppendAddress} :
    a ∈ writeSet (appendWrites rotate queryHeads keyHeads state pair position slot.1 slot.2) ↔
      ∃ v, AppendStore rotate query key value queryHeads keyHeads state pair position slot a v := by
  rw [← effects_writeSet (appendMemory query key value ⟨query, key, value⟩) [], List.mem_map]
  constructor
  · rintro ⟨w, hw, rfl⟩
    exact ⟨w.2, (mem_effects_appendWrites hp).mp hw⟩
  · rintro ⟨v, store⟩
    exact ⟨(a, v), (mem_effects_appendWrites hp).mpr store, rfl⟩

end Programs

/-! ## Launches whose rows have distinct slots -/

section Launch

variable {B : Type} {rotate : Nat → Nat → B → B → B × B} {query key value : Nat → B}
  {queryHeads keyHeads rows : Nat} {slot : Nat → Nat × Nat}

/-- A block is determined by its query row. -/
theorem state_eq_of_queryRow {state state' : Nat}
    (head : state % (queryHeads + keyHeads) < queryHeads)
    (head' : state' % (queryHeads + keyHeads) < queryHeads)
    (h : queryRow queryHeads keyHeads state = queryRow queryHeads keyHeads state') :
    state = state' := by
  have hdiv := congrArg (· / queryHeads) h
  have hmod := congrArg (· % queryHeads) h
  simp only [queryRow, row_div head, row_div head', row_mod head, row_mod head'] at hdiv hmod
  rw [← Nat.div_add_mod' state (queryHeads + keyHeads), hdiv, hmod, Nat.div_add_mod']

theorem keyHead_lt {state : Nat} (heads : 0 < queryHeads + keyHeads)
    (head : queryHeads ≤ state % (queryHeads + keyHeads)) :
    keyHead queryHeads keyHeads state < keyHeads := by
  have := Nat.mod_lt state heads
  unfold keyHead
  omega

/-- A block is determined by its key row. -/
theorem state_eq_of_keyRow {state state' : Nat} (heads : 0 < queryHeads + keyHeads)
    (head : queryHeads ≤ state % (queryHeads + keyHeads))
    (head' : queryHeads ≤ state' % (queryHeads + keyHeads))
    (h : keyRow queryHeads keyHeads state = keyRow queryHeads keyHeads state') :
    state = state' := by
  have hdiv := congrArg (· / keyHeads) h
  have hmod := congrArg (· % keyHeads) h
  have hlt := keyHead_lt heads head
  have hlt' := keyHead_lt heads head'
  simp only [keyRow, row_div hlt, row_div hlt', row_mod hlt, row_mod hlt'] at hdiv hmod
  have same : state % (queryHeads + keyHeads) = state' % (queryHeads + keyHeads) := by
    unfold keyHead at hmod
    omega
  rw [← Nat.div_add_mod' state (queryHeads + keyHeads), hdiv, same, Nat.div_add_mod']

theorem keyRow_lt {state : Nat} (hs : state < rows * (queryHeads + keyHeads))
    (head : queryHeads ≤ state % (queryHeads + keyHeads)) :
    keyRow queryHeads keyHeads state < rows * keyHeads := by
  have heads : 0 < queryHeads + keyHeads := Nat.pos_of_ne_zero fun h => by simp [h] at hs
  exact rowMajor_lt ((lt_rows_iff heads).mpr hs) (keyHead_lt heads head)

/-- The row of the pages that receives a key row. -/
theorem slotOffset_keyRow {state : Nat} (heads : 0 < queryHeads + keyHeads)
    (head : queryHeads ≤ state % (queryHeads + keyHeads)) :
    slotOffset keyHeads (keyHead queryHeads keyHeads state)
        (slot (state / (queryHeads + keyHeads))) =
      appendRow keyHeads slot (keyRow queryHeads keyHeads state) * 128 :=
  slotOffset_eq_row (keyHead_lt heads head)

/-- Two threads that write one address are the same thread. -/
theorem appendStores_disjoint {position : Nat → Nat} (offset : ∀ row < rows, (slot row).2 < 16)
    (distinct : ∀ row < rows, ∀ row' < rows, slot row = slot row' → row = row')
    {state state' pair pair' : Nat} (hs : state < rows * (queryHeads + keyHeads))
    (hs' : state' < rows * (queryHeads + keyHeads)) (hp : pair < rotaryPairs)
    (hp' : pair' < rotaryPairs) {a a' : AppendAddress} {v v' : B} (same : a = a')
    (store : AppendStore rotate query key value queryHeads keyHeads state pair
      (position (state / (queryHeads + keyHeads))) (slot (state / (queryHeads + keyHeads))) a v)
    (store' : AppendStore rotate query key value queryHeads keyHeads state' pair'
      (position (state' / (queryHeads + keyHeads))) (slot (state' / (queryHeads + keyHeads))) a' v') :
    state = state' ∧ pair = pair' := by
  have heads : 0 < queryHeads + keyHeads := Nat.pos_of_ne_zero fun h => by simp [h] at hs
  have pages : ∀ {c c' : Nat}, InPair pair c → InPair pair' c' →
      queryHeads ≤ state % (queryHeads + keyHeads) → queryHeads ≤ state' % (queryHeads + keyHeads) →
      slotOffset keyHeads (keyHead queryHeads keyHeads state)
          (slot (state / (queryHeads + keyHeads))) + c =
        slotOffset keyHeads (keyHead queryHeads keyHeads state')
          (slot (state' / (queryHeads + keyHeads))) + c' →
      state = state' ∧ pair = pair' := by
    intro c c' mine mine' head head' he
    have := mine.lt hp
    have := mine'.lt hp'
    rw [slotOffset_keyRow heads head, slotOffset_keyRow heads head'] at he
    have row := appendRow_injective offset distinct _ (keyRow_lt hs head) _ (keyRow_lt hs' head')
      (by omega)
    exact ⟨state_eq_of_keyRow heads head head' row,
      by rw [mine.eq_mod hp, mine'.eq_mod hp', show c = c' by rw [row] at he; omega]⟩
  cases store with
  | query mine head =>
    cases store' with
    | query mine' head' =>
      have := mine.lt hp
      have := mine'.lt hp'
      have he := congrArg Prod.snd same
      dsimp only at he
      have row : queryRow queryHeads keyHeads state = queryRow queryHeads keyHeads state' := by omega
      refine ⟨state_eq_of_queryRow head head' row, ?_⟩
      rw [mine.eq_mod hp, mine'.eq_mod hp']
      congr 1
      omega
    | key => cases same
    | value => cases same
  | key mine head =>
    cases store' with
    | query => cases same
    | key mine' head' => exact pages mine mine' head head' (congrArg Prod.snd same)
    | value => cases same
  | value mine head =>
    cases store' with
    | query => cases same
    | key => cases same
    | value mine' head' => exact pages mine mine' head head' (congrArg Prod.snd same)

section Effect

variable {rot : Rotation B} {table : Bf16PagedBatchDecodePageTable} {request position : Nat → Nat}
  {before out : AppendOut B}

/-- Every store stores what the append puts there. -/
theorem appendStores_agree
    (effect : AppendEffect rot table rows queryHeads keyHeads request position query key value before
      out)
    (found : ∀ row < rows,
      table.physicalPageForToken (request row) (position row) = some (slot row))
    {state pair : Nat} (hs : state < rows * (queryHeads + keyHeads)) (hp : pair < rotaryPairs)
    {a : AppendAddress} {v : B}
    (store : AppendStore (appendRotation rot) query key value queryHeads keyHeads state pair
      (position (state / (queryHeads + keyHeads))) (slot (state / (queryHeads + keyHeads))) a v) :
    v = appendMemory query key value out a := by
  have heads : 0 < queryHeads + keyHeads := Nat.pos_of_ne_zero fun h => by simp [h] at hs
  have row := (lt_rows_iff heads).mpr hs
  have stored : ∀ {c : Nat}, c < 128 → queryHeads ≤ state % (queryHeads + keyHeads) → _ ∧ _ :=
    fun {c} hc head => by
      obtain ⟨slot', found', stored⟩ := effect.stored _ row _ (keyHead_lt heads head)
      obtain rfl : slot (state / (queryHeads + keyHeads)) = slot' :=
        Option.some.inj ((found _ row).symm.trans found')
      exact stored c hc
  cases store with
  | query mine head => exact (effect.rotated_query _ row _ head _ (mine.lt hp)).symm
  | key mine head => exact (stored (mine.lt hp) head).1.symm
  | value mine head => exact (stored (mine.lt hp) head).2.symm

/-- What no thread stores to, the append leaves alone. -/
theorem appendStores_covered
    (effect : AppendEffect rot table rows queryHeads keyHeads request position query key value before
      out)
    (found : ∀ row < rows,
      table.physicalPageForToken (request row) (position row) = some (slot row))
    (queryFrame : ∀ i, rows * queryHeads ≤ i / 128 → out.queryOutput i = before.queryOutput i)
    {a : AppendAddress}
    (unwritten : ∀ state < rows * (queryHeads + keyHeads), ∀ pair < rotaryPairs, ∀ v,
      ¬ AppendStore (appendRotation rot) query key value queryHeads keyHeads state pair
        (position (state / (queryHeads + keyHeads))) (slot (state / (queryHeads + keyHeads))) a v) :
    appendMemory query key value out a = appendMemory query key value before a := by
  obtain ⟨array, i⟩ := a
  -- the block of head `h` of row `r`
  have block : ∀ {r h : Nat}, r < rows → h < queryHeads + keyHeads →
      r * (queryHeads + keyHeads) + h < rows * (queryHeads + keyHeads) := rowMajor_lt
  have pages : (array = .keyPages ∨ array = .valuePages) → ∀ token < rows, ∀ head < keyHeads,
      ∀ slot', table.physicalPageForToken (request token) (position token) = some slot' →
      ¬ (slotOffset keyHeads head slot' ≤ i ∧ i < slotOffset keyHeads head slot' + 128) := by
    intro harray token ht head hh slot' found' range
    obtain rfl : slot token = slot' := Option.some.inj ((found _ ht).symm.trans found')
    obtain ⟨c, rfl⟩ := Nat.exists_eq_add_of_le range.1
    have hc : c < 128 := by omega
    have hlt : queryHeads + head < queryHeads + keyHeads := by omega
    have hdiv : (token * (queryHeads + keyHeads) + (queryHeads + head)) / (queryHeads + keyHeads) =
        token := row_div hlt
    have hmod : (token * (queryHeads + keyHeads) + (queryHeads + head)) % (queryHeads + keyHeads) =
        queryHeads + head := row_mod hlt
    have head_eq : keyHead queryHeads keyHeads
        (token * (queryHeads + keyHeads) + (queryHeads + head)) = head := by
      rw [keyHead, hmod, Nat.add_sub_cancel_left]
    have mine := unwritten _ (block ht hlt) (c % rotaryPairs) (Nat.mod_lt _ (by decide))
    have other : queryHeads ≤
        (token * (queryHeads + keyHeads) + (queryHeads + head)) % (queryHeads + keyHeads) := by
      omega
    rw [hdiv] at mine
    rcases harray with rfl | rfl
    · have store : AppendStore (appendRotation rot) query key value queryHeads keyHeads _ _
          (position token) (slot token) _ _ := .key (inPair_mod hc) other
      rw [head_eq] at store
      exact mine _ store
    · have store : AppendStore (appendRotation rot) query key value queryHeads keyHeads _ _
          (position token) (slot token) _ _ := .value (inPair_mod hc) other
      rw [head_eq] at store
      exact mine _ store
  cases array with
  | query => rfl
  | key => rfl
  | value => rfl
  | queryOutput =>
    refine queryFrame i (Nat.not_lt.mp fun hrow => ?_)
    have query_pos : 0 < queryHeads := Nat.pos_of_ne_zero fun h => by simp [h] at hrow
    have token := (lt_rows_iff query_pos).mpr hrow
    have head := Nat.mod_lt (i / 128) query_pos
    have hlt : i / 128 % queryHeads < queryHeads + keyHeads := by omega
    have hdiv : (i / 128 / queryHeads * (queryHeads + keyHeads) + i / 128 % queryHeads) /
        (queryHeads + keyHeads) = i / 128 / queryHeads := row_div hlt
    have hmod : (i / 128 / queryHeads * (queryHeads + keyHeads) + i / 128 % queryHeads) %
        (queryHeads + keyHeads) = i / 128 % queryHeads := row_mod hlt
    have row_eq : queryRow queryHeads keyHeads
        (i / 128 / queryHeads * (queryHeads + keyHeads) + i / 128 % queryHeads) = i / 128 := by
      rw [queryRow, hdiv, hmod, Nat.div_add_mod']
    have store : AppendStore (appendRotation rot) query key value queryHeads keyHeads
        (i / 128 / queryHeads * (queryHeads + keyHeads) + i / 128 % queryHeads) _
        (position (i / 128 / queryHeads)) (slot (i / 128 / queryHeads)) _ _ :=
      .query (inPair_mod (Nat.mod_lt i (by decide : 0 < 128))) (hmod.symm ▸ head)
    have mine := unwritten _ (block token hlt) (i % 128 % rotaryPairs) (Nat.mod_lt _ (by decide))
    rw [row_eq, Nat.div_add_mod' i 128] at store
    rw [hdiv] at mine
    exact mine _ store
  | keyPages => exact (effect.frame i (pages (Or.inl rfl))).1
  | valuePages => exact (effect.frame i (pages (Or.inr rfl))).2

end Effect

end Launch

/-! ## The multi-token kernel -/

section Tokens

variable {B : Type} [Inhabited B]

/-- No thread reads what a thread writes. -/
theorem appendWrites_separate {rotate : Nat → Nat → B → B → B × B}
    {queryHeads keyHeads state pair position state' pair' position' : Nat} {slot slot' : Nat × Nat}
    (hp' : pair' < rotaryPairs) {a : AppendAddress}
    (h : Op.read a ∈ appendWrites rotate queryHeads keyHeads state pair position slot.1 slot.2) :
    a ∉ writeSet (appendWrites rotate queryHeads keyHeads state' pair' position' slot'.1 slot'.2) := by
  intro h'
  obtain ⟨v, store⟩ :=
    (mem_writeSet_appendWrites (fun _ => default) (fun _ => default) (fun _ => default) hp').mp h'
  have input := appendWrites_reads h
  rcases store.isOutput with ha | ha | ha <;> simp [ha] at input

/-- The programs of a multi-token launch on valid metadata. -/
def tokensProgram (rotate : Nat → Nat → B → B → B × B) (spec : Bf16RopePagedKvAppendTokensSpec)
    (batchIndices positions pageIndptr pageIndices : Slice Int32)
    (t : GridThread (spec.tokens * (spec.numQueryHeads + spec.numKvHeads)) ropeBlockThreads) :
    List (Op AppendAddress B) :=
  let token := t.1 / (spec.numQueryHeads + spec.numKvHeads)
  let slot := appendSlotOf batchIndices positions pageIndptr pageIndices token
  appendWrites rotate spec.numQueryHeads spec.numKvHeads t.1 t.2 (appendPosition positions token)
    slot.1 slot.2

/-- On accepted metadata the multi-token kernel computes what the host reference computes, whatever
the interleaving of its threads. -/
theorem tokensKernel_eq_reference (rot : Rotation B) (nan : B)
    (query key value queryOutput keyPages valuePages : Slice B)
    (batchIndices positions pageIndptr pageIndices lastPageLen : Slice Int32)
    (spec : Bf16RopePagedKvAppendTokensSpec)
    (lengths : AppendLengths spec.queryNumel spec.keyNumel spec.valueNumel spec.queryOutputNumel
      spec.kvPagesNumel query key value queryOutput keyPages valuePages)
    (accepted : ∃ metadata, spec.validateMetadata batchIndices positions pageIndptr pageIndices
      lastPageLen = .ok metadata) :
    ∃ out, ropePagedKvAppendTokensBf16Reference rot nan query key value batchIndices positions
        pageIndptr pageIndices lastPageLen queryOutput keyPages valuePages spec = .ok out ∧
      ∃ program : GridThread (spec.tokens * (spec.numQueryHeads + spec.numKvHeads)) ropeBlockThreads →
          List (Op AppendAddress B),
        Launched (tokensKernel (appendRotation rot) spec.tokens spec.batchSize spec.maxNumPages
          spec.numQueryHeads spec.numKvHeads batchIndices positions pageIndptr pageIndices
          lastPageLen) program ∧
        (∀ t t' a, a ∈ writeSet (program t) → a ∈ writeSet (program t') → t = t') ∧
        (∀ t t' a, Op.read a ∈ program t → a ∉ writeSet (program t')) ∧
        (∃ schedule, ((Config.start (appendMemory query.get key.get value.get
          ⟨queryOutput.get, keyPages.get, valuePages.get⟩) program).run schedule).Complete) ∧
        ∀ schedule, ((Config.start (appendMemory query.get key.get value.get
            ⟨queryOutput.get, keyPages.get, valuePages.get⟩) program).run schedule).Complete →
          ((Config.start (appendMemory query.get key.get value.get
            ⟨queryOutput.get, keyPages.get, valuePages.get⟩) program).run schedule).mem =
            appendMemory query.get key.get value.get out := by
  obtain ⟨_, hmeta⟩ := accepted
  obtain ⟨valid, -⟩ := spec.validateMetadata_eq_ok.mp hmeta
  have effect := tokensAppendOut_effect rot nan valid query.get key.get value.get
    ⟨queryOutput.get, keyPages.get, valuePages.get⟩
  have found : ∀ token < spec.tokens, Bf16PagedBatchDecodePageTable.physicalPageForToken
      ⟨spec.paged, pageIndptr, pageIndices, lastPageLen, valid.table⟩ (appendRequest batchIndices token)
      (appendPosition positions token) =
        some (appendSlotOf batchIndices positions pageIndptr pageIndices token) := fun token ht =>
    Bf16PagedBatchDecodePageTable.physicalPageForToken_eq
      ⟨spec.paged, pageIndptr, pageIndices, lastPageLen, valid.table⟩ (valid.token token ht).request_lt
      (valid.token token ht).position_lt
  have offset : ∀ token < spec.tokens,
      (appendSlotOf batchIndices positions pageIndptr pageIndices token).2 < 16 := fun token ht =>
    (valid.table.slot_lt (valid.token token ht).request_lt (valid.token token ht).position_lt).2
  have separate : ∀ t t' a,
      Op.read a ∈ tokensProgram (appendRotation rot) spec batchIndices positions pageIndptr pageIndices
        t →
      a ∉ writeSet (tokensProgram (appendRotation rot) spec batchIndices positions pageIndptr
        pageIndices t') := fun _ t' _ => appendWrites_separate t'.2.isLt
  refine ⟨_, tokensReference_eq_ok.mpr ⟨lengths, valid, rfl⟩, tokensProgram (appendRotation rot) spec
    batchIndices positions pageIndptr pageIndices, fun t => ?_, fun t t' a ht ht' => ?_, separate,
    exists_complete _ _ (List.finRange _ ×ˢ List.finRange _) fun t ht => ?_,
    fun schedule => complete_run_mem separate (fun t w hw => ?_) fun a unwritten => ?_⟩
  · obtain ⟨_, run, slots⟩ := tokensGuard_ok spec valid.table.lengths valid.batch_len
      valid.positions_len t.1.isLt t.2.isLt
    obtain rfl := (slots _).mpr ⟨valid, rfl⟩
    rw [tokensKernel, run]
    rfl
  · obtain ⟨_, store⟩ :=
      (mem_writeSet_appendWrites query.get key.get value.get t.2.isLt).mp ht
    obtain ⟨_, store'⟩ :=
      (mem_writeSet_appendWrites query.get key.get value.get t'.2.isLt).mp ht'
    have same := appendStores_disjoint offset (pairwise_injective valid.distinct) t.1.isLt t'.1.isLt
      t.2.isLt t'.2.isLt rfl store store'
    exact Prod.ext (Fin.ext same.1) (Fin.ext same.2)
  · exact absurd (List.pair_mem_product.mpr ⟨List.mem_finRange t.1, List.mem_finRange t.2⟩) ht
  · exact appendStores_agree effect found t.1.isLt t.2.isLt
      ((mem_effects_appendWrites t.2.isLt).mp hw)
  · refine appendStores_covered effect found (fun i hi => ?_) fun state hs pair hp v store => ?_
    · rw [tokensAppendOut, appendLoop_queryOutput]
      exact if_neg (Nat.not_lt.mpr (valid.positions_len ▸ hi))
    · exact unwritten (⟨state, hs⟩, ⟨pair, hp⟩)
        ((mem_writeSet_appendWrites query.get key.get value.get hp).mpr ⟨v, store⟩)

end Tokens

/-- Two tokens of two requests, side by side on one page. -/
theorem tokensKernel_eq_reference_sharedPage :
    ∃ out, ropePagedKvAppendTokensBf16Reference shiftFirst 0 ⟨256, id⟩ ⟨256, fun i => 2 * i⟩
        ⟨256, fun i => 3 * i⟩ (Slice.ofList [0, 1]) (Slice.ofList [0, 1]) (Slice.ofList [0, 1, 2])
        (Slice.ofList [0, 0]) (Slice.ofList [1, 2]) ⟨256, fun _ => 7⟩ ⟨2048, fun _ => 8⟩
        ⟨2048, fun _ => 9⟩ sharedPageTokensSpec = .ok out ∧
      ∃ program : GridThread (2 * (1 + 1)) ropeBlockThreads → List (Op AppendAddress Nat),
        Launched (tokensKernel (appendRotation shiftFirst) 2 2 1 1 1 (Slice.ofList [0, 1])
          (Slice.ofList [0, 1]) (Slice.ofList [0, 1, 2]) (Slice.ofList [0, 0])
          (Slice.ofList [1, 2])) program ∧
        (∀ t t' a, a ∈ writeSet (program t) → a ∈ writeSet (program t') → t = t') ∧
        (∀ t t' a, Op.read a ∈ program t → a ∉ writeSet (program t')) ∧
        (∃ schedule, ((Config.start (appendMemory id (fun i => 2 * i) (fun i => 3 * i)
          ⟨fun _ => 7, fun _ => 8, fun _ => 9⟩) program).run schedule).Complete) ∧
        ∀ schedule, ((Config.start (appendMemory id (fun i => 2 * i) (fun i => 3 * i)
            ⟨fun _ => 7, fun _ => 8, fun _ => 9⟩) program).run schedule).Complete →
          ((Config.start (appendMemory id (fun i => 2 * i) (fun i => 3 * i)
            ⟨fun _ => 7, fun _ => 8, fun _ => 9⟩) program).run schedule).mem =
            appendMemory id (fun i => 2 * i) (fun i => 3 * i) out :=
  tokensKernel_eq_reference shiftFirst 0 ⟨256, id⟩ ⟨256, fun i => 2 * i⟩ ⟨256, fun i => 3 * i⟩
    ⟨256, fun _ => 7⟩ ⟨2048, fun _ => 8⟩ ⟨2048, fun _ => 9⟩ (Slice.ofList [0, 1])
    (Slice.ofList [0, 1]) (Slice.ofList [0, 1, 2]) (Slice.ofList [0, 0]) (Slice.ofList [1, 2])
    sharedPageTokensSpec ⟨rfl, rfl, rfl, rfl, rfl, rfl⟩
    ⟨_, sharedPageTokensSpec.validateMetadata_eq_ok.mpr ⟨sharedPage_tokensValid, rfl⟩⟩

end LoomKernels
