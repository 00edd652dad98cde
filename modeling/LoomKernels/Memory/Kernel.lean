import LoomKernels.Device.TiledKernel
import LoomKernels.Lib.Access

/-!
# Memory accesses of the kernels

The kernels again, for the accesses that one thread makes: the floating-point arithmetic is left
out, since no address and no branch depends on it, and all index arithmetic is on words of 64 bits
(32 for the differences of two `i32`). A read of an `i32` array checks its index, as a Rust slice
does; pointers are not checked.

The parts that attention kernels share are here. `Contained` is what is shown of every access: it is
inside its buffer, at a multiple of its width, and a store of results is in a cell that the thread
owns. A cell is the row of one query head of one query row in the output and the log-sum-exp, and
one partial state in the workspace.
-/

namespace LoomKernels.Memory

/-- The arguments of kernels that are arrays, and the shared arrays of a block. -/
inductive KernelBuffer where
  | query
  | key
  | value
  | qoIndptr
  | kvIndptr
  | pageIndptr
  | pageIndices
  | lastPageLen
  | output
  | lse
  | workspace
  | partialStates
  | pageValid
  | kvTile
  deriving DecidableEq, Repr

/-- The bytes of an element. -/
def KernelBuffer.elementBytes : KernelBuffer → Nat
  | .query | .key | .value | .output => 2
  | _ => 4

/-- The bytes of a cell of results. -/
def KernelBuffer.cellBytes : KernelBuffer → Nat
  | .output => 2 * singleDecodeHeadDim
  | .workspace => 4 * singleDecodePartialStateWidth
  | _ => 4

def KernelBuffer.holdsResults : KernelBuffer → Bool
  | .output | .lse | .workspace => true
  | _ => false

/-- The code of a thread. -/
abbrev KernelM := Traced KernelBuffer

/-! ## Parts of kernels -/

/-- `array[index]` of an `i32` array. -/
def readI32 (buffer : KernelBuffer) (array : Slice Int32) (index : Nat) : KernelM Int := do
  compute (inBounds index array.len)
  load buffer (4 * index) 4
  return array.int index

/-- A read of four bytes through a pointer. -/
def loadWord (buffer : KernelBuffer) (index : Nat) : KernelM Unit := load buffer (4 * index) 4

/-- A write of four bytes through a pointer. -/
def storeWord (buffer : KernelBuffer) (index : Nat) : KernelM Unit := store buffer (4 * index) 4

/-- `workspace[index]` -/
def readWorkspace (workspaceLen index : Nat) : KernelM Unit := do
  compute (inBounds index workspaceLen)
  loadWord .workspace index

/-- `first_pair` and `second_pair` -/
def rowPairs (state lane : Nat) : Machine Empty (List Nat) := do
  let first ← addWord 64 (← mulWord 64 state bf16PairsPerHead) lane
  return [first, ← addWord 64 first warpThreads]

/-- `kv_pair_offset` of a token, or of a slot of a page. -/
def kvPairOffset (numKvHeads kvHead pair row : Nat) : Machine Empty Nat := do
  let head ← addWord 64 (← mulWord 64 row numKvHeads) kvHead
  addWord 64 (← mulWord 64 head bf16PairsPerHead) pair

/-- The reads of two key pairs and two value pairs. -/
def loadKeyValue (offset : Nat) : KernelM Unit := do
  let second ← compute (addWord 64 offset warpThreads)
  loadWord .key offset
  loadWord .key second
  loadWord .value offset
  loadWord .value second

/-- The writes of a lane's results. -/
def storeResult (state lane : Nat) (pairs : List Nat) : KernelM Unit := do
  if lane = 0 then storeWord .lse state
  pairs.forM (storeWord .output)

/-- The four components of a lane in the partial state at `offset`. -/
def stateComponents (offset lane : Nat) : Machine Empty (List Nat) := do
  let first ← mulWord 64 lane 2
  let second ← addWord 64 (singleDecodeHeadDim / 2) first
  [(2, first), (3, first), (2, second), (3, second)].mapM fun (header, component) => do
    addWord 64 (← addWord 64 offset header) component

/-- The writes of a lane to a partial state. -/
def storePartialState (buffer : KernelBuffer) (offset lane : Nat) : KernelM Unit := do
  let components ← compute (stateComponents offset lane)
  if lane = 0 then
    storeWord buffer offset
    storeWord buffer (offset + 1)
  components.forM (storeWord buffer)

/-- The reads of a lane from a partial state. -/
def loadPartialState (buffer : KernelBuffer) (offset lane : Nat) : KernelM Unit := do
  let components ← compute (stateComponents offset lane)
  loadWord buffer offset
  loadWord buffer (offset + 1)
  components.forM (loadWord buffer)

/-- The token-parallel kernels after their guards: a warp goes over the tokens from its cut to the
next, and after a barrier warp zero merges the partial states. -/
def tokenParallelRow (warps state thread : Nat) (cut : Nat → Machine Empty Nat)
    (kvPair : Nat → KernelM Nat) : KernelM Unit := do
  let warp := thread / warpThreads
  let lane := thread % warpThreads
  let pairs ← compute (rowPairs state lane)
  pairs.forM (loadWord .query)
  let tokenStart ← compute (cut warp)
  let tokenEnd ← compute (cut (warp + 1))
  forEach tokenStart tokenEnd fun token => do loadKeyValue (← kvPair token)
  storePartialState .partialStates (← compute (mulWord 64 warp singleDecodePartialStateWidth)) lane
  if warp = 0 then
    forEach 0 warps fun part => do
      let offset ← compute (mulWord 64 part singleDecodePartialStateWidth)
      loadPartialState .partialStates offset lane
    storeResult state lane pairs

/-! ## Accesses that are contained -/

/-- The access stays in one cell. -/
def InCell (cell : Nat) (a : ByteAccess KernelBuffer) : Prop :=
  a.Within (cell * a.buffer.cellBytes) ((cell + 1) * a.buffer.cellBytes)

/-- An access inside its buffer, where `len` are the numbers of elements, at a multiple of its
width, and to results only in a cell that is `own`. -/
structure Contained (len : KernelBuffer → Nat) (own : Nat → Prop) (a : ByteAccess KernelBuffer) : Prop where
  inBounds : a.InBounds fun buffer => len buffer * buffer.elementBytes
  aligned : a.width ∣ a.offset
  owned : a.isStore = true → a.buffer.holdsResults = true → ∃ cell, own cell ∧ InCell cell a

/-- The thread runs to its end, so no arithmetic of it wraps and no check of an index fails, and all
its accesses are contained. -/
def RunContained (len : KernelBuffer → Nat) (own : Nat → Prop) (x : KernelM Unit) : Prop :=
  ∃ trace, Traces x () trace ∧ ∀ a ∈ trace, Contained len own a

/-- No two blocks of a grid store the same element of a result. -/
def WritesApart (blocks threads : Nat) (kernel : Nat → Nat → KernelM Unit) : Prop :=
  ∀ block < blocks, ∀ block' < blocks, block ≠ block' → ∀ thread < threads, ∀ thread' < threads,
    ∀ trace trace', Traces (kernel block thread) () trace →
      Traces (kernel block' thread') () trace' → ∀ a ∈ trace, ∀ b ∈ trace',
        a.isStore = true → b.isStore = true → a.buffer.holdsResults = true → ¬ a.Overlaps b

/-- What a block that computes one row of results may write: its own row. -/
def OwnRow (state cell : Nat) : Prop := cell = state

theorem ownRow_unique {rows : Nat} : ∀ state < rows, ∀ state' < rows, ∀ cell, OwnRow state cell →
    OwnRow state' cell → state = state' :=
  fun _ _ _ _ _ h h' => h.symm.trans h'

section Contained

variable {len : KernelBuffer → Nat} {own own' : Nat → Prop}

theorem RunContained.of_safe {x : KernelM Unit} {Q : Unit → Prop}
    (h : Safe (Contained len own) x Q) : RunContained len own x := by
  obtain ⟨_, trace, run, -, contained⟩ := h.traces
  exact ⟨trace, run, contained⟩

/-- Stores of results by threads that own different cells do not overlap. -/
theorem Contained.not_overlaps {a b : ByteAccess KernelBuffer} (ha : Contained len own a)
    (hb : Contained len own' b) (storeA : a.isStore = true) (storeB : b.isStore = true)
    (results : a.buffer.holdsResults = true) (apart : ∀ cell, own cell → ¬ own' cell) :
    ¬ a.Overlaps b := by
  intro overlap
  have same := overlap.1
  obtain ⟨cell, owns, inside⟩ := ha.owned storeA results
  obtain ⟨cell', owns', inside'⟩ := hb.owned storeB (same ▸ results)
  rw [InCell, ← same] at inside'
  refine ByteAccess.not_overlaps_of_cells inside inside' ?_ overlap
  rintro rfl
  exact apart cell owns owns'

/-- The accesses of a contained run, whichever its trace is. -/
theorem RunContained.of_trace {x : KernelM Unit} (h : RunContained len own x)
    {trace : List (ByteAccess KernelBuffer)} (run : Traces x () trace) :
    ∀ a ∈ trace, Contained len own a := by
  obtain ⟨trace', run', contained⟩ := h
  obtain rfl : trace = trace' := by
    have same := run.symm.trans run'
    injection same
  exact contained

theorem writesApart_of_contained {blocks threads : Nat} {kernel : Nat → Nat → KernelM Unit}
    {owns : Nat → Nat → Prop}
    (contained : ∀ block < blocks, ∀ thread < threads,
      RunContained len (owns block) (kernel block thread))
    (apart : ∀ block < blocks, ∀ block' < blocks, ∀ cell, owns block cell → owns block' cell →
      block = block') : WritesApart blocks threads kernel := by
  intro block hblock block' hblock' other thread ht thread' ht' trace trace' run run' a ha b hb storeA
    storeB results
  have first := (contained block hblock thread ht).of_trace run a ha
  have second := (contained block' hblock' thread' ht').of_trace run' b hb
  refine first.not_overlaps second storeA storeB results fun cell owned owned' => other ?_
  exact apart block hblock block' hblock' cell owned owned'

theorem contained_load {buffer : KernelBuffer} {index : Nat}
    (h : 4 * index + 4 ≤ len buffer * buffer.elementBytes) :
    Contained len own ⟨buffer, false, 4 * index, 4⟩ :=
  ⟨h, Nat.dvd_mul_right 4 index, nofun⟩

theorem loadWord_safe {buffer : KernelBuffer} {index : Nat}
    (h : 4 * index + 4 ≤ len buffer * buffer.elementBytes) :
    Safe (Contained len own) (loadWord buffer index) (· = ()) :=
  safe_load (contained_load h)

theorem storeWord_safe {buffer : KernelBuffer} {index : Nat}
    (h : 4 * index + 4 ≤ len buffer * buffer.elementBytes)
    (owned : buffer.holdsResults = true →
      ∃ cell, own cell ∧ InCell cell ⟨buffer, true, 4 * index, 4⟩) :
    Safe (Contained len own) (storeWord buffer index) (· = ()) :=
  safe_store ⟨h, Nat.dvd_mul_right 4 index, fun _ => owned⟩

theorem readI32_safe {buffer : KernelBuffer} {array : Slice Int32} {index : Nat}
    (h : index < array.len) (same : len buffer = array.len) (bytes : buffer.elementBytes = 4) :
    Safe (Contained len own) (readI32 buffer array index) (· = array.int index) := by
  refine (safe_compute (inBounds_ok h)).step ((safe_load (contained_load ?_)).step (safe_pure rfl))
  rw [same, bytes]
  omega

theorem readWorkspace_safe {index : Nat} (h : index < len .workspace) :
    Safe (Contained len own) (readWorkspace (len .workspace) index) (· = ()) := by
  refine (safe_compute (inBounds_ok h)).step (loadWord_safe ?_)
  change 4 * index + 4 ≤ len .workspace * 4
  omega

end Contained

/-! ## Index arithmetic -/

section Index

theorem rowPairs_ok {rows state lane : Nat} (h : state < rows) (hl : lane < 32)
    (fits : rows * 128 < 2 ^ 64) :
    rowPairs state lane = .ok [state * 64 + lane, state * 64 + lane + 32] := by
  have row : (state + 1) * 128 ≤ rows * 128 := Nat.mul_le_mul_right _ h
  unfold rowPairs bf16PairsPerHead singleDecodeHeadDim warpThreads
  rw [mulWord_ok (by omega), ok_bind, addWord_ok (by omega), ok_bind, addWord_ok (by omega)]
  rfl

theorem kvPairOffset_ok {slots numKvHeads kvHead pair row : Nat} (h : row < slots)
    (hk : kvHead < numKvHeads) (hp : pair < 64) (fits : slots * numKvHeads * 128 < 2 ^ 64) :
    kvPairOffset numKvHeads kvHead pair row = .ok ((row * numKvHeads + kvHead) * 64 + pair) := by
  have inside : row * numKvHeads + kvHead < slots * numKvHeads := rowMajor_lt h hk
  unfold kvPairOffset bf16PairsPerHead singleDecodeHeadDim
  rw [mulWord_ok (by omega), ok_bind, addWord_ok (by omega), ok_bind, mulWord_ok (by omega),
    ok_bind, addWord_ok (by omega)]

theorem stateComponents_ok {offset lane : Nat} (hl : lane < 32) (fits : offset + 130 < 2 ^ 64) :
    stateComponents offset lane = .ok [offset + 2 + lane * 2, offset + 3 + lane * 2,
      offset + 2 + (64 + lane * 2), offset + 3 + (64 + lane * 2)] := by
  have component : ∀ header c, header + c < 130 →
      (do addWord 64 (← addWord 64 offset header) c : Machine Empty Nat) =
        .ok (offset + header + c) := by
    intro header c small
    rw [addWord_ok (by omega), ok_bind, addWord_ok (by omega)]
  unfold stateComponents singleDecodeHeadDim
  rw [mulWord_ok (by omega), ok_bind, addWord_ok (by omega), ok_bind]
  exact mapM_eq_ok.mpr (.cons (component 2 _ (by omega)) (.cons (component 3 _ (by omega))
    (.cons (component 2 _ (by omega)) (.cons (component 3 _ (by omega)) .nil))))

end Index

/-! ## Parts of kernels are contained -/

/-- The lengths of the arrays of an attention kernel with `rows` rows of results and `slots` tokens,
or slots of pages. -/
structure AttentionLens (len : KernelBuffer → Nat) (rows slots numKvHeads : Nat) : Prop where
  query : len .query = rows * 128
  key : len .key = slots * numKvHeads * 128
  value : len .value = slots * numKvHeads * 128
  query_fits : rows * 128 < 2 ^ 64
  kv_fits : slots * numKvHeads * 128 < 2 ^ 64

/-- The lengths of the arrays of results. -/
structure ResultLens (len : KernelBuffer → Nat) (rows : Nat) : Prop where
  output : len .output = rows * 128
  lse : len .lse = rows

/-- The number of the rows of results is a word. -/
theorem AttentionLens.rows_ok {len : KernelBuffer → Nat}
    {queryRows numQueryHeads slots numKvHeads : Nat}
    (lens : AttentionLens len (queryRows * numQueryHeads) slots numKvHeads) :
    (mulWord 64 queryRows numQueryHeads : Machine Empty Nat) = .ok (queryRows * numQueryHeads) := by
  have fits := lens.query_fits
  exact mulWord_ok (by omega)

section Parts

variable {len : KernelBuffer → Nat} {own : Nat → Prop} {rows slots numKvHeads : Nat}

theorem loadQuery_safe (lens : AttentionLens len rows slots numKvHeads) {state lane : Nat}
    (h : state < rows) (hl : lane < 32) :
    Safe (Contained len own)
      ([state * 64 + lane, state * 64 + lane + 32].forM (loadWord .query)) (· = ()) := by
  have row : (state + 1) * 128 ≤ rows * 128 := Nat.mul_le_mul_right _ h
  refine safe_forM fun pair mem => loadWord_safe ?_
  rw [lens.query]
  change 4 * pair + 4 ≤ rows * 128 * 2
  simp only [List.mem_cons, List.not_mem_nil, or_false] at mem
  omega

theorem loadKeyValue_safe (lens : AttentionLens len rows slots numKvHeads) {row kvHead lane : Nat}
    (h : row < slots) (hk : kvHead < numKvHeads) (hl : lane < 32) :
    Safe (Contained len own) (loadKeyValue ((row * numKvHeads + kvHead) * 64 + lane)) (· = ()) := by
  have fits := lens.kv_fits
  have inside : row * numKvHeads + kvHead < slots * numKvHeads := rowMajor_lt h hk
  have head : (row * numKvHeads + kvHead + 1) * 128 ≤ slots * numKvHeads * 128 :=
    Nat.mul_le_mul_right _ inside
  have bound : ∀ pair, pair ≤ (row * numKvHeads + kvHead) * 64 + lane + 32 →
      4 * pair + 4 ≤ slots * numKvHeads * 128 * 2 := fun pair le => by omega
  unfold loadKeyValue warpThreads
  refine (safe_compute (addWord_ok (by omega))).step ?_
  refine (loadWord_safe ?_).step ((loadWord_safe ?_).step ((loadWord_safe ?_).step (loadWord_safe ?_)))
  · rw [lens.key]
    exact bound _ (by omega)
  · rw [lens.key]
    exact bound _ (by omega)
  · rw [lens.value]
    exact bound _ (by omega)
  · rw [lens.value]
    exact bound _ (by omega)

theorem storeResult_safe (lens : ResultLens len rows) {state lane : Nat} (h : state < rows)
    (hl : lane < 32) (owned : own state) :
    Safe (Contained len own)
      (storeResult state lane [state * 64 + lane, state * 64 + lane + 32]) (· = ()) := by
  have row : (state + 1) * 128 ≤ rows * 128 := Nat.mul_le_mul_right _ h
  have header : Safe (Contained len own) (storeWord .lse state) (· = ()) := by
    refine storeWord_safe ?_ fun _ => ⟨state, owned, ?_, ?_⟩
    · rw [lens.lse]
      change 4 * state + 4 ≤ rows * 4
      omega
    · change state * 4 ≤ 4 * state
      omega
    · change 4 * state + 4 ≤ (state + 1) * 4
      omega
  have components : Safe (Contained len own)
      ([state * 64 + lane, state * 64 + lane + 32].forM (storeWord .output)) (· = ()) := by
    refine safe_forM fun pair mem => ?_
    simp only [List.mem_cons, List.not_mem_nil, or_false] at mem
    refine storeWord_safe ?_ fun _ => ⟨state, owned, ?_, ?_⟩
    · rw [lens.output]
      change 4 * pair + 4 ≤ rows * 128 * 2
      omega
    · change state * 256 ≤ 4 * pair
      omega
    · change 4 * pair + 4 ≤ (state + 1) * 256
      omega
  unfold storeResult
  split
  · exact header.step components
  · exact components

/-- The indices of a lane in a partial state are inside the state. -/
theorem stateComponents_mem {offset lane i : Nat} (hl : lane < 32)
    (mem : i ∈ [offset + 2 + lane * 2, offset + 3 + lane * 2, offset + 2 + (64 + lane * 2),
      offset + 3 + (64 + lane * 2)]) : offset ≤ i ∧ i < offset + 130 := by
  simp only [List.mem_cons, List.not_mem_nil, or_false] at mem
  omega

section State

variable {buffer : KernelBuffer} {cell lane : Nat} (hl : lane < 32)
  (bytes : buffer.elementBytes = 4) (inside : (cell + 1) * 130 ≤ len buffer)
  (fits : len buffer < 2 ^ 64)
include hl bytes inside fits

theorem loadPartialState_safe :
    Safe (Contained len own) (loadPartialState buffer (cell * 130) lane) (· = ()) := by
  have word : ∀ i, cell * 130 ≤ i → i < cell * 130 + 130 →
      Safe (Contained len own) (loadWord buffer i) (· = ()) := by
    intro i lo hi
    refine loadWord_safe ?_
    rw [bytes]
    omega
  refine (safe_compute (stateComponents_ok hl (by omega))).step ?_
  refine (word _ (by omega) (by omega)).step ((word _ (by omega) (by omega)).step ?_)
  refine safe_forM fun i mem => ?_
  obtain ⟨lo, hi⟩ := stateComponents_mem hl mem
  exact word i lo hi

theorem storePartialState_safe
    (owned : buffer.holdsResults = true → own cell ∧ buffer.cellBytes = 520) :
    Safe (Contained len own) (storePartialState buffer (cell * 130) lane) (· = ()) := by
  have word : ∀ i, cell * 130 ≤ i → i < cell * 130 + 130 →
      Safe (Contained len own) (storeWord buffer i) (· = ()) := by
    intro i lo hi
    refine storeWord_safe ?_ fun results => ⟨cell, (owned results).1, ?_⟩
    · rw [bytes]
      omega
    · rw [InCell, (owned results).2]
      exact ⟨by dsimp only; omega, by dsimp only; omega⟩
  have components : Safe (Contained len own)
      ([cell * 130 + 2 + lane * 2, cell * 130 + 3 + lane * 2, cell * 130 + 2 + (64 + lane * 2),
        cell * 130 + 3 + (64 + lane * 2)].forM (storeWord buffer)) (· = ()) := by
    refine safe_forM fun i mem => ?_
    obtain ⟨lo, hi⟩ := stateComponents_mem hl mem
    exact word i lo hi
  refine (safe_compute (stateComponents_ok hl (by omega))).step ?_
  split
  · refine (word _ (by omega) (by omega)).step ((word _ (by omega) (by omega)).step ?_)
    exact components
  · exact components

end State

/-- After its guard, a token-parallel kernel is contained where its key and value rows are. -/
theorem tokenParallelRow_safe (lens : AttentionLens len rows slots numKvHeads)
    (results : ResultLens len rows) {warps state thread kvHead : Nat} {cut : Nat → Machine Empty Nat}
    {start : Nat → Nat} {kvPair : Nat → KernelM Nat} (shared : len .partialStates = warps * 130)
    (small : warps ≤ 16) (h : state < rows) (ht : thread < warps * 32) (hk : kvHead < numKvHeads)
    (owned : own state) (cuts : ∀ warp ≤ warps, cut warp = .ok (start warp))
    (kvRow : ∀ token, start (thread / 32) ≤ token → token < start (thread / 32 + 1) →
      Safe (Contained len own) (kvPair token) fun offset =>
        ∃ row < slots, offset = (row * numKvHeads + kvHead) * 64 + thread % 32) :
    Safe (Contained len own) (tokenParallelRow warps state thread cut kvPair) (· = ()) := by
  have hl : thread % 32 < 32 := Nat.mod_lt _ (by decide)
  have hw : thread / 32 < warps := by omega
  unfold tokenParallelRow warpThreads singleDecodePartialStateWidth singleDecodeHeadDim
  dsimp only
  refine (safe_compute (rowPairs_ok h hl lens.query_fits)).step ((loadQuery_safe lens h hl).step ?_)
  refine (safe_compute (cuts _ hw.le)).step ((safe_compute (cuts _ hw)).step ?_)
  refine Safe.step (r := ()) (safe_forEach fun token lo hi => ?_) ?_
  · refine (kvRow token lo hi).bind ?_
    rintro _ ⟨row, hr, rfl⟩
    exact loadKeyValue_safe lens hr hk hl
  refine (safe_compute (mulWord_ok (by omega))).step ?_
  refine (storePartialState_safe hl rfl (by omega) (by omega) fun results => ?_).step ?_
  · cases results
  split
  · refine Safe.step (r := ()) (safe_forEach fun part _ hp => ?_) ?_
    · refine (safe_compute (mulWord_ok (by omega))).step ?_
      exact loadPartialState_safe hl rfl (by omega) (by omega)
    · exact storeResult_safe results h hl owned
  · exact safe_pure rfl

end Parts

end LoomKernels.Memory
