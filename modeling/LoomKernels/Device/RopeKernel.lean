import LoomKernels.Device.AppendKernels
import LoomKernels.Device.DecodePlans
import LoomKernels.Host.RopeLaws

/-!
# The rotary kernel

A launch has one block of 64 threads for every token and combined head, as the append kernels have.
A thread rotates one split-half pair of its head, unless the position of its token is negative. The
kernel computes its angles with the reciprocal of the base, the reference with a negative exponent;
in exact arithmetic both are one angle (`deviceRotation_exact`).

The threads write disjoint sets, so every complete run leaves one memory: the tokens whose positions
are not negative are rotated, and the rows of the others are as before.
-/

namespace LoomKernels

/-! ## The kernel -/

/-- The arrays that the kernel reads and writes. -/
inductive RopeArray where
  | query
  | key
  | queryOutput
  | keyOutput
  deriving DecidableEq, Repr

/-- An element of an array. -/
abbrev RopeAddress := RopeArray × Nat

section Kernel

variable {B : Type} [Inhabited B]

/-- `rotate_pair_to`, from the head at `base` of one array to that of another. -/
def ropePairTo (rotate : B → B → B × B) (input output : RopeArray) (base pair : Nat) :
    List (Op RopeAddress B) :=
  [.read (input, base + pair),
    .read (input, base + rotaryPairs + pair),
    .write (output, base + pair) fun r => (rotate r[0]! r[1]!).1,
    .write (output, base + rotaryPairs + pair) fun r => (rotate r[0]! r[1]!).2]

/-- `rope_pos_ids_bf16_neox_d128` -/
def ropePosIdsKernel (rotate : Int → Nat → B → B → B × B) (tokens queryHeads keyHeads : Nat)
    (positionIds : Slice Int32) (state pair : Nat) : DeviceM (List (Op RopeAddress B)) := do
  let heads := queryHeads + keyHeads
  if state ≥ tokens * heads ∨ pair ≥ rotaryPairs then return []
  else
    let token := state / heads
    let combinedHead := state % heads
    let position ← positionIds.read token
    if position < 0 then return []
    else if combinedHead < queryHeads then
      let base := (token * queryHeads + combinedHead) * singleDecodeHeadDim
      return ropePairTo (rotate position pair) .query .queryOutput base pair
    else
      let base := (token * keyHeads + (combinedHead - queryHeads)) * singleDecodeHeadDim
      return ropePairTo (rotate position pair) .key .keyOutput base pair

/-- The arrays of a launch: inputs, and outputs with contents `out`. -/
def ropeMemory (query key : Nat → B) (out : RopeOut B) : RopeAddress → B
  | (.query, i) => query i
  | (.key, i) => key i
  | (.queryOutput, i) => out.queryOutput i
  | (.keyOutput, i) => out.keyOutput i

end Kernel

/-- The angle and the rotation of a pair, as the kernel computes them. -/
def deviceRotation {F B : Type} (ops : RopeOps F B) (ropeScale ropeTheta : UInt32) (position : Int)
    (pair : Nat) (first second : B) : B × B :=
  let exponent := ops.div (ops.ofUsize pair) (ops.ofUsize rotaryPairs)
  let inverseFrequency :=
    ops.div (ops.powf (ops.div ops.one (ops.ofF32 ropeTheta)) exponent) (ops.ofF32 ropeScale)
  let angle := ops.mul (ops.ofI32 position) inverseFrequency
  let sin := ops.sin angle
  let cos := ops.cos angle
  let first := ops.toF32 first
  let second := ops.toF32 second
  (ops.fromF32 (ops.sub (ops.mul first cos) (ops.mul second sin)),
    ops.fromF32 (ops.add (ops.mul second cos) (ops.mul first sin)))

/-- In exact arithmetic the kernel rotates as the reference does. -/
theorem deviceRotation_exact {K : Type} [Field K] [LinearOrder K] [IsStrictOrderedRing K] [ExactExp K]
    [ExactTrig K] {ofF32 : UInt32 → K} (ropeScale : UInt32) {ropeTheta : UInt32}
    (base : 0 < ofF32 ropeTheta) :
    deviceRotation (exactRopeOps K ofF32) ropeScale ropeTheta =
      ropeRotation (exactRopeOps K ofF32) 128 ropeScale ropeTheta := by
  funext position pair first second
  have half : (pair : K) / (64 : Nat) = (1 + 1) * pair / (128 : Nat) := by
    push_cast
    ring
  have power : ExactExp.exp ((pair : K) / (64 : Nat) * ExactExp.ln (1 / ofF32 ropeTheta)) =
      ExactExp.exp (-((1 + 1) * pair / (128 : Nat)) * ExactExp.ln (ofF32 ropeTheta)) := by
    rw [one_div, ExactExp.ln_inv base, half, mul_neg, neg_mul]
  simp only [deviceRotation, ropeRotation, inverseFrequency, exactRopeOps, exactOps, rotaryPairs]
  rw [power]

/-! ## Runs -/

section Run

variable {B : Type} [Inhabited B] {rotate : Int → Nat → B → B → B × B} {tokens queryHeads keyHeads : Nat}
  {positionIds : Slice Int32} {query key : Nat → B} {before : RopeOut B}

/-- One output tensor after a launch: the rows of the tokens whose positions are not negative are
rotated. -/
def ropeRows (rotate : Int → Nat → B → B → B × B) (tokens heads : Nat) (positionIds : Slice Int32)
    (input before : Nat → B) (i : Nat) : B :=
  if i / 128 < tokens * heads ∧ 0 ≤ positionIds.int (i / 128 / heads) then
    rotatedHead 64 (rotate (positionIds.int (i / 128 / heads))) input (i / 128 * 128) (i % 128)
  else before i

/-- Both output tensors after a launch. -/
def ropeResult (rotate : Int → Nat → B → B → B × B) (tokens queryHeads keyHeads : Nat)
    (positionIds : Slice Int32) (query key : Nat → B) (before : RopeOut B) : RopeOut B where
  queryOutput := ropeRows rotate tokens queryHeads positionIds query before.queryOutput
  keyOutput := ropeRows rotate tokens keyHeads positionIds key before.keyOutput

/-- The input, the output and the row of a block. -/
def ropeSide (queryHeads keyHeads state : Nat) : RopeArray × RopeArray × Nat :=
  if state % (queryHeads + keyHeads) < queryHeads then
    (.query, .queryOutput, queryRow queryHeads keyHeads state)
  else (.key, .keyOutput, keyRow queryHeads keyHeads state)

/-- What a thread does. -/
def ropeProgram (rotate : Int → Nat → B → B → B × B) (tokens queryHeads keyHeads : Nat)
    (positionIds : Slice Int32) (t : GridThread (tokens * (queryHeads + keyHeads)) ropeBlockThreads) :
    List (Op RopeAddress B) :=
  let position := positionIds.int (t.1 / (queryHeads + keyHeads))
  let side := ropeSide queryHeads keyHeads t.1
  if position < 0 then []
  else ropePairTo (rotate position t.2) side.1 side.2.1 (side.2.2 * 128) t.2

/-- No thread faults. -/
theorem ropePosIdsKernel_ok (len : positionIds.len = tokens)
    (t : GridThread (tokens * (queryHeads + keyHeads)) ropeBlockThreads) :
    ropePosIdsKernel rotate tokens queryHeads keyHeads positionIds t.1 t.2 =
      .ok (ropeProgram rotate tokens queryHeads keyHeads positionIds t) := by
  have hs := t.1.isLt
  have hp : (t.2 : Nat) < rotaryPairs := t.2.isLt
  have heads : 0 < queryHeads + keyHeads := Nat.pos_of_ne_zero fun h => by simp [h] at hs
  have token := (lt_rows_iff heads).mpr hs
  have entry : positionIds.read (t.1 / (queryHeads + keyHeads)) = .ok _ :=
    Slice.read_ok (len ▸ token)
  rw [ropePosIdsKernel, if_neg (not_or.mpr ⟨Nat.not_le.mpr hs, Nat.not_le.mpr hp⟩)]
  dsimp only
  rw [entry, ok_bind, ropeProgram, ropeSide]
  split
  · rfl
  · split <;> rfl

/-- The stores of a pair. -/
theorem mem_effects_ropePairTo {position : Int} {input output : RopeArray} {row pair : Nat}
    (hp : pair < rotaryPairs) (mem : RopeAddress → B) {w : RopeAddress × B} :
    w ∈ effects mem [] (ropePairTo (rotate position pair) input output (row * 128) pair) ↔
      ∃ c, InPair pair c ∧ w = ((output, row * 128 + c),
        rotatedHead 64 (rotate position) (fun i => mem (input, i)) (row * 128) c) := by
  have first := rotatedHead_first (rotate position) (fun i => mem (input, i)) (row * 128) hp
  have second := rotatedHead_second (rotate position) (fun i => mem (input, i)) (row * 128) pair
  have run : effects mem [] (ropePairTo (rotate position pair) input output (row * 128) pair) =
      [((output, row * 128 + pair),
        rotatedHead 64 (rotate position) (fun i => mem (input, i)) (row * 128) pair),
       ((output, row * 128 + (rotaryPairs + pair)),
        rotatedHead 64 (rotate position) (fun i => mem (input, i)) (row * 128)
          (rotaryPairs + pair))] := by
    rw [first, second, ← Nat.add_assoc]
    rfl
  rw [run, List.mem_cons, List.mem_singleton]
  constructor
  · rintro (rfl | rfl)
    · exact ⟨_, Or.inl rfl, rfl⟩
    · exact ⟨_, Or.inr rfl, rfl⟩
  · rintro ⟨c, rfl | rfl, rfl⟩
    · exact Or.inl rfl
    · exact Or.inr rfl

/-- The block of a query row. -/
theorem exists_queryBlock (keyHeads : Nat) {row : Nat} (h : row < tokens * queryHeads) :
    ∃ state < tokens * (queryHeads + keyHeads), state % (queryHeads + keyHeads) < queryHeads ∧
      state / (queryHeads + keyHeads) = row / queryHeads ∧
        queryRow queryHeads keyHeads state = row := by
  have heads : 0 < queryHeads := Nat.pos_of_ne_zero fun zero => by simp [zero] at h
  have head := Nat.mod_lt row heads
  have inside : row % queryHeads < queryHeads + keyHeads := head.trans_le (Nat.le_add_right _ _)
  refine ⟨row / queryHeads * (queryHeads + keyHeads) + row % queryHeads,
    rowMajor_lt ((lt_rows_iff heads).mpr h) inside, ?_, row_div inside, ?_⟩
  · rwa [row_mod inside]
  · rw [queryRow, row_div inside, row_mod inside, Nat.div_add_mod']

/-- The block of a key row. -/
theorem exists_keyBlock (queryHeads : Nat) {row : Nat} (h : row < tokens * keyHeads) :
    ∃ state < tokens * (queryHeads + keyHeads), queryHeads ≤ state % (queryHeads + keyHeads) ∧
      state / (queryHeads + keyHeads) = row / keyHeads ∧
        keyRow queryHeads keyHeads state = row := by
  have heads : 0 < keyHeads := Nat.pos_of_ne_zero fun zero => by simp [zero] at h
  have inside : queryHeads + row % keyHeads < queryHeads + keyHeads :=
    Nat.add_lt_add_left (Nat.mod_lt row heads) _
  refine ⟨row / keyHeads * (queryHeads + keyHeads) + (queryHeads + row % keyHeads),
    rowMajor_lt ((lt_rows_iff heads).mpr h) inside, ?_, row_div inside, ?_⟩
  · rw [row_mod inside]
    exact Nat.le_add_right _ _
  · rw [keyRow, keyHead, row_div inside, row_mod inside, Nat.add_sub_cancel_left, Nat.div_add_mod']

/-- The row of a block is a row of its output, and belongs to the token of the block. -/
theorem ropeSide_cases {state : Nat} (hs : state < tokens * (queryHeads + keyHeads)) :
    (ropeSide queryHeads keyHeads state =
        (.query, .queryOutput, queryRow queryHeads keyHeads state) ∧
      queryRow queryHeads keyHeads state < tokens * queryHeads ∧
      queryRow queryHeads keyHeads state / queryHeads = state / (queryHeads + keyHeads)) ∨
    ropeSide queryHeads keyHeads state = (.key, .keyOutput, keyRow queryHeads keyHeads state) ∧
      keyRow queryHeads keyHeads state < tokens * keyHeads ∧
      keyRow queryHeads keyHeads state / keyHeads = state / (queryHeads + keyHeads) := by
  have heads : 0 < queryHeads + keyHeads := Nat.pos_of_ne_zero fun h => by simp [h] at hs
  rcases Nat.lt_or_ge (state % (queryHeads + keyHeads)) queryHeads with head | head
  · exact Or.inl ⟨if_pos head, rowMajor_lt ((lt_rows_iff heads).mpr hs) head, row_div head⟩
  · exact Or.inr ⟨if_neg (Nat.not_lt.mpr head), keyRow_lt hs head, row_div (keyHead_lt heads head)⟩

omit [Inhabited B] in
/-- A row of a result whose token has a position. -/
theorem ropeRows_row {heads row c : Nat} {input before : Nat → B} (hrow : row < tokens * heads)
    (nonneg : 0 ≤ positionIds.int (row / heads)) (hc : c < 128) :
    ropeRows rotate tokens heads positionIds input before (row * 128 + c) =
      rotatedHead 64 (rotate (positionIds.int (row / heads))) input (row * 128) c := by
  rw [ropeRows, row_div hc, row_mod hc, if_pos ⟨hrow, nonneg⟩]

/-- Every store of a thread puts what the result holds there. -/
theorem ropeProgram_agree (t : GridThread (tokens * (queryHeads + keyHeads)) ropeBlockThreads)
    {w : RopeAddress × B} (hw : w ∈ effects (ropeMemory query key before) []
      (ropeProgram rotate tokens queryHeads keyHeads positionIds t)) :
    w.2 = ropeMemory query key
      (ropeResult rotate tokens queryHeads keyHeads positionIds query key before) w.1 := by
  have hp : (t.2 : Nat) < rotaryPairs := t.2.isLt
  unfold ropeProgram at hw
  dsimp only at hw
  split at hw
  · cases hw
  rename_i nonneg
  obtain ⟨c, mine, rfl⟩ := (mem_effects_ropePairTo hp _).mp hw
  rcases ropeSide_cases t.1.isLt with ⟨side, inside, token⟩ | ⟨side, inside, token⟩
  all_goals
    rw [side, ← token]
    rw [← token] at nonneg
    exact (ropeRows_row inside (Int.not_lt.mp nonneg) (mine.lt hp)).symm

/-- The thread of an element of a result. -/
theorem ropeProgram_writes (rotate : Int → Nat → B → B → B × B) {state : Nat}
    (hs : state < tokens * (queryHeads + keyHeads))
    (nonneg : 0 ≤ positionIds.int (state / (queryHeads + keyHeads))) {c : Nat} (hc : c < 128) :
    ∃ t, ((ropeSide queryHeads keyHeads state).2.1,
        (ropeSide queryHeads keyHeads state).2.2 * 128 + c) ∈
      writeSet (ropeProgram rotate tokens queryHeads keyHeads positionIds t) := by
  have hp : c % rotaryPairs < rotaryPairs := Nat.mod_lt _ (by decide)
  refine ⟨(⟨state, hs⟩, ⟨c % rotaryPairs, hp⟩), ?_⟩
  rw [ropeProgram, if_neg (Int.not_lt.mpr nonneg),
    ← effects_writeSet (fun _ => default : RopeAddress → B) []]
  exact List.mem_map_of_mem ((mem_effects_ropePairTo hp _).mpr ⟨c, inPair_mod hc, rfl⟩)

/-- What no thread stores to is not part of the result. -/
theorem ropeProgram_covered {a : RopeAddress}
    (unwritten : ∀ t, a ∉ writeSet (ropeProgram rotate tokens queryHeads keyHeads positionIds t)) :
    ropeMemory query key
        (ropeResult rotate tokens queryHeads keyHeads positionIds query key before) a =
      ropeMemory query key before a := by
  obtain ⟨array, i⟩ := a
  have column := Nat.mod_lt i (show 0 < 128 by decide)
  cases array with
  | query => rfl
  | key => rfl
  | queryOutput =>
    refine if_neg fun ⟨inside, nonneg⟩ => ?_
    obtain ⟨state, hs, head, token, row⟩ := exists_queryBlock keyHeads inside
    rw [← token] at nonneg
    obtain ⟨t, written⟩ := ropeProgram_writes rotate hs nonneg column
    have side : ropeSide queryHeads keyHeads state = (.query, .queryOutput, i / 128) := by
      rw [ropeSide, if_pos head, row]
    rw [side, Nat.div_add_mod'] at written
    exact unwritten t written
  | keyOutput =>
    refine if_neg fun ⟨inside, nonneg⟩ => ?_
    obtain ⟨state, hs, head, token, row⟩ := exists_keyBlock queryHeads inside
    rw [← token] at nonneg
    obtain ⟨t, written⟩ := ropeProgram_writes rotate hs nonneg column
    have side : ropeSide queryHeads keyHeads state = (.key, .keyOutput, i / 128) := by
      rw [ropeSide, if_neg (Nat.not_lt.mpr head), row]
    rw [side, Nat.div_add_mod'] at written
    exact unwritten t written

/-- A thread reads inputs and writes outputs. -/
theorem ropeProgram_separate (t t' : GridThread (tokens * (queryHeads + keyHeads)) ropeBlockThreads)
    (a : RopeAddress)
    (h : Op.read a ∈ ropeProgram rotate tokens queryHeads keyHeads positionIds t) :
    a ∉ writeSet (ropeProgram rotate tokens queryHeads keyHeads positionIds t') := by
  intro h'
  have input : a.1 = .query ∨ a.1 = .key := by
    unfold ropeProgram at h
    dsimp only at h
    split at h
    · cases h
    · rcases ropeSide_cases t.1.isLt with ⟨side, -⟩ | ⟨side, -⟩
      all_goals
        rw [side] at h
        simp only [ropePairTo, List.mem_cons, Op.read.injEq, reduceCtorEq, List.not_mem_nil,
          or_false] at h
        rcases h with rfl | rfl <;> simp
  have output : a.1 = .queryOutput ∨ a.1 = .keyOutput := by
    unfold ropeProgram at h'
    dsimp only at h'
    split at h'
    · cases h'
    · rcases ropeSide_cases t'.1.isLt with ⟨side, -⟩ | ⟨side, -⟩
      all_goals
        rw [side] at h'
        simp only [ropePairTo, writeSet, List.mem_cons, List.not_mem_nil, or_false] at h'
        rcases h' with rfl | rfl <;> simp
  rcases input with h | h <;> rw [h] at output <;> simp at output

/-- Whatever the positions and the order of the threads, a launch comes to an end, and every complete
run leaves the same memory. -/
theorem ropePosIdsKernel_runs (len : positionIds.len = tokens) (query key : Nat → B)
    (before : RopeOut B) :
    ∃ program : GridThread (tokens * (queryHeads + keyHeads)) ropeBlockThreads →
        List (Op RopeAddress B),
      Launched (ropePosIdsKernel rotate tokens queryHeads keyHeads positionIds) program ∧
      (∃ schedule, ((Config.start (ropeMemory query key before) program).run schedule).Complete) ∧
      ∀ schedule, ((Config.start (ropeMemory query key before) program).run schedule).Complete →
        ((Config.start (ropeMemory query key before) program).run schedule).mem =
          ropeMemory query key
            (ropeResult rotate tokens queryHeads keyHeads positionIds query key before) := by
  refine ⟨ropeProgram rotate tokens queryHeads keyHeads positionIds, ropePosIdsKernel_ok len,
    exists_complete _ _ (List.finRange _ ×ˢ List.finRange _) fun t ht => ?_, fun schedule =>
      complete_run_mem ropeProgram_separate (fun t w hw => ropeProgram_agree t hw)
        fun a unwritten => ropeProgram_covered unwritten⟩
  exact absurd (List.pair_mem_product.mpr ⟨List.mem_finRange t.1, List.mem_finRange t.2⟩) ht

end Run

end LoomKernels
