import Mathlib.Algebra.BigOperators.Ring.Finset
import LoomKernels.Lib.ExactTrig
import LoomKernels.Lib.Store
import LoomKernels.Host.Rope

/-!
# The laws of the rotary embedding

The angles behind the rotation of a pair, and what the reference does in exact arithmetic: it turns
every pair by an angle that is proportional to the position. So it keeps the norm of the pair, does
nothing at position zero, and the inner product of two rotated heads depends on the difference of
their positions (`ropeVector_inner`). The writes of the reference are listed as well: they name each
element of the output once (`tensorWrites_once`).
-/

namespace LoomKernels

/-! ## Angles -/

/-- The `f32` operations of the rotary reference. `ofF32` reads the constants of a contract. -/
structure RopeOps (F B : Type) extends FloatOps F B where
  two : F
  neg : F → F
  ofI32 : Int → F
  ofF32 : UInt32 → F
  powf : F → F → F
  sin : F → F
  cos : F → F

/-- Exact arithmetic. A power of a positive base is an exponential. -/
def exactRopeOps (K : Type) [Field K] [LinearOrder K] [ExactExp K] [ExactTrig K]
    (ofF32 : UInt32 → K) : RopeOps K K where
  toFloatOps := exactOps K
  two := 1 + 1
  neg := (- ·)
  ofI32 position := position
  ofF32 := ofF32
  powf base exponent := ExactExp.exp (exponent * ExactExp.ln base)
  sin := ExactTrig.sin
  cos := ExactTrig.cos

section Rotation

variable {F B : Type} (ops : RopeOps F B)

def inverseFrequency (rotaryDim : Nat) (ropeScale ropeTheta : UInt32) (pair : Nat) : F :=
  let exponent := ops.div (ops.mul ops.two (ops.ofUsize pair)) (ops.ofUsize rotaryDim)
  ops.div (ops.powf (ops.ofF32 ropeTheta) (ops.neg exponent)) (ops.ofF32 ropeScale)

/-- The body of the pair loop. -/
def ropeRotation : Rotation B := fun rotaryDim ropeScale ropeTheta position pair first second =>
  let angle := ops.mul (ops.ofI32 position) (inverseFrequency ops rotaryDim ropeScale ropeTheta pair)
  let sin := ops.sin angle
  let cos := ops.cos angle
  let first := ops.toF32 first
  let second := ops.toF32 second
  (ops.fromF32 (ops.sub (ops.mul first cos) (ops.mul second sin)),
    ops.fromF32 (ops.add (ops.mul second cos) (ops.mul first sin)))

end Rotation

/-! ## Writes -/

section Writes

variable {B : Type} (rot : Rotation B)

/-- The writes of `rotate_tensor` to the head at `base`, in their order. -/
def ropeWrites (position : Int) (input : Nat → B) (base : Nat) (spec : Bf16RopePosIdsSpec) :
    List (Nat × B) :=
  let half := spec.rotaryDim / 2
  ((List.range half).flatMap fun pair =>
      let rotated := rot spec.rotaryDim spec.ropeScale spec.ropeTheta position pair
        (input (base + pair)) (input (base + half + pair))
      [(base + pair, rotated.1), (base + half + pair, rotated.2)]) ++
    (List.range (spec.headDim - spec.rotaryDim)).map fun c =>
      (base + spec.rotaryDim + c, input (base + spec.rotaryDim + c))

/-- The writes to one head of one token. -/
def tensorWrites (input : Nat → B) (positionIds : Slice Int32) (heads : Nat)
    (spec : Bf16RopePosIdsSpec) (token head : Nat) : List (Nat × B) :=
  ropeWrites rot (positionIds.int token) input ((token * heads + head) * spec.headDim) spec

/-- `rotate_tensor` makes these writes. -/
theorem rotateTensor_eq_applyWrites (input : Nat → B) (positionIds : Slice Int32) (heads : Nat)
    (spec : Bf16RopePosIdsSpec) (output : Nat → B) :
    rotateTensor rot input positionIds heads spec output =
      applyWrites (gridWrites positionIds.len heads (tensorWrites rot input positionIds heads spec))
        output := by
  have head : ∀ position base output,
      writeRange (base + spec.rotaryDim) (spec.headDim - spec.rotaryDim)
          (fun c => input (base + spec.rotaryDim + c)) (rotateHead rot position input base spec output) =
        applyWrites (ropeWrites rot position input base spec) output := by
    intro position base output
    rw [writeRange_eq_applyWrites, ropeWrites, applyWrites_append, ← forRange_applyWrites]
    rfl
  rw [gridWrites, ← forRange_applyWrites, rotateTensor]
  refine forRange_congr _ fun token mem _ _ => ?_
  rw [← forRange_applyWrites]
  exact forRange_congr _ fun h mem _ _ => head _ _ mem

theorem ropeWrites_fst (position : Int) (input : Nat → B) (base : Nat) (spec : Bf16RopePosIdsSpec) :
    (ropeWrites rot position input base spec).map Prod.fst =
      ((List.range (spec.rotaryDim / 2)).flatMap fun pair =>
        [base + pair, base + spec.rotaryDim / 2 + pair]) ++
      (List.range (spec.headDim - spec.rotaryDim)).map fun c => base + spec.rotaryDim + c := by
  simp only [ropeWrites, List.map_append, List.map_flatMap, List.map_cons, List.map_nil,
    List.map_map, Function.comp_def]

theorem mem_ropeWrites_fst {position : Int} {input : Nat → B} {base : Nat}
    {spec : Bf16RopePosIdsSpec} {i : Nat} :
    i ∈ (ropeWrites rot position input base spec).map Prod.fst ↔
      base ≤ i ∧ i < base + spec.headDim := by
  have := spec.rotary
  rw [ropeWrites_fst, List.mem_append, List.mem_flatMap, List.mem_map]
  simp only [List.mem_range, List.mem_cons, List.not_mem_nil, or_false]
  constructor
  · rintro (⟨pair, hp, rfl | rfl⟩ | ⟨c, hc, rfl⟩) <;> omega
  · rintro ⟨first, last⟩
    rcases Nat.lt_or_ge i (base + spec.rotaryDim) with rotated | tail
    · rcases Nat.lt_or_ge i (base + spec.rotaryDim / 2) with low | high
      · exact .inl ⟨i - base, by omega, .inl (by omega)⟩
      · exact .inl ⟨i - base - spec.rotaryDim / 2, by omega, .inr (by omega)⟩
    · exact .inr ⟨i - base - spec.rotaryDim, by omega, by omega⟩

theorem ropeWrites_nodup (position : Int) (input : Nat → B) (base : Nat)
    (spec : Bf16RopePosIdsSpec) : ((ropeWrites rot position input base spec).map Prod.fst).Nodup := by
  have := spec.rotary
  rw [ropeWrites_fst, List.nodup_append]
  refine ⟨List.nodup_flatMap.mpr ⟨fun pair hp => ?_, ?_⟩, ?_, ?_⟩
  · have := List.mem_range.mp hp
    simp only [List.nodup_cons, List.mem_cons, List.not_mem_nil, or_false, not_false_eq_true,
      List.nodup_nil, and_self, and_true]
    omega
  · refine List.Pairwise.imp_of_mem (fun {pair pair'} hp hp' ne => ?_) List.nodup_range
    have := List.mem_range.mp hp
    have := List.mem_range.mp hp'
    simp only [Function.onFun, List.disjoint_left, List.mem_cons, List.not_mem_nil, or_false]
    rintro i (rfl | rfl) <;> omega
  · exact List.nodup_range.map fun c c' => Nat.add_left_cancel
  · intro i hi j hj
    obtain ⟨pair, hp, hi⟩ := List.mem_flatMap.mp hi
    obtain ⟨c, hc, rfl⟩ := List.mem_map.mp hj
    have := List.mem_range.mp hp
    simp only [List.mem_cons, List.not_mem_nil, or_false] at hi
    rcases hi with rfl | rfl <;> omega

/-- Every element of the tensor is written once. -/
theorem tensorWrites_once (input : Nat → B) (positionIds : Slice Int32) (heads : Nat)
    (spec : Bf16RopePosIdsSpec) {i : Nat} (hi : i < positionIds.len * heads * spec.headDim) :
    WrittenOnce positionIds.len heads (tensorWrites rot input positionIds heads spec) i := by
  refine writtenOnce_rows spec.headDim_pos (fun token _ head _ => ?_) (fun token _ head _ a => ?_) hi
  · exact ropeWrites_nodup rot _ input _ spec
  · rw [tensorWrites, mem_ropeWrites_fst]
    exact mem_row_iff spec.headDim_pos

end Writes

/-! ## Rotated vectors -/

section Vectors

variable {K : Type} [Field K] [LinearOrder K] [ExactExp K] [ExactTrig K] (ofF32 : UInt32 → K)
variable (spec : Bf16RopePosIdsSpec)

/-- The angle of a pair at position one. -/
def frequency (pair : Nat) : K :=
  inverseFrequency (exactRopeOps K ofF32) spec.rotaryDim spec.ropeScale spec.ropeTheta pair

/-- The vector of one head, rotated at a position. -/
def ropeVector (position : Int) (u : Nat → K) : Nat → K :=
  ropeHead (ropeRotation (exactRopeOps K ofF32)) position u 0 spec

def vectorDot (n : Nat) (u v : Nat → K) : K := ∑ c ∈ Finset.range n, u c * v c

/-- The vector in row `row` of a tensor. -/
def headAt (tensor : Nat → K) (row c : Nat) : K := tensor (row * spec.headDim + c)

theorem ropeHead_row (position : Int) (input : Nat → K) (row c : Nat) :
    ropeHead (ropeRotation (exactRopeOps K ofF32)) position input (row * spec.headDim) spec c =
      ropeVector ofF32 spec position (headAt spec input row) c := by
  simp only [ropeVector, ropeHead, rotatedHead, headAt, Nat.zero_add, Nat.add_assoc]

variable {ofF32 spec} {u v : Nat → K} {position : Int}

theorem ropeVector_first {pair : Nat} (hp : pair < spec.rotaryDim / 2) :
    ropeVector ofF32 spec position u pair =
      (ExactTrig.rotate (position * frequency ofF32 spec pair) (u pair)
        (u (spec.rotaryDim / 2 + pair))).1 := by
  rw [ropeVector, ropeHead, if_pos (by omega), rotatedHead, if_pos hp, Nat.zero_add, Nat.zero_add]
  rfl

theorem ropeVector_second {pair : Nat} (hp : pair < spec.rotaryDim / 2) :
    ropeVector ofF32 spec position u (spec.rotaryDim / 2 + pair) =
      (ExactTrig.rotate (position * frequency ofF32 spec pair) (u pair)
        (u (spec.rotaryDim / 2 + pair))).2 := by
  rw [ropeVector, ropeHead, if_pos (by omega), rotatedHead, if_neg (by omega),
    Nat.add_sub_cancel_left, Nat.zero_add, Nat.zero_add]
  rfl

theorem ropeVector_tail {c : Nat} (hc : spec.rotaryDim ≤ c) :
    ropeVector ofF32 spec position u c = u c := by
  rw [ropeVector, ropeHead, if_neg (by omega), Nat.zero_add]

/-- At position zero nothing is turned. -/
theorem ropeVector_zero (c : Nat) : ropeVector ofF32 spec 0 u c = u c := by
  have even := spec.rotary
  rcases Nat.lt_or_ge c spec.rotaryDim with rotated | tail
  · rcases Nat.lt_or_ge c (spec.rotaryDim / 2) with low | high
    · rw [ropeVector_first low, Int.cast_zero, zero_mul, ExactTrig.rotate_zero]
    · obtain ⟨pair, rfl⟩ := Nat.exists_eq_add_of_le high
      rw [ropeVector_second (by omega), Int.cast_zero, zero_mul, ExactTrig.rotate_zero]
  · exact ropeVector_tail tail

theorem ropeVector_norm {pair : Nat} (hp : pair < spec.rotaryDim / 2) :
    ropeVector ofF32 spec position u pair ^ 2 +
        ropeVector ofF32 spec position u (spec.rotaryDim / 2 + pair) ^ 2 =
      u pair ^ 2 + u (spec.rotaryDim / 2 + pair) ^ 2 := by
  rw [ropeVector_first hp, ropeVector_second hp, ExactTrig.rotate_norm]

omit [LinearOrder K] [ExactExp K] [ExactTrig K] in
/-- A head is its pairs and its tail. -/
theorem vectorDot_split (u v : Nat → K) :
    vectorDot spec.headDim u v =
      ∑ pair ∈ Finset.range (spec.rotaryDim / 2),
        (u pair * v pair + u (spec.rotaryDim / 2 + pair) * v (spec.rotaryDim / 2 + pair)) +
      ∑ c ∈ Finset.range (spec.headDim - spec.rotaryDim),
        u (spec.rotaryDim + c) * v (spec.rotaryDim + c) := by
  have even := spec.rotary
  have parts : Finset.range spec.headDim = Finset.range
      (spec.rotaryDim / 2 + spec.rotaryDim / 2 + (spec.headDim - spec.rotaryDim)) :=
    congrArg Finset.range (by omega)
  have whole : spec.rotaryDim / 2 + spec.rotaryDim / 2 = spec.rotaryDim := by omega
  rw [vectorDot, parts, Finset.sum_range_add, Finset.sum_range_add, whole, ← Finset.sum_add_distrib]

/-- The relative law: rotating both vectors is rotating the first by the difference. -/
theorem ropeVector_inner (m n : Int) :
    vectorDot spec.headDim (ropeVector ofF32 spec m u) (ropeVector ofF32 spec n v) =
      vectorDot spec.headDim (ropeVector ofF32 spec (m - n) u) v := by
  rw [vectorDot_split, vectorDot_split]
  congr 1
  · refine Finset.sum_congr rfl fun pair mem => ?_
    have hp := Finset.mem_range.mp mem
    have difference : (m : K) * frequency ofF32 spec pair - n * frequency ofF32 spec pair =
        (m - n : Int) * frequency ofF32 spec pair := by
      rw [← sub_mul, Int.cast_sub]
    simp only [ropeVector_first hp, ropeVector_second hp]
    rw [ExactTrig.rotate_inner, difference]
  · refine Finset.sum_congr rfl fun c _ => ?_
    rw [ropeVector_tail (Nat.le_add_right _ c), ropeVector_tail (Nat.le_add_right _ c),
      ropeVector_tail (Nat.le_add_right _ c)]

end Vectors

/-! ## The reference -/

section Laws

variable {K : Type} [Field K] [LinearOrder K] [ExactExp K] [ExactTrig K] (ofF32 : UInt32 → K)

/-- What the reference makes of one tensor, token by token and head by head. -/
structure RopeLaws (spec : Bf16RopePosIdsSpec) (positionIds : Slice Int32) (heads : Nat)
    (input before after : Nat → K) : Prop where
  norm : ∀ token < spec.tokens, ∀ head < heads, ∀ pair < spec.rotaryDim / 2,
    headAt spec after (token * heads + head) pair ^ 2 +
        headAt spec after (token * heads + head) (spec.rotaryDim / 2 + pair) ^ 2 =
      headAt spec input (token * heads + head) pair ^ 2 +
        headAt spec input (token * heads + head) (spec.rotaryDim / 2 + pair) ^ 2
  identity : ∀ token < spec.tokens, positionIds.int token = 0 → ∀ head < heads,
    ∀ c < spec.headDim,
      headAt spec after (token * heads + head) c = headAt spec input (token * heads + head) c
  tail : ∀ token < spec.tokens, ∀ head < heads, ∀ c < spec.headDim, spec.rotaryDim ≤ c →
    headAt spec after (token * heads + head) c = headAt spec input (token * heads + head) c
  writes : after = applyWrites (gridWrites spec.tokens heads
    (tensorWrites (ropeRotation (exactRopeOps K ofF32)) input positionIds heads spec)) before
  once : ∀ i < spec.tokens * heads * spec.headDim, WrittenOnce spec.tokens heads
    (tensorWrites (ropeRotation (exactRopeOps K ofF32)) input positionIds heads spec) i

variable {ofF32} {spec : Bf16RopePosIdsSpec} {positionIds : Slice Int32} {heads : Nat}
variable {input before : Nat → K}

/-- Every head of the tensor is rotated at the position of its token. -/
theorem rotateTensor_row (len : positionIds.len = spec.tokens) {token head c : Nat}
    (ht : token < spec.tokens) (hh : head < heads) (hc : c < spec.headDim) :
    headAt spec (rotateTensor (ropeRotation (exactRopeOps K ofF32)) input positionIds heads spec
        before) (token * heads + head) c =
      ropeVector ofF32 spec (positionIds.int token) (headAt spec input (token * heads + head)) c := by
  rw [headAt, rotateTensor_head, row_div hc, row_mod hc, row_div hh, len,
    if_pos (rowMajor_lt ht hh), ropeHead_row]

theorem rotateTensor_laws (len : positionIds.len = spec.tokens) :
    RopeLaws ofF32 spec positionIds heads input before
      (rotateTensor (ropeRotation (exactRopeOps K ofF32)) input positionIds heads spec before) := by
  have even := spec.rotary
  refine ⟨fun token ht head hh pair hp => ?_, fun token ht zero head hh c hc => ?_,
    fun token ht head hh c hc beyond => ?_, ?_, fun i hi => ?_⟩
  · rw [rotateTensor_row len ht hh (by omega), rotateTensor_row len ht hh (by omega),
      ropeVector_norm hp]
  · rw [rotateTensor_row len ht hh hc, zero, ropeVector_zero]
  · rw [rotateTensor_row len ht hh hc, ropeVector_tail beyond]
  · rw [rotateTensor_eq_applyWrites, len]
  · rw [← len] at hi ⊢
    exact tensorWrites_once _ input positionIds heads spec hi

/-- In exact arithmetic a run of the reference keeps the norm of every pair, is the identity at
position zero, copies the tail and writes every element once, and the inner product of a query head
with a key head is that of their contents with the query rotated by the difference of the two
positions. -/
theorem rope_laws {query key queryOutput keyOutput : Slice K} {out : RopeOut K}
    (run : ropePosIdsBf16Reference (ropeRotation (exactRopeOps K ofF32)) query key positionIds
      queryOutput keyOutput spec = .ok out) :
    RopeLaws ofF32 spec positionIds spec.queryHeads query.get queryOutput.get out.queryOutput ∧
    RopeLaws ofF32 spec positionIds spec.keyHeads key.get keyOutput.get out.keyOutput ∧
    ∀ token < spec.tokens, ∀ head < spec.queryHeads,
      ∀ token' < spec.tokens, ∀ head' < spec.keyHeads,
        vectorDot spec.headDim (headAt spec out.queryOutput (token * spec.queryHeads + head))
            (headAt spec out.keyOutput (token' * spec.keyHeads + head')) =
          vectorDot spec.headDim
            (ropeVector ofF32 spec (positionIds.int token - positionIds.int token')
              (headAt spec query.get (token * spec.queryHeads + head)))
            (headAt spec key.get (token' * spec.keyHeads + head')) := by
  obtain ⟨-, -, len, -, -, -, rfl⟩ := (ropePosIdsBf16Reference_eq_ok _).mp run
  refine ⟨rotateTensor_laws len, rotateTensor_laws len, ?_⟩
  intro token ht head hh token' ht' head' hh'
  rw [← ropeVector_inner]
  refine Finset.sum_congr rfl fun c mem => ?_
  have hc := Finset.mem_range.mp mem
  rw [rotateTensor_row len ht hh hc, rotateTensor_row len ht' hh' hc]

theorem twoTokens_tokens : 0 < 2 := by decide

theorem twoTokens_heads : 0 < 1 := by decide

theorem twoTokens_headDim : 0 < 3 := by decide

theorem twoTokens_rotary : 2 ≠ 0 ∧ 2 % 2 = 0 ∧ 2 ≤ 3 := by decide

theorem twoTokens_theta : f32IsFinite f32TenThousand ∧ ¬ f32LeNonneg f32TenThousand f32One := by
  decide

theorem twoTokens_fit : 2 * 1 * 3 < usizeSize := by decide

/-- Two tokens of one head, with one pair and a tail of one component. -/
def twoTokensSpec : Bf16RopePosIdsSpec where
  tokens := 2
  queryHeads := 1
  keyHeads := 1
  headDim := 3
  rotaryDim := 2
  ropeScale := f32One
  ropeTheta := f32TenThousand
  tokens_pos := twoTokens_tokens
  queryHeads_pos := twoTokens_heads
  keyHeads_pos := twoTokens_heads
  headDim_pos := twoTokens_headDim
  rotary := twoTokens_rotary
  scale := f32One_positive
  theta := twoTokens_theta
  query_fits := twoTokens_fit
  key_fits := twoTokens_fit

theorem twoTokens_accepted (query key before : Nat → ℝ) : ∃ out,
    ropePosIdsBf16Reference (ropeRotation (exactRopeOps ℝ fun _ => 1)) ⟨6, query⟩ ⟨6, key⟩
      (Slice.ofList [7, 4]) ⟨6, before⟩ ⟨6, before⟩ twoTokensSpec = .ok out :=
  ⟨_, (ropePosIdsBf16Reference_eq_ok _).mpr ⟨rfl, rfl, rfl, rfl, rfl, by decide, rfl⟩⟩

theorem twoTokens_difference :
    (Slice.ofList [7, 4] : Slice Int32).int 0 - (Slice.ofList [7, 4] : Slice Int32).int 1 = 3 := by
  decide

theorem rope_laws_twoTokens : ∃ out,
    ropePosIdsBf16Reference (ropeRotation (exactRopeOps ℝ fun _ => 1)) ⟨6, fun i => (i : ℝ)⟩
      ⟨6, fun _ => 1⟩ (Slice.ofList [7, 4]) ⟨6, fun _ => 0⟩ ⟨6, fun _ => 0⟩ twoTokensSpec = .ok out ∧
    vectorDot 3 (headAt twoTokensSpec out.queryOutput 0) (headAt twoTokensSpec out.keyOutput 1) =
      vectorDot 3 (ropeVector (fun _ => 1) twoTokensSpec 3 (headAt twoTokensSpec (fun i => (i : ℝ)) 0))
        (headAt twoTokensSpec (fun _ => 1) 1) := by
  obtain ⟨out, run⟩ := twoTokens_accepted (fun i => (i : ℝ)) (fun _ => 1) fun _ => 0
  have relative := (rope_laws run).2.2 0 two_pos 0 Nat.one_pos 1 Nat.one_lt_two 0 Nat.one_pos
  rw [twoTokens_difference] at relative
  exact ⟨out, run, relative⟩

end Laws

end LoomKernels
