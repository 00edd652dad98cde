import LoomKernels.Host.Contract

/-!
# Rotary embedding on the host

The NeoX split-half rotary embedding: in each head, component `pair` and component `half + pair` are
rotated together by an angle that depends on the token's position. The rotation of one pair is a
parameter of type `Rotation`; the angles, sines and cosines behind it are floating point.

The loops of `rotateTensor` compute `ropeHead` on every head (`rotateTensor_head`), which is
`rotatedHead` when the whole head is rotated (`rotateTensor_apply`).
-/

namespace LoomKernels

/-- The rotation of one pair: rotary dimension, scale and theta of the contract (as bit patterns),
position, pair index, and the two components. -/
abbrev Rotation (B : Type) := Nat → UInt32 → UInt32 → Int → Nat → B → B → B × B

/-! ## Specification -/

/-- `x.is_finite()` on the bits of an `f32`: the exponent is not all ones. -/
def f32IsFinite (bits : UInt32) : Bool := bits.toNat / 2 ^ 23 % 2 ^ 8 != 255

/-- `x <= bound` on the bits of a finite `f32`, for a bound that is not negative: negative and zero
patterns are below it, positive patterns are ordered like numbers. -/
def f32LeNonneg (bits bound : UInt32) : Bool := 2 ^ 31 ≤ bits.toNat || bits.toNat ≤ bound.toNat

/-- `0.0_f32` -/
def f32Zero : UInt32 := 0

/-- `1.0_f32` -/
def f32One : UInt32 := 0x3F800000

/-- `10_000.0_f32` -/
def f32TenThousand : UInt32 := 0x461C4000

theorem f32_positive {bits : UInt32} (h : ¬(¬ f32IsFinite bits ∨ f32LeNonneg bits f32Zero)) :
    f32IsFinite bits ∧ ¬ f32LeNonneg bits f32Zero := by
  simpa using h

theorem f32One_positive : f32IsFinite f32One ∧ ¬ f32LeNonneg f32One f32Zero := by decide

/-- A rotary contract that `new` accepts. -/
structure Bf16RopePosIdsSpec where
  tokens : Nat
  queryHeads : Nat
  keyHeads : Nat
  headDim : Nat
  rotaryDim : Nat
  ropeScale : UInt32
  ropeTheta : UInt32
  tokens_pos : 0 < tokens
  queryHeads_pos : 0 < queryHeads
  keyHeads_pos : 0 < keyHeads
  headDim_pos : 0 < headDim
  rotary : rotaryDim ≠ 0 ∧ rotaryDim % 2 = 0 ∧ rotaryDim ≤ headDim
  scale : f32IsFinite ropeScale ∧ ¬ f32LeNonneg ropeScale f32Zero
  theta : f32IsFinite ropeTheta ∧ ¬ f32LeNonneg ropeTheta f32One
  query_fits : tokens * queryHeads * headDim < usizeSize
  key_fits : tokens * keyHeads * headDim < usizeSize

namespace Bf16RopePosIdsSpec

def new (tokens queryHeads keyHeads headDim rotaryDim : Nat) (ropeScale ropeTheta : UInt32) :
    Host Bf16RopePosIdsSpec :=
  if zero : tokens = 0 ∨ queryHeads = 0 ∨ keyHeads = 0 ∨ headDim = 0 then fail .zeroDimension
  else if rotary : rotaryDim = 0 ∨ rotaryDim % 2 ≠ 0 ∨ rotaryDim > headDim then
    fail (.invalidRotaryDimension rotaryDim headDim)
  else if scale : ¬ f32IsFinite ropeScale ∨ f32LeNonneg ropeScale f32Zero then
    fail (.invalidRopeScale ropeScale)
  else if theta : ¬ f32IsFinite ropeTheta ∨ f32LeNonneg ropeTheta f32One then
    fail (.invalidRopeTheta ropeTheta)
  -- two chains of `checked_mul` with one error; each last product bounds the others
  else if fits : tokens * queryHeads * headDim < usizeSize ∧
      tokens * keyHeads * headDim < usizeSize then
    .ok {
      tokens, queryHeads, keyHeads, headDim, rotaryDim, ropeScale, ropeTheta
      tokens_pos := by omega
      queryHeads_pos := by omega
      keyHeads_pos := by omega
      headDim_pos := by omega
      rotary := by omega
      scale := f32_positive scale
      theta := by simpa using theta
      query_fits := fits.1
      key_fits := fits.2 }
  else fail .elementCountOverflow

/-- `new` accepts every specification there is. -/
theorem new_self (spec : Bf16RopePosIdsSpec) :
    new spec.tokens spec.queryHeads spec.keyHeads spec.headDim spec.rotaryDim spec.ropeScale
      spec.ropeTheta = .ok spec := by
  have h1 := spec.tokens_pos
  have h2 := spec.queryHeads_pos
  have h3 := spec.keyHeads_pos
  have h4 := spec.headDim_pos
  have h5 := spec.rotary
  rw [new, dif_neg (by omega), dif_neg (by omega), dif_neg (by simpa using spec.scale),
    dif_neg (by simpa using spec.theta), dif_pos ⟨spec.query_fits, spec.key_fits⟩]

variable (spec : Bf16RopePosIdsSpec)

def queryNumel : Nat := spec.tokens * spec.queryHeads * spec.headDim

def keyNumel : Nat := spec.tokens * spec.keyHeads * spec.headDim

def positionNumel : Nat := spec.tokens

end Bf16RopePosIdsSpec

/-! ## Reference -/

section Reference

variable {B : Type} (rot : Rotation B)

/-- The pair loop of one head at `base`. -/
def rotateHead (position : Int) (input : Nat → B) (base : Nat) (spec : Bf16RopePosIdsSpec)
    (output : Nat → B) : Nat → B :=
  let half := spec.rotaryDim / 2
  forRange 0 half
    (fun pair output =>
      let rotated := rot spec.rotaryDim spec.ropeScale spec.ropeTheta position pair
        (input (base + pair)) (input (base + half + pair))
      Function.update (Function.update output (base + pair) rotated.1) (base + half + pair) rotated.2)
    output

def rotateTensor (input : Nat → B) (positionIds : Slice Int32) (heads : Nat)
    (spec : Bf16RopePosIdsSpec) (output : Nat → B) : Nat → B :=
  forRange 0 positionIds.len
    (fun token output =>
      forRange 0 heads
        (fun head output =>
          let base := (token * heads + head) * spec.headDim
          writeRange (base + spec.rotaryDim) (spec.headDim - spec.rotaryDim)
            (fun c => input (base + spec.rotaryDim + c))
            (rotateHead rot (positionIds.int token) input base spec output))
        output)
    output

/-- The two outputs of the rotary reference. -/
structure RopeOut (B : Type) where
  queryOutput : Nat → B
  keyOutput : Nat → B

def ropePosIdsBf16Reference (query key : Slice B) (positionIds : Slice Int32)
    (queryOutput keyOutput : Slice B) (spec : Bf16RopePosIdsSpec) : Host (RopeOut B) := do
  requireLen "query" query.len spec.queryNumel
  requireLen "key" key.len spec.keyNumel
  requireLen "position_ids" positionIds.len spec.positionNumel
  requireLen "query_output" queryOutput.len spec.queryNumel
  requireLen "key_output" keyOutput.len spec.keyNumel
  checkRange 0 positionIds.len fun token =>
    ensure (0 ≤ positionIds.int token) (.negativePositionId token (positionIds.int token))
  return {
    queryOutput := rotateTensor rot query.get positionIds spec.queryHeads spec queryOutput.get
    keyOutput := rotateTensor rot key.get positionIds spec.keyHeads spec keyOutput.get }

/-! ## What the loops compute -/

/-- Component `c` of the rotated head at `base`: the first half holds the first results. -/
def rotatedHead (half : Nat) (rotate : Nat → B → B → B × B) (input : Nat → B) (base c : Nat) : B :=
  if c < half then (rotate c (input (base + c)) (input (base + half + c))).1
  else (rotate (c - half) (input (base + (c - half))) (input (base + c))).2

/-- The pair loop rotates the head at `base` and touches nothing else. -/
theorem rotateHead_apply (position : Int) (input : Nat → B) (base : Nat)
    (spec : Bf16RopePosIdsSpec) (output : Nat → B) (i : Nat) :
    rotateHead rot position input base spec output i =
      if base ≤ i ∧ i < base + spec.rotaryDim then
        rotatedHead (spec.rotaryDim / 2) (rot spec.rotaryDim spec.ropeScale spec.ropeTheta position)
          input base (i - base)
      else output i := by
  obtain ⟨half, hhalf⟩ : ∃ half, spec.rotaryDim = 2 * half :=
    ⟨spec.rotaryDim / 2, by have := spec.rotary; omega⟩
  have hdiv : spec.rotaryDim / 2 = half := by omega
  -- after `n` pairs, the first `n` components of both halves are done
  have loop : rotateHead rot position input base spec output i =
      if (base ≤ i ∧ i < base + half) ∨ (base + half ≤ i ∧ i < base + half + half) then
        rotatedHead half (rot spec.rotaryDim spec.ropeScale spec.ropeTheta position) input base
          (i - base)
      else output i := by
    unfold rotateHead
    simp only [hdiv]
    refine forRange_invariant
      (P := fun n (out : Nat → B) => out i =
        if (base ≤ i ∧ i < base + n) ∨ (base + half ≤ i ∧ i < base + half + n) then
          rotatedHead half (rot spec.rotaryDim spec.ropeScale spec.ropeTheta position) input base
            (i - base)
        else output i) (Nat.zero_le half) (by rw [if_neg (by omega)]) ?_
    intro pair out _ hp hout
    by_cases second : i = base + half + pair
    · subst second
      rw [Function.update_self, if_pos (by omega), rotatedHead, if_neg (by omega),
        show base + half + pair - base - half = pair by omega,
        show base + (base + half + pair - base) = base + half + pair by omega]
    · rw [Function.update_of_ne second]
      by_cases first : i = base + pair
      · subst first
        rw [Function.update_self, if_pos (by omega), rotatedHead, if_pos (by omega),
          Nat.add_sub_cancel_left]
      · rw [Function.update_of_ne first, hout]
        by_cases before : (base ≤ i ∧ i < base + pair) ∨
            (base + half ≤ i ∧ i < base + half + pair)
        · rw [if_pos before, if_pos (by omega)]
        · rw [if_neg before, if_neg (by omega)]
  rw [loop, hdiv]
  exact if_congr (by omega) rfl rfl

/-- Component `c` of the output head at `base`: rotated up to the rotary dimension, copied behind. -/
def ropeHead (position : Int) (input : Nat → B) (base : Nat) (spec : Bf16RopePosIdsSpec) (c : Nat) :
    B :=
  if c < spec.rotaryDim then
    rotatedHead (spec.rotaryDim / 2) (rot spec.rotaryDim spec.ropeScale spec.ropeTheta position)
      input base c
  else input (base + c)

/-- The pair loop and the copy of the tail fill one row of the output. -/
theorem ropeRow_apply (position : Int) (input : Nat → B) (row : Nat) (spec : Bf16RopePosIdsSpec)
    (output : Nat → B) (i : Nat) :
    writeRange (row * spec.headDim + spec.rotaryDim) (spec.headDim - spec.rotaryDim)
        (fun c => input (row * spec.headDim + spec.rotaryDim + c))
        (rotateHead rot position input (row * spec.headDim) spec output) i =
      if i / spec.headDim = row then
        ropeHead rot position input (row * spec.headDim) spec (i % spec.headDim)
      else output i := by
  have within := spec.rotary.2.2
  rw [writeRange_apply, rotateHead_apply]
  by_cases here : i / spec.headDim = row
  · obtain ⟨first, last⟩ := (mem_row_iff spec.headDim_pos).mpr here
    rw [if_pos here, ← sub_row_eq_mod here, ropeHead]
    by_cases rotated : i - row * spec.headDim < spec.rotaryDim
    · rw [if_neg (by omega), if_pos (by omega), if_pos rotated]
    · rw [if_pos (by omega), if_neg rotated]
      congr 1
      omega
  · have outside : ¬ (row * spec.headDim ≤ i ∧ i < row * spec.headDim + spec.headDim) :=
      fun h => here ((mem_row_iff spec.headDim_pos).mp h)
    rw [if_neg here, if_neg (by omega), if_neg (by omega)]

/-- The tensor holds the rotated head of every token. -/
theorem rotateTensor_head (input : Nat → B) (positionIds : Slice Int32) (heads : Nat)
    (spec : Bf16RopePosIdsSpec) (output : Nat → B) (i : Nat) :
    rotateTensor rot input positionIds heads spec output i =
      if i / spec.headDim < positionIds.len * heads then
        ropeHead rot (positionIds.int (i / spec.headDim / heads)) input
          (i / spec.headDim * spec.headDim) spec (i % spec.headDim)
      else output i := by
  rw [rotateTensor, forRange_nested, forRange_rows_apply (n := spec.headDim) (Nat.zero_le _)
    (f := fun row c => ropeHead rot (positionIds.int (row / heads)) input (row * spec.headDim) spec c)]
  · simp only [Nat.zero_le, true_and]
  · intro row mem j
    rw [Nat.div_add_mod' row heads]
    exact ropeRow_apply rot (positionIds.int (row / heads)) input row spec mem j

/-- When the whole head is rotated, the tensor holds the rotated head of every token. -/
theorem rotateTensor_apply (input : Nat → B) (positionIds : Slice Int32) (heads : Nat)
    (spec : Bf16RopePosIdsSpec) (whole : spec.rotaryDim = spec.headDim) (output : Nat → B)
    (i : Nat) :
    rotateTensor rot input positionIds heads spec output i =
      if i / spec.headDim < positionIds.len * heads then
        rotatedHead (spec.headDim / 2)
          (rot spec.headDim spec.ropeScale spec.ropeTheta
            (positionIds.int (i / spec.headDim / heads)))
          input (i / spec.headDim * spec.headDim) (i % spec.headDim)
      else output i := by
  rw [rotateTensor_head, ropeHead, whole, if_pos (Nat.mod_lt i spec.headDim_pos)]

/-- The reference succeeds on exact lengths and positions that are not negative. -/
theorem ropePosIdsBf16Reference_eq_ok {query key queryOutput keyOutput : Slice B}
    {positionIds : Slice Int32} {spec : Bf16RopePosIdsSpec} {out : RopeOut B} :
    ropePosIdsBf16Reference rot query key positionIds queryOutput keyOutput spec = .ok out ↔
      query.len = spec.queryNumel ∧ key.len = spec.keyNumel ∧
      positionIds.len = spec.positionNumel ∧ queryOutput.len = spec.queryNumel ∧
      keyOutput.len = spec.keyNumel ∧
      (∀ token, 0 ≤ token → token < positionIds.len → 0 ≤ positionIds.int token) ∧
      out = {
        queryOutput := rotateTensor rot query.get positionIds spec.queryHeads spec queryOutput.get
        keyOutput := rotateTensor rot key.get positionIds spec.keyHeads spec keyOutput.get } := by
  simp only [ropePosIdsBf16Reference, check_bind_eq_ok, requireLen_eq_ok, checkRange_ok_iff,
    ensure_eq_ok, pure, Except.pure, Except.ok.injEq, eq_comm (a := out)]

end Reference

end LoomKernels
