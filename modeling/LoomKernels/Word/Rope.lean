import LoomKernels.Word.Rows

/-!
# The rotary reference on words of any size

The rotary contract and its reference on words of `w` bits. The reference rotates the query into one
output and the key into the other; on arguments that pass its checks, every offset of the two
loops is a word and lies inside its buffer (`ropePosIdsBf16Reference_succeeds`).
-/

namespace LoomKernels.Word

/-- A rotary contract that `new` accepts. -/
structure Bf16RopePosIdsSpec (w : Nat) where
  tokens : Nat
  queryHeads : Nat
  keyHeads : Nat
  headDim : Nat
  rotaryDim : Nat
  ropeScale : UInt32
  ropeTheta : UInt32
  tokens_pos : 0 < tokens
  queryHeads_pos : 0 < queryHeads
  keyHeads_pos : 0 < keyHeads
  headDim_pos : 0 < headDim
  rotary : rotaryDim ≠ 0 ∧ rotaryDim % 2 = 0 ∧ rotaryDim ≤ headDim
  scale : f32IsFinite ropeScale ∧ ¬ f32LeNonneg ropeScale f32Zero
  theta : f32IsFinite ropeTheta ∧ ¬ f32LeNonneg ropeTheta f32One
  query_fits : tokens * queryHeads * headDim < 2 ^ w
  key_fits : tokens * keyHeads * headDim < 2 ^ w

theorem f32_above_one {bits : UInt32} (h : ¬(¬ f32IsFinite bits ∨ f32LeNonneg bits f32One)) :
    f32IsFinite bits ∧ ¬ f32LeNonneg bits f32One := by
  simpa using h

namespace Bf16RopePosIdsSpec

def new (w tokens queryHeads keyHeads headDim rotaryDim : Nat) (ropeScale ropeTheta : UInt32) :
    Host (Bf16RopePosIdsSpec w) :=
  if zero : tokens = 0 ∨ queryHeads = 0 ∨ keyHeads = 0 ∨ headDim = 0 then fail .zeroDimension
  else if rotary : rotaryDim = 0 ∨ rotaryDim % 2 ≠ 0 ∨ rotaryDim > headDim then
    fail (.invalidRotaryDimension rotaryDim headDim)
  else if scale : ¬ f32IsFinite ropeScale ∨ f32LeNonneg ropeScale f32Zero then
    fail (.invalidRopeScale ropeScale)
  else if theta : ¬ f32IsFinite ropeTheta ∨ f32LeNonneg ropeTheta f32One then
    fail (.invalidRopeTheta ropeTheta)
  -- two chains of `checked_mul` with one error; each last product bounds the others
  else if fits : tokens * queryHeads * headDim < 2 ^ w ∧ tokens * keyHeads * headDim < 2 ^ w then
    .ok {
      tokens, queryHeads, keyHeads, headDim, rotaryDim, ropeScale, ropeTheta
      tokens_pos := by omega
      queryHeads_pos := by omega
      keyHeads_pos := by omega
      headDim_pos := by omega
      rotary := by omega
      scale := f32_positive scale
      theta := f32_above_one theta
      query_fits := fits.1
      key_fits := fits.2 }
  else fail .elementCountOverflow

variable {w : Nat} (spec : Bf16RopePosIdsSpec w)

/-- `new` accepts every specification there is. -/
theorem new_self :
    new w spec.tokens spec.queryHeads spec.keyHeads spec.headDim spec.rotaryDim spec.ropeScale
      spec.ropeTheta = .ok spec := by
  have h1 := spec.tokens_pos
  have h2 := spec.queryHeads_pos
  have h3 := spec.keyHeads_pos
  have h4 := spec.headDim_pos
  have h5 := spec.rotary
  rw [new, dif_neg (by omega), dif_neg (by omega), dif_neg (by simpa using spec.scale),
    dif_neg (by simpa using spec.theta), dif_pos ⟨spec.query_fits, spec.key_fits⟩]

def queryNumel : Machine HostFailure Nat := do
  mulWord w (← mulWord w spec.tokens spec.queryHeads) spec.headDim

def keyNumel : Machine HostFailure Nat := do
  mulWord w (← mulWord w spec.tokens spec.keyHeads) spec.headDim

def positionNumel : Nat := spec.tokens

theorem queryNumel_ok : spec.queryNumel = .ok (spec.tokens * spec.queryHeads * spec.headDim) :=
  mul_mul_ok spec.headDim_pos spec.query_fits

theorem keyNumel_ok : spec.keyNumel = .ok (spec.tokens * spec.keyHeads * spec.headDim) :=
  mul_mul_ok spec.headDim_pos spec.key_fits

end Bf16RopePosIdsSpec

section Reference

variable {B : Type} (rot : Rotation B) {w : Nat}

/-- One pair of the head at `base`. -/
def rotatePair (position : Int) (input : Slice B) (outputLen base half pair : Nat)
    (spec : Bf16RopePosIdsSpec w) : Program HostFailure (Nat → B) Unit := do
  let firstIndex ← compute (addWord w base pair)
  let secondIndex ← compute (do addWord w (← addWord w base half) pair)
  let first ← compute (element input firstIndex)
  let second ← compute (element input secondIndex)
  let rotated := rot spec.rotaryDim spec.ropeScale spec.ropeTheta position pair first second
  compute (inBounds firstIndex outputLen)
  modify fun output => Function.update output firstIndex rotated.1
  compute (inBounds secondIndex outputLen)
  modify fun output => Function.update output secondIndex rotated.2

/-- The components behind the rotary dimension are copied. -/
def copyTail (input : Slice B) (outputLen base : Nat) (spec : Bf16RopePosIdsSpec w) :
    Program HostFailure (Nat → B) Unit := do
  let start ← compute (addWord w base spec.rotaryDim)
  let stop ← compute (addWord w base spec.headDim)
  compute (rangeInBounds start stop outputLen)
  compute (rangeInBounds start stop input.len)
  modify (writeRange start (stop - start) fun c => input.get (start + c))

def rotateTensor (input : Slice B) (positionIds : Slice Int32) (outputLen heads : Nat)
    (spec : Bf16RopePosIdsSpec w) : Program HostFailure (Nat → B) Unit := do
  let half ← compute (divWord spec.rotaryDim 2)
  forEach 0 positionIds.len fun token =>
    forEach 0 heads fun head => do
      let base ← compute (do
        mulWord w (← addWord w (← mulWord w token heads) head) spec.headDim)
      forEach 0 half fun pair =>
        rotatePair rot (positionIds.int token) input outputLen base half pair spec
      copyTail input outputLen base spec

/-- The checks of the rotary reference. -/
def checkRope (query key : Slice B) (positionIds : Slice Int32) (queryOutputLen keyOutputLen : Nat)
    (spec : Bf16RopePosIdsSpec w) : Machine HostFailure Unit := do
  lift (requireLen "query" query.len (← spec.queryNumel))
  lift (requireLen "key" key.len (← spec.keyNumel))
  lift (requireLen "position_ids" positionIds.len spec.positionNumel)
  lift (requireLen "query_output" queryOutputLen (← spec.queryNumel))
  lift (requireLen "key_output" keyOutputLen (← spec.keyNumel))
  checkRange 0 positionIds.len fun token =>
    lift (ensure (0 ≤ positionIds.int token) (.negativePositionId token (positionIds.int token)))

def ropePosIdsBf16Reference (query key : Slice B) (positionIds : Slice Int32)
    (queryOutputLen keyOutputLen : Nat) (spec : Bf16RopePosIdsSpec w) :
    Program HostFailure (RopeOut B) Unit := do
  compute (checkRope query key positionIds queryOutputLen keyOutputLen spec)
  onPart RopeOut.queryOutput (fun out queryOutput => { out with queryOutput })
    (rotateTensor rot query positionIds queryOutputLen spec.queryHeads spec)
  onPart RopeOut.keyOutput (fun out keyOutput => { out with keyOutput })
    (rotateTensor rot key positionIds keyOutputLen spec.keyHeads spec)

/-! ## The loops stay inside the buffers -/

theorem checkRope_eq_ok {query key : Slice B} {positionIds : Slice Int32}
    {queryOutputLen keyOutputLen : Nat} {spec : Bf16RopePosIdsSpec w} :
    checkRope query key positionIds queryOutputLen keyOutputLen spec = .ok () ↔
      query.len = spec.tokens * spec.queryHeads * spec.headDim ∧
      key.len = spec.tokens * spec.keyHeads * spec.headDim ∧
      positionIds.len = spec.tokens ∧
      queryOutputLen = spec.tokens * spec.queryHeads * spec.headDim ∧
      keyOutputLen = spec.tokens * spec.keyHeads * spec.headDim ∧
      ∀ token, 0 ≤ token → token < positionIds.len → 0 ≤ positionIds.int token := by
  simp only [checkRope, spec.queryNumel_ok, spec.keyNumel_ok, ok_bind, check_bind_eq_ok, lift_eq_ok,
    requireLen_eq_ok, checkRange_ok_iff, ensure_eq_ok, Bf16RopePosIdsSpec.positionNumel]

variable {input : Slice B} {positionIds : Slice Int32} {outputLen heads : Nat}
  {spec : Bf16RopePosIdsSpec w} (out_len : outputLen = input.len) (fits : input.len < 2 ^ w)
include out_len fits

theorem rotatePair_succeeds {base pair : Nat} (inside : base + spec.headDim ≤ input.len)
    (hp : pair < spec.rotaryDim / 2) (position : Int) :
    Succeeds (rotatePair rot position input outputLen base (spec.rotaryDim / 2) pair spec) := by
  have rotary := spec.rotary
  have second : base + spec.rotaryDim / 2 + pair < input.len := by omega
  rw [rotatePair, addWord_ok (by omega), compute_ok, pure_bind, addWord_ok (by omega), ok_bind,
    addWord_ok (by omega), compute_ok, pure_bind, element_ok (by omega), compute_ok, pure_bind,
    element_ok second, compute_ok, pure_bind]
  dsimp only
  rw [inBounds_ok (by omega), compute_ok, pure_bind, inBounds_ok (out_len ▸ second), compute_ok]
  exact (haltsOnly_modify _).bind fun _ => (haltsOnly_pure _).bind fun _ => haltsOnly_modify _

theorem copyTail_succeeds {base : Nat} (inside : base + spec.headDim ≤ input.len) :
    Succeeds (copyTail input outputLen base spec) := by
  have rotary := spec.rotary
  rw [copyTail, addWord_ok (by omega), compute_ok, pure_bind, addWord_ok (by omega), compute_ok,
    pure_bind, rangeInBounds_ok (by omega) (by omega), compute_ok, pure_bind,
    rangeInBounds_ok (by omega) inside, compute_ok, pure_bind]
  exact haltsOnly_modify _

theorem rotateTensor_succeeds (len : input.len = positionIds.len * heads * spec.headDim) :
    Succeeds (rotateTensor rot input positionIds outputLen heads spec) := by
  rw [rotateTensor, divWord_ok (by decide), compute_ok, pure_bind]
  refine haltsOnly_forEach fun token _ ht => haltsOnly_forEach fun head _ hh => ?_
  have row := rowMajor_lt ht hh
  have row_end := row_end_le row spec.headDim
  have rows_fit := mul_lt_of_mul_lt spec.headDim_pos (len ▸ fits)
  have positive := spec.headDim_pos
  rw [mulWord_ok (by omega), ok_bind, addWord_ok (by omega), ok_bind, mulWord_ok (by omega),
    compute_ok, pure_bind]
  refine HaltsOnly.bind (haltsOnly_forEach fun pair _ hp => ?_) fun _ => ?_
  · exact rotatePair_succeeds rot out_len fits (len ▸ row_end) hp _
  · exact copyTail_succeeds out_len fits (len ▸ row_end)

omit out_len fits

/-- On arguments that pass the checks, the reference ends well. -/
theorem ropePosIdsBf16Reference_succeeds {query key : Slice B} {positionIds : Slice Int32}
    {queryOutputLen keyOutputLen : Nat} {spec : Bf16RopePosIdsSpec w}
    (accepted : checkRope query key positionIds queryOutputLen keyOutputLen spec = .ok ()) :
    Succeeds (ropePosIdsBf16Reference rot query key positionIds queryOutputLen keyOutputLen spec) := by
  rw [ropePosIdsBf16Reference, accepted, compute_ok, pure_bind]
  obtain ⟨hq, hk, hp, hqo, hko, -⟩ := checkRope_eq_ok.mp accepted
  have query := rotateTensor_succeeds rot (hqo.trans hq.symm) (hq ▸ spec.query_fits) (hp ▸ hq)
  have key := rotateTensor_succeeds rot (hko.trans hk.symm) (hk ▸ spec.key_fits) (hp ▸ hk)
  exact query.onPart.bind fun _ => key.onPart

end Reference

end LoomKernels.Word
