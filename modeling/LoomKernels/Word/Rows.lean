import LoomKernels.Word.Metadata

/-!
# One attention row on words of any size

The row loop and the row store of the attention references, with every offset computed on words of
`w` bits and every access checked against the length of its buffer. A row whose heads lie inside
their buffers is computed without a defect, and is the row of exact offsets (`attendRow_ok`,
`storeRow_ends`).
-/

namespace LoomKernels.Word

section Rows

variable {F B : Type} (ops : FloatOps F B) (w : Nat)

/-- `array[i]` -/
def element {α : Type} (array : Slice α) (i : Nat) : Machine HostFailure α := do
  inBounds i array.len
  return array.get i

theorem element_ok {α : Type} {array : Slice α} {i : Nat} (h : i < array.len) :
    element array i = .ok (array.get i) := by
  rw [element, inBounds_ok h]
  rfl

/-- The dot product of a query head and a key head, components in ascending order. -/
def dot (query key : Slice B) (queryOffset kvOffset : Nat) : Machine HostFailure F :=
  forRangeM 0 singleDecodeHeadDim
    (fun component sum => do
      let q ← element query (← addWord w queryOffset component)
      let k ← element key (← addWord w kvOffset component)
      return ops.mulAdd (ops.toF32 q) (ops.toF32 k) sum)
    ops.zero

/-- The components of a value head. -/
def valueHead (value : Slice B) (kvOffset : Nat) : Machine HostFailure (Nat → B) := do
  checkRange 0 singleDecodeHeadDim fun component => do
    inBounds (← addWord w kvOffset component) value.len
  return fun component => value.get (kvOffset + component)

/-- The token loop of one row. `kvOffset` finds a token's key and value, and may fail. -/
def attendRow (exp score : F → F) (query key value : Slice B) (queryOffset : Nat)
    (kvOffset : Nat → Machine HostFailure Nat) (lo hi : Nat) :
    Machine HostFailure (SoftmaxState F Nat) :=
  forRangeM lo hi
    (fun token s => do
      let offset ← kvOffset token
      let product ← dot ops w query key queryOffset offset
      let head ← valueHead w value offset
      return ops.softmaxStep exp (token == lo) (score product) (fun c => ops.toF32 (head c)) s)
    ops.softmaxInit

/-- Normalizes a row's state into row `row` of the output, and stores its log-sum-exp. -/
def storeRow (outputLen lseLen row : Nat) (s : SoftmaxState F Nat) (lse : F) :
    Program HostFailure (AttentionOut F B) Unit := do
  let outputOffset ← compute (mulWord w row singleDecodeHeadDim)
  forEach 0 singleDecodeHeadDim fun component => do
    let i ← compute (addWord w outputOffset component)
    compute (inBounds i outputLen)
    modify fun out => { out with
      output := Function.update out.output i (ops.fromF32 (ops.div (s.acc component) s.norm)) }
  compute (inBounds row lseLen)
  modify fun out => { out with lse := Function.update out.lse row lse }

variable {w} {query key value : Slice B}

/-- Both heads lie inside their buffers. -/
theorem dot_ok {queryOffset kvOffset : Nat}
    (hq : queryOffset + singleDecodeHeadDim ≤ query.len)
    (hk : kvOffset + singleDecodeHeadDim ≤ key.len) (query_fits : query.len < 2 ^ w)
    (key_fits : key.len < 2 ^ w) :
    dot ops w query key queryOffset kvOffset =
      .ok (ops.dot query.get key.get queryOffset kvOffset) := by
  refine forRangeM_ok _ fun component sum _ hc => ?_
  rw [addWord_ok (by omega), ok_bind, element_ok (by omega), ok_bind, addWord_ok (by omega), ok_bind,
    element_ok (by omega), ok_bind]
  rfl

theorem valueHead_ok {kvOffset : Nat} (hv : kvOffset + singleDecodeHeadDim ≤ value.len)
    (value_fits : value.len < 2 ^ w) :
    valueHead w value kvOffset = .ok fun component => value.get (kvOffset + component) := by
  have inside : checkRange 0 singleDecodeHeadDim (fun component => do
      inBounds (← addWord w kvOffset component) value.len : Nat → Machine HostFailure Unit) =
        .ok () := by
    refine checkRange_ok_iff.mpr fun component _ hc => ?_
    rw [addWord_ok (by omega), ok_bind, inBounds_ok (by omega)]
  rw [valueHead, inside]
  rfl

/-- A row whose tokens are all found inside the key and value buffers. -/
theorem attendRow_ok {queryOffset lo hi : Nat} {kvOffset : Nat → Machine HostFailure Nat}
    {off : Nat → Nat} (exp score : F → F)
    (hq : queryOffset + singleDecodeHeadDim ≤ query.len) (query_fits : query.len < 2 ^ w)
    (key_fits : key.len < 2 ^ w) (hv : value.len = key.len)
    (offsets : ∀ t, lo ≤ t → t < hi →
      kvOffset t = .ok (off t) ∧ off t + singleDecodeHeadDim ≤ key.len) :
    attendRow ops w exp score query key value queryOffset kvOffset lo hi =
      .ok (forRange lo hi
        (fun token s => ops.softmaxStep exp (token == lo)
          (score (ops.dot query.get key.get queryOffset (off token)))
          (fun c => ops.toF32 (value.get (off token + c))) s)
        ops.softmaxInit) := by
  refine forRangeM_ok _ fun token s hlo hhi => ?_
  obtain ⟨found, inside⟩ := offsets token hlo hhi
  rw [found, ok_bind, dot_ok ops hq inside query_fits key_fits, ok_bind,
    valueHead_ok (hv ▸ inside) (hv ▸ key_fits), ok_bind]
  rfl

/-- A row inside its buffers is stored. -/
theorem storeRow_ends {outputLen lseLen row : Nat} (inside : row < lseLen)
    (hl : lseLen * singleDecodeHeadDim = outputLen) (fits : outputLen < 2 ^ w)
    (s : SoftmaxState F Nat) (lse : F) (out : AttentionOut F B)
    {E : Halt HostFailure → AttentionOut F B → Prop} :
    Ends (storeRow ops w outputLen lseLen row s lse) out
      (fun _ out' => out' = ops.storeRow row s lse out) E := by
  have row_fits := rowMajor_lt inside (show 0 < singleDecodeHeadDim by decide)
  rw [storeRow, mulWord_ok (by omega), compute_ok, pure_bind, ends_bind]
  refine (ends_forEach
    (P := fun n (out' : AttentionOut F B) => out' = { out with
      output := writeRange (row * singleDecodeHeadDim) n
        (fun c => ops.fromF32 (ops.div (s.acc c) s.norm)) out.output })
    (Nat.zero_le _) rfl ?_).mono ?_ fun _ _ h => h
  · rintro component _ _ hc rfl
    have component_fits := rowMajor_lt inside hc
    rw [addWord_ok (by omega), compute_ok, pure_bind, inBounds_ok (by omega), compute_ok, pure_bind,
      ends_modify, writeRange, writeRange, forRange_succ (Nat.zero_le _)]
  · rintro _ _ rfl
    rw [inBounds_ok inside, compute_ok, pure_bind, ends_modify]
    rfl

/-- One row of a reference: the query head at `row`, the tokens from `lo` to `hi`. -/
def referenceRow (w : Nat) (numQueryHeads numKvHeads : Nat) (query key value : Slice B)
    (outputLen lseLen row queryHead : Nat) (kvOffset : Nat → Nat → Machine HostFailure Nat)
    (lo hi : Nat) : Program HostFailure (AttentionOut F B) Unit := do
  let queryOffset ← compute (mulWord w row singleDecodeHeadDim)
  let kvHead ← compute (do
    lift (expect (← kvHeadForQueryHead numQueryHeads numKvHeads queryHead)
      "enumerated query head is inside the validated specification"))
  let s ← compute (attendRow ops w ops.exp (ops.mul · ops.softmaxScale) query key value queryOffset
    (kvOffset kvHead) lo hi)
  storeRow ops w outputLen lseLen row s (ops.naturalLse s)

/-- What a reference requires of the sizes of its buffers, and of its head counts. -/
structure RowShape (w numQueryHeads numKvHeads : Nat) (query key value : Slice B)
    (outputLen lseLen : Nat) : Prop where
  queryHeads_pos : 0 < numQueryHeads
  kvHeads_pos : 0 < numKvHeads
  group : numQueryHeads % numKvHeads = 0
  query_len : query.len = lseLen * singleDecodeHeadDim
  query_fits : query.len < 2 ^ w
  key_fits : key.len < 2 ^ w
  value_len : value.len = key.len
  output_len : outputLen = lseLen * singleDecodeHeadDim

theorem row_end_le {rows r : Nat} (h : r < rows) (n : Nat) : r * n + n ≤ rows * n := by
  calc r * n + n = (r + 1) * n := by rw [Nat.add_mul, Nat.one_mul]
    _ ≤ rows * n := Nat.mul_le_mul_right n h

/-- A row whose tokens are found inside the buffers is computed and stored. -/
theorem referenceRow_ends {numQueryHeads numKvHeads outputLen lseLen row queryHead lo hi : Nat}
    (shape : RowShape w numQueryHeads numKvHeads query key value outputLen lseLen)
    (hr : row < lseLen) (hh : queryHead < numQueryHeads)
    {kvOffset : Nat → Nat → Machine HostFailure Nat} {off : Nat → Nat}
    (offsets : ∀ t, lo ≤ t → t < hi →
      kvOffset (queryHead / (numQueryHeads / numKvHeads)) t = .ok (off t) ∧
        off t + singleDecodeHeadDim ≤ key.len)
    (out : AttentionOut F B) {E : Halt HostFailure → AttentionOut F B → Prop} :
    let s := ops.attend query.get key.get value.get (row * singleDecodeHeadDim) off lo hi
    Ends (referenceRow ops w numQueryHeads numKvHeads query key value outputLen lseLen row queryHead
        kvOffset lo hi) out
      (fun _ out' => out' = ops.storeRow row s (ops.naturalLse s) out) E := by
  have row_end := row_end_le hr singleDecodeHeadDim
  have query_len := shape.query_len
  have query_fits := shape.query_fits
  rw [referenceRow, mulWord_ok (by omega), compute_ok, pure_bind,
    kvHeadForQueryHead_ok shape.queryHeads_pos shape.group shape.kvHeads_pos, ok_bind, if_pos hh,
    expect_some, lift_ok, compute_ok, pure_bind,
    attendRow_ok ops _ _ (by omega) query_fits shape.key_fits shape.value_len offsets, compute_ok,
    pure_bind]
  exact storeRow_ends ops hr shape.output_len.symm
    (shape.output_len ▸ query_len ▸ query_fits) _ _ out

end Rows

/-! ## Offsets -/

section Offsets

variable {w : Nat}

/-- `(token * num_kv_heads + kv_head) * 128` -/
def contiguousOffset (w numKvHeads kvHead token : Nat) : Machine HostFailure Nat := do
  mulWord w (← addWord w (← mulWord w token numKvHeads) kvHead) singleDecodeHeadDim

/-- `((page * 16 + offset) * num_kv_heads + kv_head) * 128` -/
def slotOffset (w numKvHeads kvHead : Nat) (slot : Nat × Nat) : Machine HostFailure Nat := do
  let position ← addWord w (← mulWord w slot.1 pagedBatchDecodePageSize) slot.2
  mulWord w (← addWord w (← mulWord w position numKvHeads) kvHead) singleDecodeHeadDim

/-- The head of a token lies inside a contiguous buffer. -/
theorem contiguousOffset_ok {tokens numKvHeads kvHead token : Nat} (ht : token < tokens)
    (hk : kvHead < numKvHeads) (fits : tokens * numKvHeads * singleDecodeHeadDim < 2 ^ w) :
    contiguousOffset w numKvHeads kvHead token =
        .ok ((token * numKvHeads + kvHead) * singleDecodeHeadDim) ∧
      (token * numKvHeads + kvHead) * singleDecodeHeadDim + singleDecodeHeadDim ≤
        tokens * numKvHeads * singleDecodeHeadDim := by
  have head := rowMajor_lt ht hk
  have inside := row_end_le head singleDecodeHeadDim
  have heads_fit := mul_lt_of_mul_lt (show 0 < singleDecodeHeadDim by decide) fits
  refine ⟨?_, inside⟩
  rw [contiguousOffset, mulWord_ok (by omega), ok_bind, addWord_ok (by omega), ok_bind,
    mulWord_ok (by simp only [singleDecodeHeadDim] at *; omega)]

/-- The head of a slot lies inside the page pool. -/
theorem slotOffset_ok {pages numKvHeads kvHead : Nat} {slot : Nat × Nat} (hp : slot.1 < pages)
    (ho : slot.2 < pagedBatchDecodePageSize) (hk : kvHead < numKvHeads)
    (fits : pages * pagedBatchDecodePageSize * numKvHeads * singleDecodeHeadDim < 2 ^ w) :
    slotOffset w numKvHeads kvHead slot = .ok (LoomKernels.slotOffset numKvHeads kvHead slot) ∧
      LoomKernels.slotOffset numKvHeads kvHead slot + singleDecodeHeadDim ≤
        pages * pagedBatchDecodePageSize * numKvHeads * singleDecodeHeadDim := by
  have position := rowMajor_lt hp ho
  have heads_fit := mul_lt_of_mul_lt (show 0 < singleDecodeHeadDim by decide) fits
  have tokens_fit := mul_lt_of_mul_lt (Nat.zero_lt_of_lt hk) heads_fit
  obtain ⟨offset, inside⟩ := contiguousOffset_ok position hk fits
  refine ⟨?_, inside⟩
  rw [slotOffset, mulWord_ok (by omega), ok_bind, addWord_ok (by omega), ok_bind]
  exact offset

end Offsets

end LoomKernels.Word
