import LoomKernels.Host.Contract
import LoomKernels.Lib.Cuts

/-!
# One attention row on the host

The four attention references differ in how they find a row's tokens; what they do with them is one
loop. `attendRow` is that loop over a range of tokens, `storeRow` the normalization and the log-sum-
exp at its end. The exponential and the map from a dot product to a score are parameters, because
the split-K reference works in base two.

In exact arithmetic a pass of the loop appends one token to the state
(`softmaxStep_summarises`), and a stored row holds the mean and the log-sum-exp of the tokens of its
state (`storeRow_filled`), both in base two.
-/

namespace LoomKernels

/-- `SINGLE_DECODE_HEAD_DIM` -/
abbrev singleDecodeHeadDim : Nat := 128

/-- `SINGLE_DECODE_PARTIAL_STATE_WIDTH`: `[max_score_log2, normalizer, weighted_value[128]]` -/
abbrev singleDecodePartialStateWidth : Nat := singleDecodeHeadDim + 2

theorem headDim_supported {headDim : Nat} (h : ¬ headDim ≠ singleDecodeHeadDim) :
    headDim = singleDecodeHeadDim :=
  not_not.mp h

theorem heads_divide {numQueryHeads numKvHeads : Nat} (h : ¬ numQueryHeads % numKvHeads ≠ 0) :
    numQueryHeads % numKvHeads = 0 :=
  not_not.mp h

-- conditions that the smallest specifications share
theorem oneHead_divides : 1 % 1 = 0 := rfl

theorem oneRequest_fits : 1 + 1 < usizeSize := by decide

theorem oneRow_fits : 1 * 1 * singleDecodeHeadDim < usizeSize := by decide

theorem oneToken_fits : 1 * singleDecodeHeadDim < usizeSize := by decide

theorem oneRow_lt : 1 < 2 ^ 31 := by decide

theorem twoRequests_fit : 2 + 1 < usizeSize := by decide

theorem twoRows_fit : 2 * 1 * singleDecodeHeadDim < usizeSize := by decide

theorem twoRows_lt : 2 < 2 ^ 31 := by decide

theorem threeRows_fit : 3 * 1 * singleDecodeHeadDim < usizeSize := by decide

/-! ## The loop -/

namespace FloatOps

variable {F B : Type} (ops : FloatOps F B)

/-- `1.0 / (head_dim as f32).sqrt()` -/
def softmaxScale : F := ops.div ops.one (ops.sqrt (ops.ofUsize singleDecodeHeadDim))

/-- The dot product of a query head and a key head, components in ascending order. -/
def dot (query key : Nat → B) (queryOffset kvOffset : Nat) : F :=
  forRange 0 singleDecodeHeadDim
    (fun component sum =>
      ops.mulAdd (ops.toF32 (query (queryOffset + component)))
        (ops.toF32 (key (kvOffset + component))) sum)
    ops.zero

/-- One token of the online softmax; the first token sets the state. -/
def softmaxStep (exp : F → F) (first : Bool) (score : F) (value : Nat → F)
    (s : SoftmaxState F Nat) : SoftmaxState F Nat :=
  if first then ⟨score, ops.one, value⟩
  else
    let nextMax := ops.max s.max score
    let previousWeight := exp (ops.sub s.max nextMax)
    let currentWeight := exp (ops.sub score nextMax)
    ⟨nextMax, ops.add (ops.mul s.norm previousWeight) currentWeight,
      fun c => ops.add (ops.mul (s.acc c) previousWeight) (ops.mul (value c) currentWeight)⟩

/-- The state before the first token. -/
def softmaxInit : SoftmaxState F Nat := ⟨ops.zero, ops.zero, fun _ => ops.zero⟩

/-- The token loop of one row. `kvOffset` finds a token's key and value, and may fail. -/
def attendRow (exp score : F → F) (query key value : Nat → B) (queryOffset : Nat)
    (kvOffset : Nat → Host Nat) (lo hi : Nat) : Host (SoftmaxState F Nat) :=
  forRangeM lo hi
    (fun token s => do
      let offset ← kvOffset token
      return ops.softmaxStep exp (token == lo) (score (ops.dot query key queryOffset offset))
        (fun c => ops.toF32 (value (offset + c))) s)
    ops.softmaxInit

end FloatOps

/-- The two results of an attention reference. -/
structure AttentionOut (F B : Type) where
  output : Nat → B
  lse : Nat → F

/-- Normalizes a row's state into row `row` of the output, and stores its log-sum-exp. -/
def FloatOps.storeRow {F B : Type} (ops : FloatOps F B) (row : Nat) (s : SoftmaxState F Nat)
    (lse : F) (out : AttentionOut F B) : AttentionOut F B where
  output := writeRange (row * singleDecodeHeadDim) singleDecodeHeadDim
    (fun c => ops.fromF32 (ops.div (s.acc c) s.norm)) out.output
  lse := Function.update out.lse row lse

/-- `(max_score + normalizer.ln()) * LOG2_E` -/
def FloatOps.naturalLse {F B : Type} (ops : FloatOps F B) (s : SoftmaxState F Nat) : F :=
  ops.mul (ops.add s.max (ops.ln s.norm)) ops.log2e

/-! ## What a row means -/

/-- The components of one head. -/
def SoftmaxState.restrict {F : Type} (s : SoftmaxState F Nat) : SoftmaxState F (Fin 128) :=
  ⟨s.max, s.norm, fun c => s.acc c⟩

section Tokens

variable {K : Type} [Field K]

/-- The dot product of two heads. -/
def headDot (query key : Nat → K) (queryOffset kvOffset : Nat) : K :=
  ∑ c ∈ Finset.range 128, query (queryOffset + c) * key (kvOffset + c)

/-- The token whose key and value start at `kvOffset`, for the query head at `queryOffset`. -/
def headToken (score : K → K) (query key value : Nat → K) (queryOffset kvOffset : Nat) :
    Token K (Fin 128) :=
  ⟨score (headDot query key queryOffset kvOffset), fun c => value (kvOffset + c)⟩

/-- The tokens of a range, found through `kvOffset`. -/
def rowTokens (score : K → K) (query key value : Nat → K) (queryOffset : Nat) (kvOffset : Nat → Nat)
    (lo hi : Nat) : List (Token K (Fin 128)) :=
  (List.range' lo (hi - lo)).map fun t => headToken score query key value queryOffset (kvOffset t)

variable {query key value : Nat → K} {queryOffset : Nat}

theorem rowTokens_succ (score : K → K) (kvOffset : Nat → Nat) {lo hi : Nat} (h : lo ≤ hi) :
    rowTokens score query key value queryOffset kvOffset lo (hi + 1) =
      rowTokens score query key value queryOffset kvOffset lo hi ++
        [headToken score query key value queryOffset (kvOffset hi)] := by
  have hlen : hi + 1 - lo = (hi - lo) + 1 := by omega
  have hlast : lo + 1 * (hi - lo) = hi := by omega
  rw [rowTokens, rowTokens, hlen, List.range'_concat, List.map_append, hlast]
  rfl

@[simp] theorem rowTokens_self (score : K → K) (kvOffset : Nat → Nat) (lo : Nat) :
    rowTokens score query key value queryOffset kvOffset lo lo = [] := by
  simp [rowTokens]

theorem rowTokens_ne_nil (score : K → K) (kvOffset : Nat → Nat) {lo hi : Nat} (h : lo < hi) :
    rowTokens score query key value queryOffset kvOffset lo hi ≠ [] := by
  intro hnil
  have := congrArg List.length hnil
  simp [rowTokens] at this
  omega

/-- The tokens of consecutive cells. -/
theorem rowTokens_cells (score : K → K) (query key value : Nat → K) (queryOffset : Nat)
    (kvOffset : Nat → Nat) {f : Nat → Nat} {n : Nat} (mono : ∀ i < n, f i ≤ f (i + 1)) :
    ((List.range n).flatMap fun i =>
        rowTokens score query key value queryOffset kvOffset (f i) (f (i + 1))) =
      rowTokens score query key value queryOffset kvOffset (f 0) (f n) := by
  rw [rowTokens, ← flatMap_cells mono, List.map_flatMap]
  rfl

end Tokens

section Exact

variable {K : Type} [Field K] [LinearOrder K] [ExactExp K]

/-- The attention output of a row of tokens with base-two scores. -/
def attentionMean (ts : List (Token K (Fin 128))) (c : Fin 128) : K :=
  weightedSum ExactExp.exp2 ts c / expSum ExactExp.exp2 ts

/-- The base-two log-sum-exp of a row of tokens with base-two scores. -/
def attentionLse (ts : List (Token K (Fin 128))) : K :=
  ExactExp.log2 (expSum ExactExp.exp2 ts)

/-- The map from a dot product to a base-two score. -/
def scoreLog2 (dot : K) : K := dot * (exactOps K).softmaxScale * ExactExp.log2e

variable {query key value : Nat → K} {queryOffset : Nat}

theorem exact_dot (kvOffset : Nat) :
    (exactOps K).dot query key queryOffset kvOffset = headDot query key queryOffset kvOffset := by
  refine forRange_invariant
    (P := fun n (sum : K) => sum = ∑ c ∈ Finset.range n, query (queryOffset + c) * key (kvOffset + c))
    (Nat.zero_le _) (by simp [exactOps]) ?_
  intro c sum _ _ hsum
  rw [Finset.sum_range_succ, ← hsum]
  exact add_comm _ _

/-- One step of the online softmax appends a token to a state that stands for some. -/
theorem softmaxStep_summarises {e : K → K} (law : ExpLaw e) {s : SoftmaxState K Nat}
    {ts : List (Token K (Fin 128))} (hs : Summarises e s.restrict ts) (score : K) (v : Nat → K) :
    Summarises e ((exactOps K).softmaxStep e false score v s).restrict
      (ts ++ [⟨score, fun c => v c⟩]) :=
  hs.snoc law ⟨score, fun c => v c⟩ (Max.max s.max score)

/-- The tokens of a row in base two. -/
theorem rowTokens_toBase2 (kvOffset : Nat → Nat) (lo hi : Nat) :
    (rowTokens (· * (exactOps K).softmaxScale) query key value queryOffset kvOffset lo hi).map
      Token.toBase2 = rowTokens scoreLog2 query key value queryOffset kvOffset lo hi := by
  rw [rowTokens, rowTokens, List.map_map]
  rfl

/-! ## Stored rows -/

/-- The rows below `n` hold the attention of their tokens; the rows from `n` on are as before. -/
structure Filled (tokens : Nat → List (Token K (Fin 128))) (before : AttentionOut K K) (n : Nat)
    (out : AttentionOut K K) : Prop where
  output : ∀ row < n, ∀ c : Fin 128, out.output (row * 128 + c) = attentionMean (tokens row) c
  lse : ∀ row < n, out.lse row = attentionLse (tokens row)
  output_frame : ∀ i, n * 128 ≤ i → out.output i = before.output i
  lse_frame : ∀ row, n ≤ row → out.lse row = before.lse row

theorem filled_zero (tokens : Nat → List (Token K (Fin 128))) (before : AttentionOut K K) :
    Filled tokens before 0 before :=
  ⟨by simp, by simp, fun _ _ => rfl, fun _ _ => rfl⟩

/-- Two memories that hold the attention of the same rows agree on them. -/
theorem Filled.output_eq {tokens : Nat → List (Token K (Fin 128))}
    {before before' out out' : AttentionOut K K} {n : Nat} (h : Filled tokens before n out)
    (h' : Filled tokens before' n out') {i : Nat} (hi : i < n * 128) :
    out.output i = out'.output i := by
  have hrow : i / 128 < n := by omega
  have hcol : i % 128 < 128 := Nat.mod_lt i (by omega)
  have split : i / 128 * 128 + ((⟨i % 128, hcol⟩ : Fin 128) : Nat) = i := Nat.div_add_mod' i 128
  rw [← split, h.output _ hrow, h'.output _ hrow]

theorem Filled.lse_eq {tokens : Nat → List (Token K (Fin 128))}
    {before before' out out' : AttentionOut K K} {n : Nat} (h : Filled tokens before n out)
    (h' : Filled tokens before' n out') {i : Nat} (hi : i < n) : out.lse i = out'.lse i := by
  rw [h.lse i hi, h'.lse i hi]

theorem storeRow_output (row : Nat) (s : SoftmaxState K Nat) (lse : K) (out : AttentionOut K K)
    (i : Nat) : ((exactOps K).storeRow row s lse out).output i =
      if row * 128 ≤ i ∧ i < row * 128 + 128 then s.acc (i - row * 128) / s.norm
      else out.output i :=
  writeRange_apply _ _ _ _ i

theorem storeRow_lse (row : Nat) (s : SoftmaxState K Nat) (lse : K) (out : AttentionOut K K)
    (r : Nat) : ((exactOps K).storeRow row s lse out).lse r =
      if r = row then lse else out.lse r :=
  Function.update_apply _ _ _ _

/-- Storing a row whose state reads out as the row's attention. -/
theorem storeRow_filled {tokens : Nat → List (Token K (Fin 128))} {before out : AttentionOut K K}
    {row : Nat} {s : SoftmaxState K Nat} {lse : K} (filled : Filled tokens before row out)
    (mean : ∀ c : Fin 128, s.acc c / s.norm = attentionMean (tokens row) c)
    (hlse : lse = attentionLse (tokens row)) :
    Filled tokens before (row + 1) ((exactOps K).storeRow row s lse out) := by
  refine ⟨fun r hr c => ?_, fun r hr => ?_, fun i hi => ?_, fun r hr => ?_⟩
  · have hc := c.isLt
    rw [storeRow_output]
    rcases Nat.lt_succ_iff_lt_or_eq.mp hr with hlt | rfl
    · rw [if_neg (by omega)]
      exact filled.output r hlt c
    · rw [if_pos (by omega), Nat.add_sub_cancel_left]
      exact mean c
  · rw [storeRow_lse]
    rcases Nat.lt_succ_iff_lt_or_eq.mp hr with hlt | rfl
    · rw [if_neg hlt.ne]
      exact filled.lse r hlt
    · rw [if_pos rfl, hlse]
  · rw [storeRow_output, if_neg (by omega)]
    exact filled.output_frame i (by omega)
  · rw [storeRow_lse, if_neg (by omega)]
    exact filled.lse_frame r (by omega)

variable [IsStrictOrderedRing K]

/-- A base-`e` state reads out as the attention of its tokens with base-two scores. -/
theorem natural_readout {s : SoftmaxState K Nat} {ts : List (Token K (Fin 128))}
    (hs : Summarises ExactExp.exp s.restrict ts) (hts : ts ≠ []) :
    (∀ c : Fin 128, s.acc c / s.norm = attentionMean (ts.map Token.toBase2) c) ∧
    (exactOps K).naturalLse s = attentionLse (ts.map Token.toBase2) := by
  have pos : 0 < s.norm := hs.norm_pos expLaw_exp hts
  refine ⟨fun c => ?_, ?_⟩
  · exact hs.toBase2.mean expLaw_exp2 c
  · have lse := hs.toBase2.lse (by simpa using hts)
    calc (exactOps K).naturalLse s
        = s.max * ExactExp.log2e + ExactExp.ln s.norm * ExactExp.log2e := add_mul _ _ _
      _ = s.max * ExactExp.log2e + ExactExp.log2 s.norm := by rw [ln_mul_log2e pos]
      _ = attentionLse (ts.map Token.toBase2) := lse

end Exact

end LoomKernels
