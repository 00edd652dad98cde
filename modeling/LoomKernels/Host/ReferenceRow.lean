import LoomKernels.Host.AttentionRow

/-!
# Reference rows in any arithmetic

What an attention reference computes when nothing is known of the floating-point operations.
`FloatOps.attend` is the row loop with its look-ups resolved, and `Computed` says of two memories
that the first holds the results of given rows. Rows over the same numbers go through the same
operations, wherever the numbers are stored (`attend_congr`), and equal rows store equal results
(`Computed.sameRow`).

In exact arithmetic a computed row is the attention of its tokens (`Computed.filled`).
-/

namespace LoomKernels

section Rows

variable {F B : Type} (ops : FloatOps F B)

/-- One pass of the row loop, over a token that has been found. -/
def FloatOps.attendToken (query key value : Nat → B) (queryOffset kvOffset : Nat) (first : Bool)
    (s : SoftmaxState F Nat) : SoftmaxState F Nat :=
  ops.softmaxStep ops.exp first (ops.mul (ops.dot query key queryOffset kvOffset) ops.softmaxScale)
    (fun c => ops.toF32 (value (kvOffset + c))) s

/-- The row loop over tokens that are all found. -/
def FloatOps.attend (query key value : Nat → B) (queryOffset : Nat) (kvOffset : Nat → Nat)
    (lo hi : Nat) : SoftmaxState F Nat :=
  forRange lo hi
    (fun token => ops.attendToken query key value queryOffset (kvOffset token) (token == lo))
    ops.softmaxInit

/-- A row loop whose look-ups succeed. -/
theorem attendRow_eq {query key value : Nat → B} {queryOffset lo hi : Nat}
    {kvOffset : Nat → Host Nat} {off : Nat → Nat}
    (offsets : ∀ t, lo ≤ t → t < hi → kvOffset t = .ok (off t)) :
    ops.attendRow ops.exp (ops.mul · ops.softmaxScale) query key value queryOffset kvOffset lo hi =
      .ok (ops.attend query key value queryOffset off lo hi) :=
  forRangeM_ok _ fun t s hlo hhi => by rw [offsets t hlo hhi]; rfl

/-! ## Rows over the same numbers -/

variable {query query' key key' value value' : Nat → B} {queryOffset queryOffset' : Nat}

/-- Equal components have the same dot product. -/
theorem dot_congr {kvOffset kvOffset' : Nat}
    (hq : ∀ c < 128, query (queryOffset + c) = query' (queryOffset' + c))
    (hk : ∀ c < 128, key (kvOffset + c) = key' (kvOffset' + c)) :
    ops.dot query key queryOffset kvOffset = ops.dot query' key' queryOffset' kvOffset' :=
  forRange_congr _ fun c _ _ hc => by rw [hq c hc, hk c hc]

/-- The components of the head after a token depend on the components of the head only. -/
theorem softmaxStep_restrict (e : F → F) (first : Bool) (score : F) {v v' : Nat → F}
    {s s' : SoftmaxState F Nat} (hv : ∀ c < 128, v c = v' c) (hs : s.restrict = s'.restrict) :
    (ops.softmaxStep e first score v s).restrict =
      (ops.softmaxStep e first score v' s').restrict := by
  simp only [SoftmaxState.restrict, SoftmaxState.mk.injEq] at hs
  obtain ⟨hmax, hnorm, hacc⟩ := hs
  cases first with
  | true =>
    simp only [FloatOps.softmaxStep, if_true, SoftmaxState.restrict, SoftmaxState.mk.injEq,
      true_and]
    exact funext fun c => hv c c.isLt
  | false =>
    simp only [FloatOps.softmaxStep, Bool.false_eq_true, if_false, SoftmaxState.restrict, hmax,
      hnorm, SoftmaxState.mk.injEq, true_and]
    exact funext fun c => by rw [hv c c.isLt, congrFun hacc c]

/-- Rows whose query, keys and values are the same numbers go through the same operations. -/
theorem attend_congr {kvOffset kvOffset' : Nat → Nat} (lo lo' : Nat) {n : Nat}
    (hq : ∀ c < 128, query (queryOffset + c) = query' (queryOffset' + c))
    (hk : ∀ i < n, ∀ c < 128, key (kvOffset (lo + i) + c) = key' (kvOffset' (lo' + i) + c))
    (hv : ∀ i < n, ∀ c < 128, value (kvOffset (lo + i) + c) = value' (kvOffset' (lo' + i) + c)) :
    (ops.attend query key value queryOffset kvOffset lo (lo + n)).restrict =
      (ops.attend query' key' value' queryOffset' kvOffset' lo' (lo' + n)).restrict := by
  refine forRange_lockstep
    (R := fun s s' : SoftmaxState F Nat => s.restrict = s'.restrict) rfl fun i hi s s' hs => ?_
  have first : (lo + i == lo) = (lo' + i == lo') := by
    rw [Bool.eq_iff_iff, beq_iff_eq, beq_iff_eq]
    omega
  unfold FloatOps.attendToken
  rw [dot_congr ops hq (hk i hi), first]
  exact softmaxStep_restrict ops _ _ _ (fun c hc => by rw [hv i hi c hc]) hs

/-- The same with the tokens of the second row counted from its first one. -/
theorem attend_shift {kvOffset kvOffset' : Nat → Nat} {lo n : Nat}
    (hq : ∀ c < 128, query (queryOffset + c) = query' (queryOffset' + c))
    (hk : ∀ i < n, ∀ c < 128, key (kvOffset (lo + i) + c) = key' (kvOffset' i + c))
    (hv : ∀ i < n, ∀ c < 128, value (kvOffset (lo + i) + c) = value' (kvOffset' i + c)) :
    (ops.attend query key value queryOffset kvOffset lo (lo + n)).restrict =
      (ops.attend query' key' value' queryOffset' kvOffset' 0 n).restrict := by
  have hk' : ∀ i < n, ∀ c < 128, key (kvOffset (lo + i) + c) = key' (kvOffset' (0 + i) + c) :=
    fun i hi c hc => by rw [Nat.zero_add, hk i hi c hc]
  have hv' : ∀ i < n, ∀ c < 128, value (kvOffset (lo + i) + c) = value' (kvOffset' (0 + i) + c) :=
    fun i hi c hc => by rw [Nat.zero_add, hv i hi c hc]
  have same := attend_congr ops lo 0 hq hk' hv'
  rwa [Nat.zero_add] at same

/-! ## Computed rows -/

/-- Two rows hold the same output components and the same LSE. -/
def SameRow (out : AttentionOut F B) (row : Nat) (out' : AttentionOut F B) (row' : Nat) : Prop :=
  (∀ c < singleDecodeHeadDim, out.output (row * singleDecodeHeadDim + c) =
    out'.output (row' * singleDecodeHeadDim + c)) ∧ out.lse row = out'.lse row'

/-- The rows below `n` hold the results of their states; the rows from `n` on are as before. -/
structure Computed (state : Nat → SoftmaxState F Nat) (before : AttentionOut F B) (n : Nat)
    (out : AttentionOut F B) : Prop where
  output : ∀ row < n, ∀ c < 128,
    out.output (row * 128 + c) = ops.fromF32 (ops.div ((state row).acc c) (state row).norm)
  lse : ∀ row < n, out.lse row = ops.naturalLse (state row)
  output_frame : ∀ i, n * 128 ≤ i → out.output i = before.output i
  lse_frame : ∀ row, n ≤ row → out.lse row = before.lse row

variable {ops} {state state' : Nat → SoftmaxState F Nat} {before before' out out' : AttentionOut F B}

theorem computed_zero (state : Nat → SoftmaxState F Nat) (before : AttentionOut F B) :
    Computed ops state before 0 before :=
  ⟨by simp, by simp, fun _ _ => rfl, fun _ _ => rfl⟩

/-- Storing the next row. -/
theorem storeRow_computed {row : Nat} {s : SoftmaxState F Nat}
    (computed : Computed ops state before row out) (hs : s = state row) :
    Computed ops state before (row + 1) (ops.storeRow row s (ops.naturalLse s) out) := by
  subst hs
  have output : ∀ i, (ops.storeRow row (state row) (ops.naturalLse (state row)) out).output i =
      if row * 128 ≤ i ∧ i < row * 128 + 128 then
        ops.fromF32 (ops.div ((state row).acc (i - row * 128)) (state row).norm)
      else out.output i := fun i => writeRange_apply _ _ _ _ i
  have lse : ∀ r, (ops.storeRow row (state row) (ops.naturalLse (state row)) out).lse r =
      if r = row then ops.naturalLse (state row) else out.lse r :=
    fun r => Function.update_apply _ _ _ _
  refine ⟨fun r hr c hc => ?_, fun r hr => ?_, fun i hi => ?_, fun r hr => ?_⟩
  · rw [output]
    rcases Nat.lt_succ_iff_lt_or_eq.mp hr with hlt | rfl
    · rw [if_neg (by omega)]
      exact computed.output r hlt c hc
    · rw [if_pos (by omega), Nat.add_sub_cancel_left]
  · rw [lse]
    rcases Nat.lt_succ_iff_lt_or_eq.mp hr with hlt | rfl
    · rw [if_neg hlt.ne]
      exact computed.lse r hlt
    · rw [if_pos rfl]
  · rw [output, if_neg (by omega)]
    exact computed.output_frame i (by omega)
  · rw [lse, if_neg (by omega)]
    exact computed.lse_frame r (by omega)

/-- Rows with the same state hold the same results. -/
theorem Computed.sameRow {n n' : Nat} (computed : Computed ops state before n out)
    (computed' : Computed ops state' before' n' out') {row row' : Nat} (hr : row < n)
    (hr' : row' < n') (same : (state row).restrict = (state' row').restrict) :
    SameRow out row out' row' := by
  simp only [SoftmaxState.restrict, SoftmaxState.mk.injEq] at same
  obtain ⟨hmax, hnorm, hacc⟩ := same
  refine ⟨fun c hc => ?_, ?_⟩
  · have component : (state row).acc c = (state' row').acc c := congrFun hacc ⟨c, hc⟩
    rw [computed.output row hr c hc, computed'.output row' hr' c hc, component, hnorm]
  · rw [computed.lse row hr, computed'.lse row' hr', FloatOps.naturalLse, FloatOps.naturalLse, hmax,
      hnorm]

end Rows

/-! ## Exact arithmetic -/

section Exact

variable {K : Type} [Field K] [LinearOrder K] [ExactExp K]

/-- The row loop leaves a state that stands for exactly the tokens of its range. -/
theorem attend_exact (query key value : Nat → K) (queryOffset : Nat) (kvOffset : Nat → Nat)
    {lo hi : Nat} (h : lo < hi) :
    Summarises ExactExp.exp ((exactOps K).attend query key value queryOffset kvOffset lo hi).restrict
      (rowTokens (· * (exactOps K).softmaxScale) query key value queryOffset kvOffset lo hi) := by
  -- the invariant says nothing before the first token, which sets the state
  refine forRange_invariant
    (P := fun i (s : SoftmaxState K Nat) => lo < i → Summarises ExactExp.exp s.restrict
      (rowTokens (· * (exactOps K).softmaxScale) query key value queryOffset kvOffset lo i))
    h.le (fun hlt => absurd hlt (lt_irrefl lo)) ?_ h
  intro t s hl _ hs _
  rw [rowTokens_succ _ kvOffset hl, FloatOps.attendToken, exact_dot]
  rcases hl.eq_or_lt with rfl | hlt
  · rw [rowTokens_self, List.nil_append, beq_self_eq_true]
    exact summarises_singleton _ (headToken (· * (exactOps K).softmaxScale) query key value
      queryOffset (kvOffset lo))
  · rw [beq_false_of_ne hlt.ne']
    exact softmaxStep_summarises expLaw_exp (hs hlt) _ _

variable [IsStrictOrderedRing K]

/-- Rows that attend to their tokens hold the attention of these tokens. -/
theorem Computed.filled {state : Nat → SoftmaxState K Nat}
    {tokens : Nat → List (Token K (Fin 128))} {before out : AttentionOut K K} {n : Nat}
    (computed : Computed (exactOps K) state before n out)
    (rows : ∀ row < n, ∃ query key value queryOffset kvOffset, ∃ lo hi : Nat, lo < hi ∧
      state row = (exactOps K).attend query key value queryOffset kvOffset lo hi ∧
      tokens row = rowTokens scoreLog2 query key value queryOffset kvOffset lo hi) :
    Filled tokens before n out := by
  refine ⟨fun row hr c => ?_, fun row hr => ?_, computed.output_frame, computed.lse_frame⟩
  all_goals
    obtain ⟨query, key, value, queryOffset, kvOffset, lo, hi, h, hstate, htokens⟩ := rows row hr
    obtain ⟨mean, lse⟩ := natural_readout (attend_exact query key value queryOffset kvOffset h)
      (rowTokens_ne_nil _ kvOffset h)
    rw [rowTokens_toBase2, ← htokens] at mean lse
  · rw [computed.output row hr c c.isLt, hstate]
    exact mean c
  · rw [computed.lse row hr, hstate]
    exact lse

end Exact

end LoomKernels
