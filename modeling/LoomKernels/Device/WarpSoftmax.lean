import LoomKernels.Device.Machine
import LoomKernels.Host.AttentionRow

/-!
# Softmax on a warp

The attention kernels share the code of this module. A warp keeps one softmax state in the
registers of its lanes: lane `l` holds the components of the packed pairs `l` and `l + 32` of the
head (`laneComponent`), and lane zero holds the maximum and the normalizer. `tokenLoop` is the
online softmax over the tokens of a warp, `mergeStates` one step of the log-sum-exp merge in base
two, and a state that leaves its warp is stored as 130 numbers (`storeState`, `loadState`).

The operations are a parameter. `extOps K` reads them as exact arithmetic with minus infinity, in
which a difference without a value, such as `-∞ - -∞`, is a fault of the thread.
-/

namespace LoomKernels

/-- The component of a head in register `slot` of a lane. -/
def laneComponent (lane slot : Nat) : Nat := 2 * (lane + warpThreads * (slot / 2)) + slot % 2

/-! ## Operations -/

/-- The `f32` and `bf16` operations of the kernels. `indeterminate a b` tells the differences
`a - b` that have no value, `warpSum` adds the lanes of a warp, in whatever order the hardware does,
and `zeroBits` is the `bf16` whose bits are zero. -/
structure DeviceOps (F B : Type) where
  zero : F
  one : F
  negInf : F
  add : F → F → F
  sub : F → F → F
  mul : F → F → F
  div : F → F → F
  fma : F → F → F → F
  max : F → F → F
  ex2 : F → F
  lg2 : F → F
  isZero : F → Bool
  isNegInf : F → Bool
  indeterminate : F → F → Bool
  warpSum : (Fin warpThreads → F) → F
  zeroBits : B
  toF32 : B → F
  fromF32 : F → B

/-- Exact arithmetic with minus infinity. -/
def extOps (K : Type) [Field K] [LinearOrder K] [ExactExp K] : DeviceOps (Ext K) (Ext K) where
  zero := .fin 0
  one := .fin 1
  negInf := .negInf
  add := Ext.add
  sub := Ext.sub
  mul := Ext.mul
  div := Ext.div
  fma a b c := Ext.add (Ext.mul a b) c
  max := Ext.max
  ex2 := Ext.ex2
  lg2 := Ext.lg2
  isZero := Ext.isZero
  isNegInf := Ext.isNegInf
  indeterminate a b := (Ext.sub a b).isNan
  warpSum lanes := (List.ofFn lanes).foldl Ext.add (.fin 0)
  zeroBits := .fin 0
  toF32 := id
  fromF32 := id

namespace DeviceOps

variable {F B : Type} (ops : DeviceOps F B)

/-- `a - b` -/
def difference (a b : F) : DeviceM F :=
  if ops.indeterminate a b then .error .indeterminate else .ok (ops.sub a b)

/-- `float::ex2_approx_f32(a - b)` -/
def ex2Difference (a b : F) : DeviceM F := do
  return ops.ex2 (← ops.difference a b)

/-- The operations of hardware, where every difference has a value. -/
def total : DeviceOps F B := { ops with indeterminate := fun _ _ => false }

/-! ## Tokens -/

/-- One lane's part of the dot product of a query head and a key head. -/
def laneDot (query key : Nat → B) (queryOffset kvOffset lane : Nat) : F :=
  forRange 0 4
    (fun slot dot =>
      ops.fma (ops.toF32 (query (queryOffset + laneComponent lane slot)))
        (ops.toF32 (key (kvOffset + laneComponent lane slot))) dot)
    ops.zero

/-- `warp::reduce_sum_f32(value)` -/
def reduceSum (value : Nat → F) : F := ops.warpSum fun lane => value lane

/-- One token of the online softmax. Lane zero computes the two weights and hands them to the other
lanes; the first token sets the state. -/
def tokenStep (first : Bool) (score : F) (value : Nat → F) (s : SoftmaxState F Nat) :
    DeviceM (SoftmaxState F Nat) :=
  if first then
    .ok ⟨score, ops.one, fun c => ops.fma (value c) ops.one (ops.mul (s.acc c) ops.zero)⟩
  else do
    let nextMax := ops.max s.max score
    let previousWeight ← ops.ex2Difference s.max nextMax
    let currentWeight ← ops.ex2Difference score nextMax
    return ⟨nextMax, ops.add (ops.mul s.norm previousWeight) currentWeight,
      fun c => ops.fma (value c) currentWeight (ops.mul (s.acc c) previousWeight)⟩

/-- The token loop of one warp. `kvOffset` finds a token's key and value. -/
def tokenLoop (scaleLog2 initMax : F) (query key value : Nat → B) (queryOffset : Nat)
    (kvOffset : Nat → DeviceM Nat) (lo hi : Nat) : DeviceM (SoftmaxState F Nat) :=
  forRangeM lo hi
    (fun token s => do
      let offset ← kvOffset token
      let score := ops.mul (ops.reduceSum (ops.laneDot query key queryOffset offset)) scaleLog2
      ops.tokenStep (token == lo) score (fun c => ops.toF32 (value (offset + c))) s)
    ⟨initMax, ops.zero, fun _ => ops.zero⟩

/-- A token loop looks up the tokens of its range only. -/
theorem tokenLoop_congr (scaleLog2 initMax : F) (query key value : Nat → B) (queryOffset : Nat)
    {kvOffset kvOffset' : Nat → DeviceM Nat} {lo hi : Nat}
    (same : ∀ token, lo ≤ token → token < hi → kvOffset token = kvOffset' token) :
    ops.tokenLoop scaleLog2 initMax query key value queryOffset kvOffset lo hi =
      ops.tokenLoop scaleLog2 initMax query key value queryOffset kvOffset' lo hi := by
  refine forRangeM_congr _ fun token s hlo hhi => ?_
  rw [same token hlo hhi]

/-! ## Merging -/

/-- The merge of two states in base two. -/
def mergeStates (s t : SoftmaxState F Nat) : DeviceM (SoftmaxState F Nat) := do
  let nextMax := ops.max s.max t.max
  let mergedWeight ← ops.ex2Difference s.max nextMax
  let weight ← ops.ex2Difference t.max nextMax
  return ⟨nextMax, ops.add (ops.mul s.norm mergedWeight) (ops.mul t.norm weight),
    fun c => ops.fma (t.acc c) weight (ops.mul (s.acc c) mergedWeight)⟩

/-- The merge of the prefill kernels: a state without tokens is skipped, and the first other state
is copied. -/
def mergeNonempty (s t : SoftmaxState F Nat) : DeviceM (SoftmaxState F Nat) :=
  if ops.isZero t.norm then .ok s
  else if ops.isZero s.norm then .ok t
  else ops.mergeStates s t

/-- The merge of the paged decode kernel: the state of the first warp is copied, and another
state without tokens is skipped. -/
def mergeAfterFirst (first : Bool) (s t : SoftmaxState F Nat) : DeviceM (SoftmaxState F Nat) :=
  if first then .ok t
  else if ops.isZero t.norm then .ok s
  else ops.mergeStates s t

/-- The merge of the split-K kernel: no state is without tokens. -/
def mergeEvery (first : Bool) (s t : SoftmaxState F Nat) : DeviceM (SoftmaxState F Nat) :=
  if first then .ok t else ops.mergeStates s t

end DeviceOps

/-! ## Stores -/

section Stores

variable {F B : Type}

/-- What one lane stores of a state at `offset`: its components, and lane zero the header. -/
def storeState (offset : Nat) (s : SoftmaxState F Nat) (lane : Nat) : List (Nat × F) :=
  (if lane = 0 then [(offset, s.max), (offset + 1, s.norm)] else []) ++
    (List.range 4).map fun slot =>
      (offset + 2 + laneComponent lane slot, s.acc (laneComponent lane slot))

/-- The state stored at `offset`. -/
def loadState (mem : Nat → F) (offset : Nat) : SoftmaxState F Nat :=
  ⟨mem offset, mem (offset + 1), fun c => mem (offset + 2 + c)⟩

/-- The writes of a thread to the two results. -/
structure AttentionWrites (F B : Type) where
  output : List (Nat × B)
  lse : List (Nat × F)

/-- What one lane writes of a row of results: its components, and lane zero the log-sum-exp. -/
def rowResult (row : Nat) (output : Nat → B) (lse : F) (lane : Nat) : AttentionWrites F B where
  output := (List.range 4).map fun slot =>
    (row * singleDecodeHeadDim + laneComponent lane slot, output (laneComponent lane slot))
  lse := if lane = 0 then [(row, lse)] else []

/-- What one lane writes of the result of row `row`. -/
def DeviceOps.storeResult (ops : DeviceOps F B) (row : Nat) (s : SoftmaxState F Nat) (lane : Nat) :
    AttentionWrites F B :=
  rowResult row (fun c => ops.fromF32 (ops.mul (s.acc c) (ops.div ops.one s.norm)))
    (ops.add s.max (ops.lg2 s.norm)) lane

end Stores

/-! ## The lanes of a warp -/

theorem laneComponent_lt {lane slot : Nat} (hl : lane < warpThreads) (hs : slot < 4) :
    laneComponent lane slot < singleDecodeHeadDim := by
  simp only [laneComponent, warpThreads, singleDecodeHeadDim] at *
  omega

theorem exists_laneComponent {c : Nat} (hc : c < singleDecodeHeadDim) :
    ∃ lane < warpThreads, ∃ slot < 4, laneComponent lane slot = c := by
  simp only [laneComponent, warpThreads, singleDecodeHeadDim] at *
  exact ⟨c % 64 / 2, by omega, c / 64 * 2 + c % 2, by omega, by omega⟩

/-- The lanes' parts of a sum make up the sum over a head. -/
theorem sum_laneComponent {M : Type} [AddCommMonoid M] (f : Nat → M) :
    ∑ lane ∈ Finset.range 32, ∑ slot ∈ Finset.range 4, f (laneComponent lane slot) =
      ∑ c ∈ Finset.range 128, f c := by
  rw [← Finset.sum_product']
  refine Finset.sum_nbij' (fun p => laneComponent p.1 p.2)
    (fun c => (c % 64 / 2, c / 64 * 2 + c % 2)) ?_ ?_ ?_ ?_ fun _ _ => rfl
  · simp only [Finset.mem_product, Finset.mem_range]
    exact fun p hp => laneComponent_lt hp.1 hp.2
  · simp only [Finset.mem_product, Finset.mem_range]
    omega
  · simp only [Finset.mem_product, Finset.mem_range, laneComponent, warpThreads]
    rintro ⟨lane, slot⟩ ⟨hl, hs⟩
    ext <;> simp only <;> omega
  · simp only [Finset.mem_range, laneComponent, warpThreads]
    omega

/-! ## Exact arithmetic -/

section Exact

variable {K : Type} [Field K] [LinearOrder K] [ExactExp K]

/-- `softmax_scale() * LOG2_E`, the factor from a dot product to a base-two score. -/
def scaleLog2 (K : Type) [Field K] [LinearOrder K] [ExactExp K] : K :=
  (exactOps K).softmaxScale * ExactExp.log2e

theorem mul_scaleLog2 (dot : K) : dot * scaleLog2 K = scoreLog2 dot := (mul_assoc _ _ _).symm

/-- An array of numbers, as the device holds it. -/
def finArray (f : Nat → K) (i : Nat) : Ext K := .fin (f i)

@[simp] theorem ex2Difference_fin (x y : K) :
    (extOps K).ex2Difference (.fin x) (.fin y) = .ok (.fin (ExactExp.exp2 (x - y))) := rfl

@[simp] theorem ex2Difference_negInf_fin (y : K) :
    (extOps K).ex2Difference .negInf (.fin y) = .ok (.fin 0) := rfl

-- the difference that no kernel may form
example : (extOps K).difference .negInf .negInf = .error .indeterminate := rfl

omit [LinearOrder K] [ExactExp K] in
theorem foldl_add_fin (xs : List K) (start : K) :
    (xs.map Ext.fin).foldl Ext.add (.fin start) = .fin (start + xs.sum) := by
  induction xs generalizing start with
  | nil => rw [List.sum_nil, add_zero, List.map_nil, List.foldl_nil]
  | cons x xs ih => rw [List.sum_cons, ← add_assoc, ← ih, List.map_cons, List.foldl_cons]; rfl

theorem reduceSum_exact {value : Nat → Ext K} {f : Nat → K} (h : ∀ lane, value lane = .fin (f lane)) :
    (extOps K).reduceSum value = .fin (∑ lane ∈ Finset.range 32, f lane) := by
  have lanes : List.ofFn (fun lane : Fin warpThreads => value lane) =
      (List.ofFn fun lane : Fin warpThreads => f lane).map Ext.fin := by
    rw [List.map_ofFn]
    exact congrArg List.ofFn (funext fun lane => h lane)
  have sum := foldl_add_fin (List.ofFn fun lane : Fin warpThreads => f lane) 0
  rw [← lanes, zero_add, List.sum_ofFn, ← Finset.sum_range f] at sum
  exact sum

theorem laneDot_exact (query key : Nat → K) (queryOffset kvOffset lane : Nat) :
    (extOps K).laneDot (finArray query) (finArray key) queryOffset kvOffset lane =
      .fin (∑ slot ∈ Finset.range 4, query (queryOffset + laneComponent lane slot) *
        key (kvOffset + laneComponent lane slot)) := by
  refine forRange_invariant
    (P := fun n (sum : Ext K) => sum = .fin (∑ slot ∈ Finset.range n,
      query (queryOffset + laneComponent lane slot) * key (kvOffset + laneComponent lane slot)))
    (Nat.zero_le _) rfl ?_
  rintro slot _ _ _ rfl
  rw [Finset.sum_range_succ]
  exact congrArg Ext.fin (add_comm _ _)

/-- The lanes together compute the score of the token. -/
theorem score_exact (query key : Nat → K) (queryOffset kvOffset : Nat) :
    (extOps K).mul ((extOps K).reduceSum
        ((extOps K).laneDot (finArray query) (finArray key) queryOffset kvOffset))
        (.fin (scaleLog2 K)) =
      .fin (scoreLog2 (headDot query key queryOffset kvOffset)) := by
  rw [reduceSum_exact (laneDot_exact query key queryOffset kvOffset),
    sum_laneComponent fun c => query (queryOffset + c) * key (kvOffset + c), ← mul_scaleLog2]
  rfl

/-! ### Steps -/

variable {s t : SoftmaxState (Ext K) Nat} {ts us : List (Token K (Fin 128))}

/-- The reference of a state is minus infinity exactly when the state has no tokens. -/
theorem ExtSummarises.max_cases {ι : Type} {s : SoftmaxState (Ext K) ι} {ts : List (Token K ι)}
    (hs : ExtSummarises s ts) : (ts = [] ∧ s.max = .negInf) ∨ (ts ≠ [] ∧ ∃ x, s.max = .fin x) := by
  rcases hs with ⟨rfl, rfl⟩ | ⟨hts, t, rfl, -⟩
  · exact Or.inl ⟨rfl, rfl⟩
  · exact Or.inr ⟨hts, t.max, rfl⟩

/-- A difference with a value. -/
theorem ex2Difference_ok {a b : Ext K} (h : (Ext.sub a b).isNan = false) :
    (extOps K).ex2Difference a b = .ok (Ext.ex2 (Ext.sub a b)) := by
  rw [DeviceOps.ex2Difference, DeviceOps.difference]
  exact (congrArg (· >>= _) (if_neg (by simp [extOps, h]))).trans rfl

/-- The first token of a warp. -/
theorem tokenStep_first (score : K) (value : Nat → K) (zero : ∀ c, s.acc c = .fin 0) :
    ∃ s', (extOps K).tokenStep true (.fin score) (finArray value) s = .ok s' ∧
      ExtSummarises s'.restrict [⟨score, fun c => value c⟩] := by
  refine ⟨_, rfl, ?_⟩
  have acc : ∀ c, Ext.add (Ext.mul (finArray value c) (.fin 1)) (Ext.mul (s.acc c) (.fin 0)) =
      .fin (value c) := fun c => by simp [finArray, zero]
  simp only [SoftmaxState.restrict, extOps, acc]
  exact extSummarises_singleton (⟨score, fun c => value c⟩ : Token K (Fin 128))

/-- The state of one token. -/
def tokenState (score : K) (value : Nat → K) : SoftmaxState (Ext K) Nat :=
  ⟨.fin score, .fin 1, finArray value⟩

theorem tokenState_summarises (score : K) (value : Nat → K) :
    ExtSummarises (tokenState score value).restrict
      [(⟨score, fun c => value c⟩ : Token K (Fin 128))] :=
  extSummarises_singleton _

/-- Two states, one of them with a token, meet no invalid difference. -/
theorem ExtSummarises.differences_valid (hs : ExtSummarises s.restrict ts)
    (ht : ExtSummarises t.restrict us) (some : ts ≠ [] ∨ us ≠ []) :
    (Ext.sub s.max (Ext.max s.max t.max)).isNan = false ∧
      (Ext.sub t.max (Ext.max s.max t.max)).isNan = false := by
  have left : (ts = [] ∧ s.max = .negInf) ∨ (ts ≠ [] ∧ ∃ x, s.max = .fin x) := hs.max_cases
  have right : (us = [] ∧ t.max = .negInf) ∨ (us ≠ [] ∧ ∃ x, t.max = .fin x) := ht.max_cases
  rcases left with ⟨rfl, hmax⟩ | ⟨-, x, hmax⟩ <;> rcases right with ⟨rfl, hmax'⟩ | ⟨-, y, hmax'⟩ <;>
    rw [hmax, hmax']
  · exact absurd some (by simp)
  · exact ⟨rfl, rfl⟩
  · exact ⟨rfl, rfl⟩
  · exact ⟨rfl, rfl⟩

/-- Merging two states, one of them with a token. -/
theorem mergeStates_exact (hs : ExtSummarises s.restrict ts) (ht : ExtSummarises t.restrict us)
    (some : ts ≠ [] ∨ us ≠ []) :
    ∃ m, (extOps K).mergeStates s t = .ok m ∧ ExtSummarises m.restrict (ts ++ us) := by
  obtain ⟨left, right⟩ := hs.differences_valid ht some
  refine ⟨s.extMerge t, ?_, hs.merge ht some⟩
  have merged : (extOps K).ex2Difference s.max ((extOps K).max s.max t.max) = _ :=
    ex2Difference_ok left
  have weight : (extOps K).ex2Difference t.max ((extOps K).max s.max t.max) = _ :=
    ex2Difference_ok right
  rw [DeviceOps.mergeStates, merged, weight]
  rfl

/-- A later token. -/
theorem tokenStep_next (hs : ExtSummarises s.restrict ts) (hts : ts ≠ []) (score : K)
    (value : Nat → K) :
    ∃ s', (extOps K).tokenStep false (.fin score) (finArray value) s = .ok s' ∧
      ExtSummarises s'.restrict (ts ++ [⟨score, fun c => value c⟩]) := by
  have token := tokenState_summarises score value
  obtain ⟨left, right⟩ := hs.differences_valid token (Or.inl hts)
  refine ⟨s.extMerge (tokenState score value), ?_, hs.merge token (Or.inl hts)⟩
  have previous : (extOps K).ex2Difference s.max ((extOps K).max s.max (.fin score)) = _ :=
    ex2Difference_ok left
  have current : (extOps K).ex2Difference (.fin score) ((extOps K).max s.max (.fin score)) = _ :=
    ex2Difference_ok right
  rw [DeviceOps.tokenStep, if_neg (by simp)]
  dsimp only
  rw [previous, current, SoftmaxState.extMerge, tokenState, Ext.one_mul_ex2]
  rfl

/-- The token loop of a warp whose tokens are found. Without tokens it leaves the initial state. -/
theorem tokenLoop_exact (query key value : Nat → K) (queryOffset : Nat) (initMax : Ext K)
    {kvOffset : Nat → DeviceM Nat} {off : Nat → Nat} {lo hi : Nat} (h : lo ≤ hi)
    (offsets : ∀ t, lo ≤ t → t < hi → kvOffset t = .ok (off t)) :
    ∃ s, (extOps K).tokenLoop (.fin (scaleLog2 K)) initMax (finArray query) (finArray key)
        (finArray value) queryOffset kvOffset lo hi = .ok s ∧
      (hi = lo → s = ⟨initMax, .fin 0, fun _ => .fin 0⟩) ∧
      (lo < hi → ExtSummarises s.restrict
        (rowTokens scoreLog2 query key value queryOffset off lo hi)) := by
  refine forRangeM_invariant
    (P := fun n s => (n = lo → s = (⟨initMax, .fin 0, fun _ => .fin 0⟩ : SoftmaxState (Ext K) Nat)) ∧
      (lo < n → ExtSummarises s.restrict
        (rowTokens scoreLog2 query key value queryOffset off lo n)))
    h ⟨fun _ => rfl, fun hlt => absurd hlt (Nat.lt_irrefl _)⟩ ?_
  intro t s hlo hhi ⟨start, nonempty⟩
  rw [offsets t hlo hhi, ok_bind, score_exact, rowTokens_succ _ _ hlo]
  rcases Nat.eq_or_lt_of_le hlo with rfl | hlt
  · obtain ⟨s', hs', sum⟩ := tokenStep_first (s := s) (scoreLog2 (headDot query key queryOffset
      (off lo))) (fun c => value (off lo + c)) fun c => by rw [start rfl]
    refine ⟨s', by rw [beq_self_eq_true]; exact hs', fun h => by omega, fun _ => ?_⟩
    rw [rowTokens_self, List.nil_append]
    exact sum
  · obtain ⟨s', hs', sum⟩ := tokenStep_next (nonempty hlt) (rowTokens_ne_nil _ _ hlt)
      (scoreLog2 (headDot query key queryOffset (off t))) fun c => value (off t + c)
    refine ⟨s', ?_, fun h => by omega, fun _ => sum⟩
    rw [beq_eq_false_iff_ne.mpr hlt.ne']
    exact hs'

/-- A token loop that starts at minus infinity, also over no tokens. -/
theorem tokenLoop_negInf (query key value : Nat → K) (queryOffset : Nat)
    {kvOffset : Nat → DeviceM Nat} {off : Nat → Nat} {lo hi : Nat} (h : lo ≤ hi)
    (offsets : ∀ t, lo ≤ t → t < hi → kvOffset t = .ok (off t)) :
    ∃ s, (extOps K).tokenLoop (.fin (scaleLog2 K)) .negInf (finArray query) (finArray key)
        (finArray value) queryOffset kvOffset lo hi = .ok s ∧
      ExtSummarises s.restrict (rowTokens scoreLog2 query key value queryOffset off lo hi) := by
  obtain ⟨s, hs, start, nonempty⟩ := tokenLoop_exact query key value queryOffset .negInf h offsets
  refine ⟨s, hs, ?_⟩
  rcases Nat.eq_or_lt_of_le h with rfl | hlt
  · rw [start rfl, rowTokens_self]
    exact extSummarises_empty
  · exact nonempty hlt

variable [IsStrictOrderedRing K]

theorem mergeNonempty_exact (hs : ExtSummarises s.restrict ts) (ht : ExtSummarises t.restrict us) :
    ∃ m, (extOps K).mergeNonempty s t = .ok m ∧ ExtSummarises m.restrict (ts ++ us) := by
  have left : (extOps K).isZero s.norm = true ↔ ts = [] := hs.norm_eq_zero
  have right : (extOps K).isZero t.norm = true ↔ us = [] := ht.norm_eq_zero
  unfold DeviceOps.mergeNonempty
  split
  · rename_i empty
    exact ⟨s, rfl, by rwa [right.mp empty, List.append_nil]⟩
  · rename_i some
    split
    · rename_i empty
      exact ⟨t, rfl, by rwa [left.mp empty, List.nil_append]⟩
    · exact mergeStates_exact hs ht (Or.inr fun h => some (right.mpr h))

theorem mergeAfterFirst_exact (hs : ExtSummarises s.restrict ts)
    (ht : ExtSummarises t.restrict us) :
    ∃ m, (extOps K).mergeAfterFirst false s t = .ok m ∧ ExtSummarises m.restrict (ts ++ us) := by
  have right : (extOps K).isZero t.norm = true ↔ us = [] := ht.norm_eq_zero
  rw [DeviceOps.mergeAfterFirst, if_neg (by simp)]
  split
  · rename_i empty
    exact ⟨s, rfl, by rwa [right.mp empty, List.append_nil]⟩
  · rename_i some
    exact mergeStates_exact hs ht (Or.inr fun h => some (right.mpr h))

/-- What a lane writes of a row with tokens. -/
def resultWrites (row : Nat) (ts : List (Token K (Fin 128))) (lane : Nat) :
    AttentionWrites (Ext K) (Ext K) :=
  rowResult row (fun c => .fin (attentionMean ts (Fin.ofNat 128 c))) (.fin (attentionLse ts)) lane

theorem storeResult_exact (hs : ExtSummarises s.restrict ts) (hts : ts ≠ []) (row : Nat) {lane : Nat}
    (hl : lane < warpThreads) : (extOps K).storeResult row s lane = resultWrites row ts lane := by
  obtain ⟨mean, lse⟩ := hs.readout hts
  have output : ∀ c < 128, Ext.mul (s.acc c) (Ext.div (.fin 1) s.norm) =
      .fin (attentionMean ts (Fin.ofNat 128 c)) := by
    intro c hc
    have := mean (Fin.ofNat 128 c)
    simpa [SoftmaxState.restrict, attentionMean, Nat.mod_eq_of_lt hc] using this
  have lse : Ext.add s.max (Ext.lg2 s.norm) = .fin (attentionLse ts) := lse
  simp only [DeviceOps.storeResult, resultWrites, rowResult, extOps, lse, id]
  congr 1
  refine List.map_congr_left fun slot hslot => ?_
  rw [output _ (laneComponent_lt hl (List.mem_range.mp hslot))]

end Exact

end LoomKernels
