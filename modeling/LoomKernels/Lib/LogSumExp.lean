import Mathlib.Algebra.BigOperators.Group.List.Basic
import Mathlib.Tactic.Ring
import LoomKernels.Lib.ExactExp

/-!
# Log-sum-exp states

Softmax attention over a list of tokens needs two totals: the sum of the exponentials of the scores
(`expSum`) and, for each component, the sum of the values weighted by them (`weightedSum`). An
online algorithm keeps a state `(max, norm, acc)` instead: the totals divided by the exponential of
a reference score. `Summarises e s ts` says that the state `s` stands for the tokens `ts` under the
exponential `e`, whichever reference score it chose.

A state of one token (`summarises_singleton`), merging two states with any new reference
(`Summarises.merge`) and appending one token (`Summarises.snoc`) cover every online algorithm; what
is read out at the end depends on the tokens only (`Summarises.mean`, `Summarises.lse`).
-/

namespace LoomKernels

/-- A token's score for one query, and its value vector. -/
structure Token (K ι : Type) where
  score : K
  value : ι → K

/-- A running softmax: a reference score, the normalizer and the weighted values, both relative to
the reference. -/
structure SoftmaxState (K ι : Type) where
  max : K
  norm : K
  acc : ι → K

/-- The state with `f` applied to every entry. -/
def SoftmaxState.map {K L ι : Type} (f : K → L) (s : SoftmaxState K ι) : SoftmaxState L ι :=
  ⟨f s.max, f s.norm, fun c => f (s.acc c)⟩

/-! ## Totals -/

section Totals

variable {K ι : Type} [Field K]

/-- The sum of the exponentials of the scores. -/
def expSum (e : K → K) (ts : List (Token K ι)) : K := (ts.map fun t => e t.score).sum

/-- The sum of component `c` of the values, weighted by the exponentials of the scores. -/
def weightedSum (e : K → K) (ts : List (Token K ι)) (c : ι) : K :=
  (ts.map fun t => e t.score * t.value c).sum

@[simp] theorem expSum_nil (e : K → K) : expSum e ([] : List (Token K ι)) = 0 := rfl

@[simp] theorem weightedSum_nil (e : K → K) (c : ι) :
    weightedSum e ([] : List (Token K ι)) c = 0 := rfl

@[simp] theorem expSum_singleton (e : K → K) (t : Token K ι) : expSum e [t] = e t.score := by
  simp [expSum]

@[simp] theorem weightedSum_singleton (e : K → K) (t : Token K ι) (c : ι) :
    weightedSum e [t] c = e t.score * t.value c := by
  simp [weightedSum]

@[simp] theorem expSum_append (e : K → K) (ts us : List (Token K ι)) :
    expSum e (ts ++ us) = expSum e ts + expSum e us := by
  simp [expSum]

@[simp] theorem weightedSum_append (e : K → K) (ts us : List (Token K ι)) (c : ι) :
    weightedSum e (ts ++ us) c = weightedSum e ts c + weightedSum e us c := by
  simp [weightedSum]

variable [LinearOrder K] [IsStrictOrderedRing K]

theorem expSum_pos {e : K → K} (law : ExpLaw e) :
    ∀ {ts : List (Token K ι)}, ts ≠ [] → 0 < expSum e ts
  | [], h => absurd rfl h
  | [t], _ => by simpa using law.pos t.score
  | t :: u :: ts, _ => by
    have tail : 0 < expSum e (u :: ts) := expSum_pos law (by simp)
    have head : expSum e (t :: u :: ts) = e t.score + expSum e (u :: ts) := by simp [expSum]
    rw [head]
    exact add_pos (law.pos t.score) tail

end Totals

/-! ## Summaries -/

section Summaries

variable {K ι : Type} [Field K]

/-- The state stands for the tokens. -/
structure Summarises (e : K → K) (s : SoftmaxState K ι) (ts : List (Token K ι)) : Prop where
  norm : s.norm * e s.max = expSum e ts
  acc : ∀ c, s.acc c * e s.max = weightedSum e ts c

theorem summarises_singleton (e : K → K) (t : Token K ι) :
    Summarises e ⟨t.score, 1, t.value⟩ [t] :=
  ⟨by simp, fun c => by rw [weightedSum_singleton, mul_comm]⟩

variable [LinearOrder K] {e : K → K}

/-- The totals relative to any reference score are a state. -/
theorem summarises_relative (law : ExpLaw e) (ts : List (Token K ι)) (m : K) :
    Summarises e ⟨m, expSum (fun x => e (x - m)) ts, weightedSum (fun x => e (x - m)) ts⟩ ts := by
  refine ⟨?_, fun c => ?_⟩
  · simp only [expSum, ← List.sum_map_mul_right, law.sub_mul]
  · simp only [weightedSum, ← List.sum_map_mul_right, mul_right_comm _ _ (e m), law.sub_mul]

/-- Two states merge over any new reference score. -/
theorem Summarises.merge (law : ExpLaw e) {s t : SoftmaxState K ι} {ts us : List (Token K ι)}
    (hs : Summarises e s ts) (ht : Summarises e t us) (m : K) :
    Summarises e ⟨m, s.norm * e (s.max - m) + t.norm * e (t.max - m),
      fun c => s.acc c * e (s.max - m) + t.acc c * e (t.max - m)⟩ (ts ++ us) := by
  have join : ∀ x y, (x * e (s.max - m) + y * e (t.max - m)) * e m = x * e s.max + y * e t.max := by
    intro x y
    calc (x * e (s.max - m) + y * e (t.max - m)) * e m
        = x * (e (s.max - m) * e m) + y * (e (t.max - m) * e m) := by ring
      _ = x * e s.max + y * e t.max := by rw [law.sub_mul, law.sub_mul]
  refine ⟨?_, fun c => ?_⟩
  · rw [join, hs.norm, ht.norm, expSum_append]
  · rw [join, hs.acc, ht.acc, weightedSum_append]

/-- One more token, over any new reference score. -/
theorem Summarises.snoc (law : ExpLaw e) {s : SoftmaxState K ι} {ts : List (Token K ι)}
    (hs : Summarises e s ts) (t : Token K ι) (m : K) :
    Summarises e ⟨m, s.norm * e (s.max - m) + e (t.score - m),
      fun c => s.acc c * e (s.max - m) + t.value c * e (t.score - m)⟩ (ts ++ [t]) := by
  have merged := hs.merge law (summarises_singleton e t) m
  simpa only [one_mul] using merged

/-- The normalized value depends on the tokens only. -/
theorem Summarises.mean (law : ExpLaw e) {s : SoftmaxState K ι} {ts : List (Token K ι)}
    (hs : Summarises e s ts) (c : ι) : s.acc c / s.norm = weightedSum e ts c / expSum e ts := by
  rw [← hs.acc c, ← hs.norm, mul_div_mul_right _ _ (law.pos s.max).ne']

variable [IsStrictOrderedRing K]

theorem Summarises.norm_pos (law : ExpLaw e) {s : SoftmaxState K ι} {ts : List (Token K ι)}
    (hs : Summarises e s ts) (hts : ts ≠ []) : 0 < s.norm := by
  have total : 0 < s.norm * e s.max := hs.norm ▸ expSum_pos law hts
  exact pos_of_mul_pos_left total (law.pos s.max).le

variable [ExactExp K]

/-- The base-two log-sum-exp of a base-two state. -/
theorem Summarises.lse {s : SoftmaxState K ι} {ts : List (Token K ι)}
    (hs : Summarises ExactExp.exp2 s ts) (hts : ts ≠ []) :
    s.max + ExactExp.log2 s.norm = ExactExp.log2 (expSum ExactExp.exp2 ts) := by
  have pos := hs.norm_pos expLaw_exp2 hts
  calc s.max + ExactExp.log2 s.norm
      = ExactExp.log2 (ExactExp.exp2 (s.max + ExactExp.log2 s.norm)) :=
        (ExactExp.log2_exp2 _).symm
    _ = ExactExp.log2 (s.norm * ExactExp.exp2 s.max) := by
        rw [ExactExp.exp2_add, ExactExp.exp2_log2 _ pos, mul_comm]
    _ = ExactExp.log2 (expSum ExactExp.exp2 ts) := by rw [hs.norm]

end Summaries

/-! ## Change of base -/

section Base

variable {K ι : Type} [Field K] [LinearOrder K] [ExactExp K]

/-- The token with its score in base two. -/
def Token.toBase2 (t : Token K ι) : Token K ι := ⟨t.score * ExactExp.log2e, t.value⟩

theorem expSum_toBase2 (ts : List (Token K ι)) :
    expSum ExactExp.exp2 (ts.map Token.toBase2) = expSum ExactExp.exp ts := by
  simp [expSum, Token.toBase2, Function.comp_def, ExactExp.exp2_mul_log2e]

theorem weightedSum_toBase2 (ts : List (Token K ι)) (c : ι) :
    weightedSum ExactExp.exp2 (ts.map Token.toBase2) c = weightedSum ExactExp.exp ts c := by
  simp [weightedSum, Token.toBase2, Function.comp_def, ExactExp.exp2_mul_log2e]

/-- A base-`e` state stands for the same tokens with base-two scores, its reference converted. -/
theorem Summarises.toBase2 {s : SoftmaxState K ι} {ts : List (Token K ι)}
    (hs : Summarises ExactExp.exp s ts) :
    Summarises ExactExp.exp2 ⟨s.max * ExactExp.log2e, s.norm, s.acc⟩ (ts.map Token.toBase2) := by
  refine ⟨?_, fun c => ?_⟩
  · rw [ExactExp.exp2_mul_log2e, expSum_toBase2]
    exact hs.norm
  · rw [ExactExp.exp2_mul_log2e, weightedSum_toBase2]
    exact hs.acc c

end Base

/-! ## States with minus infinity -/

section Extended

variable {K ι : Type} [Field K] [LinearOrder K] [ExactExp K]

/-- The state of no tokens: nothing summed, the reference at minus infinity. -/
def SoftmaxState.empty : SoftmaxState (Ext K) ι := ⟨.negInf, .fin 0, fun _ => .fin 0⟩

/-- A state of extended values stands for the tokens: the empty state for no tokens, otherwise a
state all of whose entries are numbers. -/
def ExtSummarises (s : SoftmaxState (Ext K) ι) (ts : List (Token K ι)) : Prop :=
  (ts = [] ∧ s = SoftmaxState.empty) ∨
  (ts ≠ [] ∧ ∃ t : SoftmaxState K ι, s = t.map Ext.fin ∧ Summarises ExactExp.exp2 t ts)

theorem extSummarises_empty : ExtSummarises (SoftmaxState.empty : SoftmaxState (Ext K) ι) [] :=
  Or.inl ⟨rfl, rfl⟩

theorem extSummarises_singleton (t : Token K ι) :
    ExtSummarises (⟨.fin t.score, .fin 1, fun c => .fin (t.value c)⟩ : SoftmaxState (Ext K) ι)
      [t] :=
  Or.inr ⟨by simp, ⟨t.score, 1, t.value⟩, rfl, summarises_singleton _ t⟩

/-- The merge of two extended states, as a program computes it. -/
def SoftmaxState.extMerge (s t : SoftmaxState (Ext K) ι) : SoftmaxState (Ext K) ι :=
  let next := Ext.max s.max t.max
  let ws := Ext.ex2 (Ext.sub s.max next)
  let wt := Ext.ex2 (Ext.sub t.max next)
  ⟨next, Ext.add (Ext.mul s.norm ws) (Ext.mul t.norm wt),
    fun c => Ext.add (Ext.mul (t.acc c) wt) (Ext.mul (s.acc c) ws)⟩

/-- Merging is sound unless both sides are empty, when it is `-∞ - -∞`. -/
theorem ExtSummarises.merge {s t : SoftmaxState (Ext K) ι} {ts us : List (Token K ι)}
    (hs : ExtSummarises s ts) (ht : ExtSummarises t us) (some : ts ≠ [] ∨ us ≠ []) :
    ExtSummarises (s.extMerge t) (ts ++ us) := by
  have one : ExactExp.exp2 (0 : K) = 1 := expLaw_exp2.zero
  rcases hs with ⟨rfl, rfl⟩ | ⟨hts, s, rfl, hs⟩
  · rcases ht with ⟨rfl, rfl⟩ | ⟨hus, t, rfl, ht⟩
    · exact absurd some (by simp)
    · refine Or.inr ⟨by simpa using hus, t, ?_, by simpa using ht⟩
      simp [SoftmaxState.extMerge, SoftmaxState.empty, SoftmaxState.map, one]
  · rcases ht with ⟨rfl, rfl⟩ | ⟨hus, t, rfl, ht⟩
    · refine Or.inr ⟨by simpa using hts, s, ?_, by simpa using hs⟩
      simp [SoftmaxState.extMerge, SoftmaxState.empty, SoftmaxState.map, one]
    · refine Or.inr ⟨by simp [hts], _, ?_, hs.merge expLaw_exp2 ht (Max.max s.max t.max)⟩
      simp [SoftmaxState.extMerge, SoftmaxState.map, add_comm]

variable [IsStrictOrderedRing K]

theorem ExtSummarises.norm_eq_zero {s : SoftmaxState (Ext K) ι} {ts : List (Token K ι)}
    (hs : ExtSummarises s ts) : Ext.isZero s.norm = true ↔ ts = [] := by
  rcases hs with ⟨rfl, rfl⟩ | ⟨hts, t, rfl, hs⟩
  · simp [SoftmaxState.empty]
  · simp [SoftmaxState.map, hts, (hs.norm_pos expLaw_exp2 hts).ne']

/-- The factor by which a program scales a state when the reference moves to `next`: zero for a
state without tokens, whose reference is minus infinity. -/
def SoftmaxState.rescale (s : SoftmaxState (Ext K) ι) (next : Ext K) : Ext K :=
  if Ext.isZero s.norm then .fin 0 else Ext.ex2 (Ext.sub s.max next)

/-- A state takes in a list of tokens, whose totals are relative to the new reference. -/
theorem ExtSummarises.append {s : SoftmaxState (Ext K) ι} {ts : List (Token K ι)}
    (hs : ExtSummarises s ts) (us : List (Token K ι)) {next : Ext K} (m : K)
    (empty : ts = [] → us = [] → next = .negInf) (some : ts ≠ [] ∨ us ≠ [] → next = .fin m) :
    ExtSummarises (⟨next,
      Ext.add (Ext.mul s.norm (s.rescale next))
        (.fin (expSum (fun x => ExactExp.exp2 (x - m)) us)),
      fun c => Ext.add (Ext.mul (s.acc c) (s.rescale next))
        (.fin (weightedSum (fun x => ExactExp.exp2 (x - m)) us c))⟩ : SoftmaxState (Ext K) ι)
      (ts ++ us) := by
  rcases hs with ⟨rfl, rfl⟩ | ⟨hts, t, rfl, hs⟩
  · have scale : (SoftmaxState.empty : SoftmaxState (Ext K) ι).rescale next = .fin 0 := by
      simp [SoftmaxState.rescale, SoftmaxState.empty]
    by_cases hus : us = []
    · subst hus
      refine Or.inl ⟨rfl, ?_⟩
      rw [scale, empty rfl rfl]
      simp [SoftmaxState.empty]
    · refine Or.inr ⟨by simpa using hus, _, ?_, summarises_relative expLaw_exp2 us m⟩
      rw [scale, some (Or.inr hus)]
      simp [SoftmaxState.empty, SoftmaxState.map]
  · have norm_ne : t.norm ≠ 0 := (hs.norm_pos expLaw_exp2 hts).ne'
    have scale : (t.map Ext.fin).rescale next = .fin (ExactExp.exp2 (t.max - m)) := by
      simp [SoftmaxState.rescale, SoftmaxState.map, norm_ne, some (Or.inl hts)]
    have merged := hs.merge expLaw_exp2 (summarises_relative expLaw_exp2 us m) m
    refine Or.inr ⟨by simp [hts], _, ?_, merged⟩
    rw [scale, some (Or.inl hts)]
    simp [SoftmaxState.map, expLaw_exp2.zero]

/-- Reading out a state of at least one token gives valid numbers that depend on the tokens
only. -/
theorem ExtSummarises.readout {s : SoftmaxState (Ext K) ι} {ts : List (Token K ι)}
    (hs : ExtSummarises s ts) (hts : ts ≠ []) :
    (∀ c, Ext.mul (s.acc c) (Ext.div (.fin 1) s.norm) =
      .fin (weightedSum ExactExp.exp2 ts c / expSum ExactExp.exp2 ts)) ∧
    Ext.add s.max (Ext.lg2 s.norm) = .fin (ExactExp.log2 (expSum ExactExp.exp2 ts)) := by
  rcases hs with ⟨rfl, -⟩ | ⟨-, s, rfl, hs⟩
  · exact absurd rfl hts
  · have pos := hs.norm_pos expLaw_exp2 hts
    refine ⟨fun c => ?_, ?_⟩
    · simp only [SoftmaxState.map, Ext.div_fin _ pos.ne', Ext.mul_fin]
      rw [← hs.mean expLaw_exp2 c, mul_one_div]
    · simp only [SoftmaxState.map, Ext.lg2_fin pos, Ext.add_fin]
      rw [hs.lse hts]

end Extended

end LoomKernels
