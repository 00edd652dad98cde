import Mathlib.Data.List.Basic
import Mathlib.Data.List.Range
import Mathlib.Algebra.BigOperators.Group.List.Basic

/-!
# Counted loops

A program's `for i in lo..hi` is a fold over the index list `lo, lo + 1, …, hi - 1`. This module
gives the three shapes such loops take and one rule for each:

* `forRange`, a loop over a state: an invariant indexed by the counter (`forRange_invariant`);
* `forRangeM`, a loop whose body may fail: an invariant under which every pass succeeds
  (`forRangeM_invariant`), one for a loop known to have succeeded (`forRangeM_partial`), and a
  check loop succeeds exactly when every pass does (`checkRange_ok_iff`);
* `strided`, the indices `start, start + step, …` below a bound, which one of several workers
  scans: together the workers meet every index (`exists_mem_strided`).
-/

namespace LoomKernels

/-! ## Loops over a state -/

section Pure

variable {σ : Type}

/-- `for i in lo..hi { state = body i state }`. -/
def forRange (lo hi : Nat) (body : Nat → σ → σ) (state : σ) : σ :=
  (List.range' lo (hi - lo)).foldl (fun s i => body i s) state

@[simp] theorem forRange_self (lo : Nat) (body : Nat → σ → σ) (state : σ) :
    forRange lo lo body state = state := by
  simp [forRange]

theorem forRange_of_le {lo hi : Nat} (h : hi ≤ lo) (body : Nat → σ → σ) (state : σ) :
    forRange lo hi body state = state := by
  simp [forRange, Nat.sub_eq_zero_of_le h]

/-- The last pass of a loop. -/
theorem forRange_succ {lo hi : Nat} (h : lo ≤ hi) (body : Nat → σ → σ) (state : σ) :
    forRange lo (hi + 1) body state = body hi (forRange lo hi body state) := by
  have hlen : hi + 1 - lo = (hi - lo) + 1 := by omega
  have hlast : lo + 1 * (hi - lo) = hi := by omega
  rw [forRange, forRange, hlen, List.range'_concat, List.foldl_append, hlast]
  rfl

/-- The invariant rule: what holds before the loop and is kept by each pass holds after it. -/
theorem forRange_invariant {P : Nat → σ → Prop} {lo hi : Nat} {body : Nat → σ → σ} {state : σ}
    (h : lo ≤ hi) (init : P lo state)
    (pass : ∀ i s, lo ≤ i → i < hi → P i s → P (i + 1) (body i s)) :
    P hi (forRange lo hi body state) := by
  induction hi, h using Nat.le_induction with
  | base => simpa using init
  | succ hi h ih =>
    rw [forRange_succ h]
    exact pass hi _ h (Nat.lt_succ_self hi)
      (ih fun i s hl hi' hp => pass i s hl (Nat.lt_succ_of_lt hi') hp)

/-- Two loops whose passes agree on every counter of the range agree. -/
theorem forRange_congr {lo hi : Nat} {body body' : Nat → σ → σ} (state : σ)
    (h : ∀ i s, lo ≤ i → i < hi → body i s = body' i s) :
    forRange lo hi body state = forRange lo hi body' state := by
  rcases Nat.le_total hi lo with hle | hle
  · rw [forRange_of_le hle, forRange_of_le hle]
  · refine forRange_invariant (P := fun i s => s = forRange lo i body' state) hle (by simp) ?_
    rintro i s hl hi' rfl
    rw [forRange_succ hl, h i _ hl hi']

/-- Two loops of the same number of passes, wherever they start, keep a relation that every pair of
passes keeps. -/
theorem forRange_lockstep {τ : Type} {R : σ → τ → Prop} {lo lo' n : Nat} {body : Nat → σ → σ}
    {body' : Nat → τ → τ} {state : σ} {state' : τ} (init : R state state')
    (pass : ∀ i < n, ∀ s s', R s s' → R (body (lo + i) s) (body' (lo' + i) s')) :
    R (forRange lo (lo + n) body state) (forRange lo' (lo' + n) body' state') := by
  induction n with
  | zero => simpa using init
  | succ n ih =>
    rw [← Nat.add_assoc, ← Nat.add_assoc, forRange_succ (Nat.le_add_right lo n),
      forRange_succ (Nat.le_add_right lo' n)]
    exact pass n (Nat.lt_succ_self n) _ _ (ih fun i hi => pass i (Nat.lt_succ_of_lt hi))

/-- A view of the state that each pass updates on its own is computed by a loop on its own. -/
theorem forRange_view {τ : Type} (view : σ → τ) {body : Nat → σ → σ} {body' : Nat → τ → τ}
    (h : ∀ i s, view (body i s) = body' i (view s)) (lo hi : Nat) (state : σ) :
    view (forRange lo hi body state) = forRange lo hi body' (view state) := by
  rcases Nat.le_total hi lo with hle | hle
  · rw [forRange_of_le hle, forRange_of_le hle]
  · refine forRange_invariant (P := fun i s => view s = forRange lo i body' (view state)) hle
      (by simp) ?_
    intro i s hl _ hs
    rw [forRange_succ hl, h, hs]

/-- Two nested loops over a grid are one loop over its row-major indices. -/
theorem forRange_nested (rows cols : Nat) (body : Nat → Nat → σ → σ) (state : σ) :
    forRange 0 rows (fun r s => forRange 0 cols (body r) s) state =
      forRange 0 (rows * cols) (fun i => body (i / cols) (i % cols)) state := by
  refine forRange_invariant
    (P := fun r s => s = forRange 0 (r * cols) (fun i => body (i / cols) (i % cols)) state)
    (Nat.zero_le rows) (by simp) ?_
  rintro r _ _ _ rfl
  rw [Nat.add_mul, Nat.one_mul]
  refine forRange_invariant
    (P := fun c s => s = forRange 0 (r * cols + c) (fun i => body (i / cols) (i % cols)) state)
    (Nat.zero_le cols) rfl ?_
  rintro c _ _ hc rfl
  have hdiv : (r * cols + c) / cols = r := by
    rw [Nat.mul_comm, Nat.mul_add_div (Nat.zero_lt_of_lt hc), Nat.div_eq_of_lt hc, Nat.add_zero]
  have hmod : (r * cols + c) % cols = c := by
    rw [Nat.mul_comm, Nat.mul_add_mod, Nat.mod_eq_of_lt hc]
  rw [← Nat.add_assoc, forRange_succ (Nat.zero_le _), hdiv, hmod]

end Pure

/-! ## Loops that may fail -/

section Failing

variable {ε σ : Type}

/-- `for i in lo..hi { state = body i state? }`. -/
def forRangeM (lo hi : Nat) (body : Nat → σ → Except ε σ) (state : σ) : Except ε σ :=
  (List.range' lo (hi - lo)).foldlM (fun s i => body i s) state

@[simp] theorem ok_bind {α β : Type} (a : α) (f : α → Except ε β) :
    ((Except.ok a : Except ε α) >>= f) = f a := rfl

@[simp] theorem error_bind {α β : Type} (e : ε) (f : α → Except ε β) :
    ((Except.error e : Except ε α) >>= f) = .error e := rfl

/-- Inversion of a sequenced computation. -/
theorem bind_eq_ok {α β : Type} {x : Except ε α} {f : α → Except ε β} {b : β} :
    (x >>= f) = .ok b ↔ ∃ a, x = .ok a ∧ f a = .ok b := by
  cases x with
  | error e =>
    constructor
    · intro h
      cases h
    · rintro ⟨_, h, _⟩
      cases h
  | ok a =>
    constructor
    · exact fun h => ⟨a, rfl, h⟩
    · rintro ⟨_, h, h'⟩
      cases h
      exact h'

/-- The last pass of a loop that may fail. -/
theorem forRangeM_succ {lo hi : Nat} (h : lo ≤ hi) (body : Nat → σ → Except ε σ) (state : σ) :
    forRangeM lo (hi + 1) body state = forRangeM lo hi body state >>= body hi := by
  have hlen : hi + 1 - lo = (hi - lo) + 1 := by omega
  have hlast : lo + 1 * (hi - lo) = hi := by omega
  rw [forRangeM, forRangeM, hlen, List.range'_concat, List.foldlM_append, hlast]
  simp

/-- The invariant rule for success: when every pass from a good state succeeds and ends in a good
state, so does the loop. -/
theorem forRangeM_invariant {P : Nat → σ → Prop} {lo hi : Nat} {body : Nat → σ → Except ε σ}
    {state : σ} (h : lo ≤ hi) (init : P lo state)
    (pass : ∀ i s, lo ≤ i → i < hi → P i s → ∃ s', body i s = .ok s' ∧ P (i + 1) s') :
    ∃ s', forRangeM lo hi body state = .ok s' ∧ P hi s' := by
  induction hi, h using Nat.le_induction with
  | base => exact ⟨state, by simp [forRangeM, pure, Except.pure], init⟩
  | succ hi h ih =>
    obtain ⟨s, hs, hp⟩ := ih fun i s hl hi' hp => pass i s hl (Nat.lt_succ_of_lt hi') hp
    obtain ⟨s', hs', hp'⟩ := pass hi s h (Nat.lt_succ_self hi) hp
    refine ⟨s', ?_, hp'⟩
    rw [forRangeM_succ h, hs]
    exact hs'

/-- A loop whose passes all succeed, from whatever state, succeeds. -/
theorem forRangeM_total {lo hi : Nat} {body : Nat → σ → Except ε σ}
    (pass : ∀ i s, ∃ s', body i s = .ok s') (state : σ) :
    ∃ s', forRangeM lo hi body state = .ok s' := by
  unfold forRangeM
  induction List.range' lo (hi - lo) generalizing state with
  | nil => exact ⟨state, rfl⟩
  | cons i is ih =>
    obtain ⟨s, hs⟩ := pass i state
    rw [List.foldlM_cons, hs]
    exact ih s

/-- The invariant rule for a loop known to have succeeded. -/
theorem forRangeM_partial {P : Nat → σ → Prop} {lo hi : Nat} {body : Nat → σ → Except ε σ}
    {state final : σ} (h : lo ≤ hi) (run : forRangeM lo hi body state = .ok final)
    (init : P lo state)
    (pass : ∀ i s s', lo ≤ i → i < hi → P i s → body i s = .ok s' → P (i + 1) s') :
    P hi final := by
  induction hi, h using Nat.le_induction generalizing final with
  | base =>
    simp only [forRangeM, Nat.sub_self, List.range'_zero, List.foldlM_nil, pure, Except.pure,
      Except.ok.injEq] at run
    exact run ▸ init
  | succ hi h ih =>
    rw [forRangeM_succ h] at run
    cases hs : forRangeM lo hi body state with
    | error e =>
      rw [hs] at run
      cases run
    | ok s =>
      rw [hs] at run
      exact pass hi s final h (Nat.lt_succ_self hi)
        (ih hs fun i s s' hl hi' => pass i s s' hl (Nat.lt_succ_of_lt hi')) run

/-- What follows two computations that agree on a view, and looks at the view only. -/
theorem bind_view {τ α : Type} {view : σ → τ} {x x' : Except ε σ} (h : x.map view = x'.map view)
    {f f' : σ → Except ε α} (next : ∀ s s', view s = view s' → f s = f' s') :
    (x >>= f) = (x' >>= f') := by
  cases x with
  | error e =>
    cases x' with
    | error e' => exact congrArg Except.error (Except.error.inj h)
    | ok s' => cases h
  | ok s =>
    cases x' with
    | error e' => cases h
    | ok s' => exact next s s' (Except.ok.inj h)

theorem map_eq_ok {α β : Type} {f : α → β} {x : Except ε α} {b : β} :
    x.map f = .ok b ↔ ∃ a, x = .ok a ∧ f a = b := by
  cases x with
  | error e => exact iff_of_false nofun nofun
  | ok a => simp [Except.map]

/-- The same for what is seen of the results. -/
theorem bind_map_view {τ α β : Type} {view : σ → τ} {view' : α → β} {x x' : Except ε σ}
    (h : x.map view = x'.map view) {f f' : σ → Except ε α}
    (next : ∀ s s', view s = view s' → (f s).map view' = (f' s').map view') :
    (x >>= f).map view' = (x' >>= f').map view' := by
  have push : ∀ (y : Except ε σ) (g : σ → Except ε α),
      (y >>= g).map view' = y >>= fun s => (g s).map view' := by
    intro y g
    cases y with
    | error e => rfl
    | ok s => rfl
  rw [push, push]
  exact bind_view h next

/-- Two loops whose passes agree on a view of the state agree on it. -/
theorem forRangeM_view {τ : Type} (view : σ → τ) {lo hi : Nat} {body body' : Nat → σ → Except ε σ}
    {state state' : σ} (h : lo ≤ hi) (init : view state = view state')
    (pass : ∀ i s s', lo ≤ i → i < hi → view s = view s' →
      (body i s).map view = (body' i s').map view) :
    (forRangeM lo hi body state).map view = (forRangeM lo hi body' state').map view := by
  induction hi, h using Nat.le_induction with
  | base => simpa [forRangeM, pure, Except.pure, Except.map] using init
  | succ hi h ih =>
    have before := ih fun i s s' hl hi' => pass i s s' hl (Nat.lt_succ_of_lt hi')
    have split : ∀ (x : Except ε σ) (f : σ → Except ε σ),
        (x >>= f).map view = x >>= fun s => (f s).map view := fun x f => by cases x <;> rfl
    rw [forRangeM_succ h, forRangeM_succ h, split, split]
    exact bind_view before fun s s' hs => pass hi s s' h (Nat.lt_succ_self hi) hs

/-- Two loops that may fail and whose passes agree on every counter of the range agree. -/
theorem forRangeM_congr {lo hi : Nat} {body body' : Nat → σ → Except ε σ} (state : σ)
    (h : ∀ i s, lo ≤ i → i < hi → body i s = body' i s) :
    forRangeM lo hi body state = forRangeM lo hi body' state := by
  rcases Nat.le_total hi lo with hle | hle
  · simp [forRangeM, Nat.sub_eq_zero_of_le hle]
  · induction hi, hle using Nat.le_induction with
    | base => simp [forRangeM]
    | succ hi hle ih =>
      rw [forRangeM_succ hle, forRangeM_succ hle,
        ih fun i s hl hi' => h i s hl (Nat.lt_succ_of_lt hi')]
      exact congrArg _ (funext fun s => h hi s hle (Nat.lt_succ_self hi))

/-- A loop none of whose passes fails is the pure loop. -/
theorem forRangeM_ok {lo hi : Nat} {body : Nat → σ → Except ε σ} {body' : Nat → σ → σ} (state : σ)
    (h : ∀ i s, lo ≤ i → i < hi → body i s = .ok (body' i s)) :
    forRangeM lo hi body state = .ok (forRange lo hi body' state) := by
  rcases Nat.le_total hi lo with hle | hle
  · simp [forRangeM, forRange, Nat.sub_eq_zero_of_le hle, pure, Except.pure]
  · obtain ⟨s, hs, rfl⟩ := forRangeM_invariant (P := fun i s => s = forRange lo i body' state) hle
      (forRange_self lo body' state).symm
      fun i s hl hi' hs => ⟨_, h i s hl hi', by rw [hs, forRange_succ hl]⟩
    exact hs

/-- `(0..n).map(f).collect::<Result<Vec<_>, _>>()` -/
def collectRange {α : Type} (n : Nat) (f : Nat → Except ε α) : Except ε (List α) :=
  forRangeM 0 n (fun i xs => do return xs ++ [← f i]) []

/-- Collecting succeeds exactly when every item does. -/
theorem collectRange_eq_ok {α : Type} {n : Nat} {f : Nat → Except ε α} {xs : List α} :
    collectRange n f = .ok xs ↔ xs.length = n ∧ ∀ i (h : i < xs.length), f i = .ok xs[i] := by
  constructor
  · intro run
    refine forRangeM_partial
      (P := fun n (xs : List α) => xs.length = n ∧ ∀ i (h : i < xs.length), f i = .ok xs[i])
      (Nat.zero_le n) run (by simp) ?_
    rintro i ys ys' _ _ ⟨hlen, hys⟩ hstep
    obtain ⟨y, hy, hys'⟩ := bind_eq_ok.mp hstep
    obtain rfl : ys ++ [y] = ys' := Except.ok.inj hys'
    refine ⟨by simp [hlen], fun j hj => ?_⟩
    rw [List.length_append, List.length_singleton] at hj
    rcases Nat.lt_succ_iff_lt_or_eq.mp hj with hlt | rfl
    · rw [List.getElem_append_left hlt]
      exact hys j hlt
    · simpa [hlen] using hy
  · rintro ⟨rfl, h⟩
    obtain ⟨ys, run, rfl⟩ : ∃ ys, collectRange xs.length f = .ok ys ∧ ys = xs.take xs.length := by
      refine forRangeM_invariant (P := fun n ys => ys = xs.take n) (Nat.zero_le _) rfl ?_
      rintro i _ _ hi rfl
      exact ⟨_, by rw [h i hi]; rfl, List.take_concat_get' xs i hi⟩
    rwa [List.take_length] at run

theorem collectRange_ok {α : Type} {n : Nat} {f : Nat → Except ε α} {g : Nat → α}
    (h : ∀ i < n, f i = .ok (g i)) : collectRange n f = .ok ((List.range n).map g) := by
  refine collectRange_eq_ok.mpr ⟨by simp, fun i hi => ?_⟩
  rw [List.length_map, List.length_range] at hi
  rw [h i hi, List.getElem_map, List.getElem_range]

/-- Collecting items none of which fails. -/
theorem collectRange_total {α : Type} {n : Nat} {f : Nat → Except ε α}
    (h : ∀ i < n, ∃ a, f i = .ok a) : ∃ xs, collectRange n f = .ok xs := by
  suffices run : ∃ xs, collectRange n f = .ok xs ∧ True from run.imp fun _ h => h.1
  refine forRangeM_invariant (P := fun _ _ => True) (Nat.zero_le n) trivial fun i xs _ hi _ => ?_
  obtain ⟨a, ha⟩ := h i hi
  exact ⟨xs ++ [a], by rw [ha]; rfl, trivial⟩

/-- A flag raised by any item of a list, none of which fails. -/
theorem foldlM_or_ok {α : Type} {body : Bool → α → Except ε Bool} {bad : α → Bool} :
    ∀ (xs : List α) (flag : Bool), (∀ x ∈ xs, ∀ flag, body flag x = .ok (flag || bad x)) →
      xs.foldlM body flag = .ok (flag || xs.any bad)
  | [], flag, _ => by simp [pure, Except.pure]
  | x :: xs, flag, h => by
    have ih := foldlM_or_ok xs (flag || bad x) fun y hy => h y (List.mem_cons_of_mem _ hy)
    rw [List.foldlM_cons, h x List.mem_cons_self, List.any_cons, ← Bool.or_assoc]
    exact ih

/-- A flag cleared by any item of a list, none of which fails. -/
theorem foldlM_and_ok {α : Type} {body : Bool → α → Except ε Bool} (good : α → Bool) :
    ∀ (xs : List α) (flag : Bool), (∀ x ∈ xs, ∀ flag, body flag x = .ok (flag && good x)) →
      xs.foldlM body flag = .ok (flag && xs.all good)
  | [], flag, _ => by simp [pure, Except.pure]
  | x :: xs, flag, h => by
    have ih := foldlM_and_ok good xs (flag && good x) fun y hy => h y (List.mem_cons_of_mem _ hy)
    rw [List.foldlM_cons, h x List.mem_cons_self, List.all_cons, ← Bool.and_assoc]
    exact ih

/-- `for i in lo..hi { check i? }`: the first failing check is the loop's error. -/
def checkRange (lo hi : Nat) (check : Nat → Except ε Unit) : Except ε Unit :=
  forRangeM lo hi (fun i _ => check i) ()

theorem foldlM_unit_ok_iff (check : Nat → Except ε Unit) :
    ∀ is : List Nat, is.foldlM (fun _ i => check i) () = .ok () ↔ ∀ i ∈ is, check i = .ok ()
  | [] => by simp [pure, Except.pure]
  | i :: is => by
    rw [List.foldlM_cons]
    cases hc : check i with
    | error e =>
      refine iff_of_false (fun h => by cases h) fun h => ?_
      have := h i List.mem_cons_self
      rw [hc] at this
      cases this
    | ok u =>
      have ih := foldlM_unit_ok_iff check is
      rw [List.forall_mem_cons]
      exact ⟨fun h => ⟨hc, ih.mp h⟩, fun h => ih.mpr h.2⟩

/-- A check loop succeeds exactly when every check does. -/
theorem checkRange_ok_iff {lo hi : Nat} {check : Nat → Except ε Unit} :
    checkRange lo hi check = .ok () ↔ ∀ i, lo ≤ i → i < hi → check i = .ok () := by
  rw [checkRange, forRangeM, foldlM_unit_ok_iff]
  constructor
  · intro h i hl hi'
    exact h i (List.mem_range'_1.mpr (by omega))
  · intro h i hi'
    have := List.mem_range'_1.mp hi'
    exact h i (by omega) (by omega)

/-- `while i < hi { if !check(i)? { return } i += 1 }`: whether the loop gets through. -/
def allRangeM (lo hi : Nat) (check : Nat → Except ε Bool) : Except ε Bool :=
  forRangeM lo hi (fun i passed => if passed then check i else .ok false) true

/-- A scan none of whose checks faults gets through exactly when every check passes. -/
theorem allRangeM_ok {lo hi : Nat} {check : Nat → Except ε Bool} {P : Nat → Prop}
    (h : ∀ i, lo ≤ i → i < hi → ∃ b, check i = .ok b ∧ (b = true ↔ P i)) :
    ∃ b, allRangeM lo hi check = .ok b ∧ (b = true ↔ ∀ i, lo ≤ i → i < hi → P i) := by
  rcases Nat.le_total hi lo with hle | hle
  · refine ⟨true, by simp [allRangeM, forRangeM, Nat.sub_eq_zero_of_le hle, pure, Except.pure], ?_⟩
    exact iff_of_true rfl fun i h1 h2 => absurd h2 (by omega)
  · refine forRangeM_invariant
      (P := fun n (b : Bool) => b = true ↔ ∀ i, lo ≤ i → i < n → P i) hle
      (iff_of_true rfl fun i h1 h2 => absurd h2 (by omega)) ?_
    intro n passed hl hn hp
    obtain ⟨b, hb, hbP⟩ := h n hl hn
    have split : (∀ i, lo ≤ i → i < n + 1 → P i) ↔ (∀ i, lo ≤ i → i < n → P i) ∧ P n :=
      ⟨fun h => ⟨fun i h1 h2 => h i h1 (by omega), h n hl (by omega)⟩, fun h i h1 h2 => by
        rcases Nat.lt_succ_iff_lt_or_eq.mp h2 with h2 | rfl
        · exact h.1 i h1 h2
        · exact h.2⟩
    cases passed with
    | true => exact ⟨b, by rw [if_pos rfl, hb], by rw [split, hbP, ← hp]; simp⟩
    | false => exact ⟨false, rfl, by rw [split, ← hp]; simp⟩

/-- `for i in lo..hi` in a function that may return from a pass: `none` when a pass has returned. -/
def forRangeReturn (lo hi : Nat) (body : Nat → σ → Except ε (Option σ)) (state : σ) :
    Except ε (Option σ) :=
  forRangeM lo hi
    (fun i s => match s with
      | some s => body i s
      | none => .ok none)
    (some state)

/-- A loop from which no pass returns. -/
theorem forRangeReturn_some {lo hi : Nat} {body : Nat → σ → Except ε (Option σ)}
    {body' : Nat → σ → Except ε σ} {state final : σ} (h : lo ≤ hi)
    (stays : ∀ i s s', lo ≤ i → i < hi → body' i s = .ok s' → body i s = .ok (some s'))
    (run : forRangeM lo hi body' state = .ok final) :
    forRangeReturn lo hi body state = .ok (some final) := by
  induction hi, h using Nat.le_induction generalizing final with
  | base =>
    simp only [forRangeM, Nat.sub_self, List.range'_zero, List.foldlM_nil, pure, Except.pure,
      Except.ok.injEq] at run
    simp [forRangeReturn, forRangeM, pure, Except.pure, run]
  | succ hi h ih =>
    rw [forRangeM_succ h] at run
    obtain ⟨s, before, pass⟩ := bind_eq_ok.mp run
    have start := ih (fun i s s' hl hi' => stays i s s' hl (Nat.lt_succ_of_lt hi')) before
    rw [forRangeReturn] at start ⊢
    rw [forRangeM_succ h, start]
    exact stays hi s final h (Nat.lt_succ_self hi) pass

/-- A loop from which a pass returns. -/
theorem forRangeReturn_none {lo i hi : Nat} {body : Nat → σ → Except ε (Option σ)} {state s : σ}
    (hl : lo ≤ i) (h : i < hi) (before : forRangeReturn lo i body state = .ok (some s))
    (returns : body i s = .ok none) : forRangeReturn lo hi body state = .ok none := by
  induction hi, h using Nat.le_induction with
  | base =>
    rw [forRangeReturn] at before ⊢
    rw [forRangeM_succ hl, before]
    exact returns
  | succ hi h ih =>
    rw [forRangeReturn] at ih ⊢
    rw [forRangeM_succ (by omega), ih]
    rfl

/-- Inversion of a check followed by the rest. -/
theorem check_bind_eq_ok {β : Type} {x : Except ε Unit} {y : Except ε β} {b : β} :
    (x >>= fun _ => y) = .ok b ↔ x = .ok () ∧ y = .ok b := by
  rw [bind_eq_ok]
  exact ⟨fun ⟨_, h, h'⟩ => ⟨h, h'⟩, fun ⟨h, h'⟩ => ⟨(), h, h'⟩⟩

/-- A loop that may end early: `remaining` passes from `i`, each of which goes on with a new state or
ends the loop with a result; a loop that is not ended has the result `atEnd`. -/
def searchM {α : Type} (body : Nat → σ → Except ε (σ ⊕ α)) (atEnd : α) :
    (remaining i : Nat) → σ → Except ε α
  | 0, _, _ => .ok atEnd
  | remaining + 1, i, s => do
    match ← body i s with
    | .inl s => searchM body atEnd remaining (i + 1) s
    | .inr a => .ok a

/-- The first passes of a search go on. -/
theorem searchM_skip {α : Type} {body : Nat → σ → Except ε (σ ⊕ α)} {atEnd : α}
    {remaining i : Nat} {state : Nat → σ} : ∀ {k : Nat}, k ≤ remaining →
      (∀ j < k, body (i + j) (state j) = .ok (.inl (state (j + 1)))) →
      searchM body atEnd remaining i (state 0) = searchM body atEnd (remaining - k) (i + k) (state k)
  | 0, _, _ => rfl
  | k + 1, hk, next => by
    have ih : searchM body atEnd remaining i (state 0) =
        searchM body atEnd (remaining - k) (i + k) (state k) :=
      searchM_skip (Nat.le_of_succ_le hk) fun j hj => next j (Nat.lt_succ_of_lt hj)
    obtain ⟨rest, hrest⟩ : ∃ rest, remaining - k = rest + 1 := ⟨remaining - k - 1, by omega⟩
    rw [ih, hrest, searchM, next k (by omega), show remaining - (k + 1) = rest by omega]
    rfl

/-- A search that ends in pass `k`. -/
theorem searchM_found {α : Type} {body : Nat → σ → Except ε (σ ⊕ α)} {atEnd a : α}
    {remaining k : Nat} (state : Nat → σ) (hk : k < remaining)
    (next : ∀ j < k, body j (state j) = .ok (.inl (state (j + 1))))
    (found : body k (state k) = .ok (.inr a)) :
    searchM body atEnd remaining 0 (state 0) = .ok a := by
  obtain ⟨rest, hrest⟩ : ∃ rest, remaining - k = rest + 1 := ⟨remaining - k - 1, by omega⟩
  rw [searchM_skip (i := 0) hk.le fun j hj => by rw [Nat.zero_add]; exact next j hj, hrest, searchM,
    Nat.zero_add, found]
  rfl

/-- A search that no pass ends. -/
theorem searchM_end {α : Type} {body : Nat → σ → Except ε (σ ⊕ α)} {atEnd : α}
    {remaining : Nat} (state : Nat → σ)
    (next : ∀ j < remaining, body j (state j) = .ok (.inl (state (j + 1)))) :
    searchM body atEnd remaining 0 (state 0) = .ok atEnd := by
  rw [searchM_skip (i := 0) le_rfl fun j hj => by rw [Nat.zero_add]; exact next j hj, Nat.sub_self]
  rfl

/-- A search whose passes all succeed ends with a result, of which holds what holds of the result at
the end and of every result of a pass. -/
theorem searchM_total {α : Type} {body : Nat → σ → Except ε (σ ⊕ α)} {atEnd : α} {P : α → Prop}
    (last : P atEnd) : ∀ {remaining i : Nat} {s : σ},
      (∀ j, i ≤ j → j < i + remaining → ∀ s, ∃ r, body j s = .ok r ∧ ∀ a, r = .inr a → P a) →
      ∃ a, searchM body atEnd remaining i s = .ok a ∧ P a
  | 0, _, _, _ => ⟨atEnd, rfl, last⟩
  | remaining + 1, i, s, pass => by
    obtain ⟨r, hr, found⟩ := pass i le_rfl (by omega) s
    rw [searchM, hr]
    cases r with
    | inl s' => exact searchM_total last fun j hj hj' => pass j (by omega) (by omega)
    | inr a => exact ⟨a, rfl, found a rfl⟩

end Failing

/-! ## Strided scans -/

/-- The indices `start, start + step, start + 2 * step, …` below `bound`. -/
def strided (start step bound : Nat) : List Nat :=
  (List.range ((bound - start + step - 1) / step)).map fun k => start + k * step

theorem mem_strided {start step bound i : Nat} (hstep : 0 < step) :
    i ∈ strided start step bound ↔ start ≤ i ∧ i < bound ∧ (i - start) % step = 0 := by
  simp only [strided, List.mem_map, List.mem_range]
  constructor
  · rintro ⟨k, hk, rfl⟩
    have hk' : (k + 1) * step ≤ bound - start + step - 1 :=
      (Nat.le_div_iff_mul_le hstep).mp hk
    have : (k + 1) * step = k * step + step := by rw [Nat.add_mul, Nat.one_mul]
    exact ⟨Nat.le_add_right _ _, by omega, by simp⟩
  · rintro ⟨hs, hb, hm⟩
    have hdiv := Nat.div_add_mod (i - start) step
    rw [hm, Nat.add_zero, Nat.mul_comm] at hdiv
    refine ⟨(i - start) / step, ?_, by omega⟩
    refine (Nat.le_div_iff_mul_le hstep).mpr ?_
    rw [Nat.succ_mul]
    omega

/-- A scan that is not empty starts at its start. -/
theorem exists_strided_eq_cons {start step bound : Nat} (hstep : 0 < step) (h : start < bound) :
    ∃ rest, strided start step bound = start :: rest := by
  obtain ⟨passes, hpasses⟩ : ∃ passes, (bound - start + step - 1) / step = passes + 1 :=
    Nat.exists_eq_succ_of_ne_zero (Nat.div_pos (by omega) hstep).ne'
  rw [strided, hpasses, List.range_succ_eq_map, List.map_cons, Nat.zero_mul, Nat.add_zero]
  exact ⟨_, rfl⟩

/-- Workers `0, …, workers - 1`, each with stride `workers`, together meet every index. -/
theorem exists_mem_strided {workers bound i : Nat} (hw : 0 < workers) (hi : i < bound) :
    ∃ worker < workers, i ∈ strided worker workers bound := by
  refine ⟨i % workers, Nat.mod_lt i hw, (mem_strided hw).mpr ⟨Nat.mod_le i workers, hi, ?_⟩⟩
  have hdiv := Nat.div_add_mod i workers
  have : i - i % workers = workers * (i / workers) := by omega
  rw [this, Nat.mul_mod_right]

theorem lt_of_mem_strided {start step bound i : Nat} (hstep : 0 < step)
    (h : i ∈ strided start step bound) : i < bound :=
  ((mem_strided hstep).mp h).2.1

end LoomKernels
