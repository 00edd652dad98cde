import LoomKernels.Lib.Loops

/-!
# Processes

Four things that a program with effects rests on:

* a traversal that stops at the first failure (`mapM_eq_ok`, `mapM_eq_error`);
* which errors a computation cannot report (`Avoids`);
* a computation over a state that may end early and then still leaves a state: `Ends x s Q E` says
  that from `s` it ends well with `Q` or early with `E`, and has one rule for each way to build a
  computation;
* the runs of a state machine: what the first state satisfies and every action keeps holds after
  every list of actions (`run_invariant`).
-/

namespace LoomKernels

/-! ## Traversals -/

section Traversal

variable {ε α β : Type} {f : α → Except ε β}

/-- A traversal succeeds exactly when every element does. -/
theorem mapM_eq_ok {xs : List α} {ys : List β} :
    xs.mapM f = .ok ys ↔ List.Forall₂ (fun x y => f x = .ok y) xs ys := by
  induction xs generalizing ys with
  | nil =>
    rw [List.mapM_nil, List.forall₂_nil_left_iff]
    exact ⟨fun h => (Except.ok.inj h).symm, fun h => h ▸ rfl⟩
  | cons x xs ih =>
    rw [List.mapM_cons, bind_eq_ok, List.forall₂_cons_left_iff]
    constructor
    · rintro ⟨y, hy, rest⟩
      obtain ⟨ys', hys, eq⟩ := bind_eq_ok.mp rest
      exact ⟨y, ys', hy, ih.mp hys, (Except.ok.inj eq).symm⟩
    · rintro ⟨y, ys', hy, hys, rfl⟩
      exact ⟨y, hy, bind_eq_ok.mpr ⟨ys', ih.mpr hys, rfl⟩⟩

theorem exists_forall₂_iff {R : α → β → Prop} {xs : List α} :
    (∃ ys, List.Forall₂ R xs ys) ↔ ∀ x ∈ xs, ∃ y, R x y := by
  induction xs with
  | nil => exact ⟨fun _ => nofun, fun _ => ⟨[], .nil⟩⟩
  | cons x xs ih =>
    rw [List.forall_mem_cons, ← ih]
    constructor
    · rintro ⟨_, _ | ⟨first, rest⟩⟩
      exact ⟨⟨_, first⟩, _, rest⟩
    · rintro ⟨⟨y, first⟩, ys, rest⟩
      exact ⟨y :: ys, .cons first rest⟩

/-- A failed traversal reports the failure of one of the elements. -/
theorem mapM_eq_error {xs : List α} {e : ε} (h : xs.mapM f = .error e) :
    ∃ x ∈ xs, f x = .error e := by
  induction xs with
  | nil => cases h
  | cons x xs ih =>
    rw [List.mapM_cons] at h
    cases hx : f x with
    | error e' =>
      rw [hx] at h
      obtain rfl : e' = e := Except.error.inj h
      exact ⟨x, List.mem_cons_self, hx⟩
    | ok y =>
      rw [hx] at h
      cases hxs : xs.mapM f with
      | error e' =>
        have same : e' = e := by
          simpa [hxs, bind, Except.bind] using h
        obtain ⟨x', hx', failed⟩ := ih (same ▸ hxs)
        exact ⟨x', List.mem_cons_of_mem _ hx', failed⟩
      | ok ys =>
        simp [hxs, bind, Except.bind, pure, Except.pure] at h

end Traversal

/-! ## Errors that do not occur -/

section Avoids

variable {ε ε' α β : Type} {bad : ε → Bool}

/-- The computation reports no bad error. -/
def Avoids (bad : ε → Bool) (x : Except ε α) : Prop := ∀ e, x = .error e → bad e = false

theorem avoids_ok (a : α) : Avoids bad (.ok a : Except ε α) := nofun

theorem avoids_error {e : ε} (good : bad e = false) : Avoids bad (.error e : Except ε α) := by
  rintro _ ⟨⟩
  exact good

theorem Avoids.bind {x : Except ε α} {f : α → Except ε β} (h : Avoids bad x)
    (h' : ∀ a, Avoids bad (f a)) : Avoids bad (x >>= f) := by
  cases x with
  | ok a => exact h' a
  | error e => exact avoids_error (h e rfl)

/-- What follows a computation needs to be good only after a success. -/
theorem Avoids.andThen {x : Except ε α} {f : α → Except ε β} (h : Avoids bad x)
    (h' : ∀ a, x = .ok a → Avoids bad (f a)) : Avoids bad (x >>= f) := by
  cases x with
  | ok a => exact h' a rfl
  | error e => exact avoids_error (h e rfl)

/-- A check of a loop is made only after the checks before it have passed. -/
theorem Avoids.checkRange {lo hi : Nat} {check : Nat → Except ε Unit}
    (h : ∀ i, lo ≤ i → i < hi → (∀ j, lo ≤ j → j < i → check j = .ok ()) → Avoids bad (check i)) :
    Avoids bad (LoomKernels.checkRange lo hi check) := by
  rcases Nat.le_total hi lo with hle | hle
  · rw [LoomKernels.checkRange, forRangeM, Nat.sub_eq_zero_of_le hle]
    exact avoids_ok ()
  · induction hi, hle using Nat.le_induction with
    | base =>
      rw [LoomKernels.checkRange, forRangeM, Nat.sub_self]
      exact avoids_ok ()
    | succ hi hle ih =>
      rw [LoomKernels.checkRange, forRangeM_succ hle]
      have before : Avoids bad (LoomKernels.checkRange lo hi check) :=
        ih fun i hl hi' => h i hl (Nat.lt_succ_of_lt hi')
      exact before.andThen fun _ passed => h hi hle (Nat.lt_succ_self hi) (checkRange_ok_iff.mp passed)

/-- A loop reports no more than its passes do. -/
theorem Avoids.forRangeM {σ : Type} {lo hi : Nat} {body : Nat → σ → Except ε σ}
    (h : ∀ i s, lo ≤ i → i < hi → Avoids bad (body i s)) (s : σ) :
    Avoids bad (LoomKernels.forRangeM lo hi body s) := by
  rcases Nat.le_total hi lo with hle | hle
  · rw [LoomKernels.forRangeM, Nat.sub_eq_zero_of_le hle]
    exact avoids_ok s
  · induction hi, hle using Nat.le_induction with
    | base =>
      rw [LoomKernels.forRangeM, Nat.sub_self]
      exact avoids_ok s
    | succ hi hle ih =>
      rw [forRangeM_succ hle]
      have before := ih fun i s hl hi' => h i s hl (Nat.lt_succ_of_lt hi')
      exact before.bind fun s' => h hi s' hle (Nat.lt_succ_self hi)

theorem Avoids.mapM {f : α → Except ε β} (xs : List α) (h : ∀ x ∈ xs, Avoids bad (f x)) :
    Avoids bad (xs.mapM f) := by
  intro e failed
  obtain ⟨x, mem, found⟩ := mapM_eq_error failed
  exact h x mem e found

/-- Errors may be renamed into good ones. -/
theorem Avoids.mapError {bad' : ε' → Bool} {rename : ε → ε'} {x : Except ε α} (h : Avoids bad x)
    (good : ∀ e, bad e = false → bad' (rename e) = false) : Avoids bad' (x.mapError rename) := by
  cases x with
  | ok a => exact avoids_ok a
  | error e => exact avoids_error (good e (h e rfl))

end Avoids

/-! ## Computations that may end early -/

section Ends

variable {ε σ α β : Type} {s : σ} {Q : α → σ → Prop} {E : ε → σ → Prop}

/-- From `s`, the computation ends well in `Q` or early in `E`. -/
def Ends (x : EStateM ε σ α) (s : σ) (Q : α → σ → Prop) (E : ε → σ → Prop) : Prop :=
  match x s with
  | .ok a s' => Q a s'
  | .error e s' => E e s'

@[simp] theorem ends_pure {a : α} : Ends (pure a : EStateM ε σ α) s Q E ↔ Q a s := Iff.rfl

@[simp] theorem ends_throw {e : ε} : Ends (throw e : EStateM ε σ α) s Q E ↔ E e s := Iff.rfl

/-- A sequence ends as its second part does, in every state in which its first part ends well. -/
theorem ends_bind {x : EStateM ε σ α} {f : α → EStateM ε σ β} {Q : β → σ → Prop} :
    Ends (x >>= f) s Q E ↔ Ends x s (fun a s' => Ends (f a) s' Q E) E := by
  unfold Ends
  simp only [bind, EStateM.bind]
  cases x s <;> rfl

@[simp] theorem ends_get {Q : σ → σ → Prop} : Ends (get : EStateM ε σ σ) s Q E ↔ Q s s := Iff.rfl

@[simp] theorem ends_set {s' : σ} {Q : PUnit → σ → Prop} :
    Ends (set s' : EStateM ε σ PUnit) s Q E ↔ Q ⟨⟩ s' := Iff.rfl

@[simp] theorem ends_modify {f : σ → σ} {Q : PUnit → σ → Prop} :
    Ends (modify f : EStateM ε σ PUnit) s Q E ↔ Q ⟨⟩ (f s) := Iff.rfl

theorem Ends.mono {x : EStateM ε σ α} {Q' : α → σ → Prop} {E' : ε → σ → Prop} (h : Ends x s Q E)
    (hQ : ∀ a s', Q a s' → Q' a s') (hE : ∀ e s', E e s' → E' e s') : Ends x s Q' E' := by
  unfold Ends at *
  cases hx : x s with
  | ok a s' =>
    rw [hx] at h
    exact hQ a s' h
  | error e s' =>
    rw [hx] at h
    exact hE e s' h

/-- Two facts about one run. -/
theorem Ends.and {x : EStateM ε σ α} {Q' : α → σ → Prop} {E' : ε → σ → Prop} (h : Ends x s Q E)
    (h' : Ends x s Q' E') :
    Ends x s (fun a s' => Q a s' ∧ Q' a s') (fun e s' => E e s' ∧ E' e s') := by
  unfold Ends at *
  cases hx : x s with
  | ok a s' =>
    rw [hx] at h h'
    exact ⟨h, h'⟩
  | error e s' =>
    rw [hx] at h h'
    exact ⟨h, h'⟩

/-- The invariant rule for a traversal. -/
theorem Ends.forM {ι : Type} {body : ι → EStateM ε σ Unit} {P : σ → Prop}
    (pass : ∀ i s, P s → Ends (body i) s (fun _ => P) E) :
    ∀ (xs : List ι) {s : σ}, P s → Ends (xs.forM body) s (fun _ => P) E
  | [], _, h => h
  | i :: xs, s, h => by
    change Ends (body i >>= fun _ => xs.forM body) s _ _
    rw [ends_bind]
    exact (pass i s h).mono (fun _ _ next => Ends.forM pass xs next) fun _ _ early => early

/-- A run that does not end early. -/
theorem Ends.exists_ok {x : EStateM ε σ α} (h : Ends x s Q fun _ _ => False) :
    ∃ a s', x s = .ok a s' ∧ Q a s' := by
  unfold Ends at h
  cases hx : x s with
  | ok a s' =>
    rw [hx] at h
    exact ⟨a, s', rfl, h⟩
  | error e s' =>
    rw [hx] at h
    exact h.elim

/-- A run ends in some way. -/
theorem not_ends_false {x : EStateM ε σ α} : ¬ Ends x s (fun _ _ => False) (fun _ _ => False) := by
  unfold Ends
  cases x s <;> exact id

end Ends

/-! ## Runs -/

section Run

variable {σ α : Type} {step : σ → α → σ}

/-- The state after a list of actions. -/
def run (step : σ → α → σ) (s : σ) (actions : List α) : σ := actions.foldl step s

@[simp] theorem run_nil (s : σ) : run step s [] = s := rfl

/-- What holds at the start and is kept by every action holds after every list of actions. -/
theorem run_invariant {P : σ → Prop} {s : σ} (start : P s) (kept : ∀ s a, P s → P (step s a))
    (actions : List α) : P (run step s actions) := by
  induction actions generalizing s with
  | nil => exact start
  | cons a actions ih => exact ih (kept s a start)

end Run

end LoomKernels
