import LoomKernels.Lib.Process

/-!
# Objects of a foreign library

A library hands out objects, stores a value for each of them, and takes them back. A call on an
object that does not live is a misuse, which includes giving back an object twice.

`o.Holds held` says that the library was never misused and that the objects that live are those of
the list `held`, with their values. Each way to call the library has one rule about it, in which the
object that is called stands first; the list may be permuted.

Programs with owners give back what they hold also when they end early: `onError` and `always` are
these two ways to end, and `Ends` has one rule for each.
-/

namespace LoomKernels

/-! ## Objects -/

/-- The values of the objects that live, the name of the next object, and the number of misuses. -/
structure Objects (κ : Type) where
  value : Nat → Option κ
  next : Nat
  misuses : Nat

namespace Objects

variable {κ : Type}

/-- A library that was not called. -/
def start : Objects κ := ⟨fun _ => none, 0, 0⟩

variable (o : Objects κ)

/-- A new object. -/
def create (v : κ) : Objects κ :=
  { o with value := Function.update o.value o.next (some v), next := o.next + 1 }

/-- A call that reads some objects. -/
def use (names : List Nat) : Objects κ :=
  if names.all fun name => (o.value name).isSome then o else { o with misuses := o.misuses + 1 }

/-- A call that sets the value of an object. -/
def set (name : Nat) (f : κ → κ) : Objects κ :=
  match o.value name with
  | some v => { o with value := Function.update o.value name (some (f v)) }
  | none => { o with misuses := o.misuses + 1 }

/-- An object is given back. -/
def destroy (name : Nat) : Objects κ :=
  match o.value name with
  | some _ => { o with value := Function.update o.value name none }
  | none => { o with misuses := o.misuses + 1 }

/-- No misuse so far, and what lives is `held`. -/
structure Holds (held : List (Nat × κ)) : Prop where
  unmisused : o.misuses = 0
  names : (held.map Prod.fst).Nodup
  live : ∀ name v, o.value name = some v ↔ (name, v) ∈ held
  fresh : ∀ name, o.next ≤ name → o.value name = none

variable {o} {held held' : List (Nat × κ)} {name : Nat} {v : κ}

theorem holds_start : (start : Objects κ).Holds [] :=
  ⟨rfl, List.nodup_nil, by simp [start], fun _ _ => rfl⟩

theorem Holds.perm (h : o.Holds held) (p : held.Perm held') : o.Holds held' :=
  ⟨h.unmisused, ((p.map Prod.fst).nodup_iff).mp h.names,
    fun name v => (h.live name v).trans p.mem_iff, h.fresh⟩

/-- The value of an object that is held. -/
theorem Holds.value (h : o.Holds held) (mem : (name, v) ∈ held) : o.value name = some v :=
  (h.live name v).mpr mem

theorem Holds.lt_next (h : o.Holds held) (mem : (name, v) ∈ held) : name < o.next := by
  by_contra le
  have lives := h.value mem
  rw [h.fresh name (Nat.le_of_not_lt le)] at lives
  cases lives

theorem Holds.create (h : o.Holds held) (v : κ) : (o.create v).Holds ((o.next, v) :: held) := by
  have other : ∀ name w, (name, w) ∈ held → name ≠ o.next :=
    fun name w mem => Nat.ne_of_lt (h.lt_next mem)
  refine ⟨h.unmisused, ?_, fun name w => ?_, fun name le => ?_⟩
  · refine List.nodup_cons.mpr ⟨fun mem => ?_, h.names⟩
    obtain ⟨⟨name, w⟩, found, rfl⟩ := List.mem_map.mp mem
    exact other _ w found rfl
  · rw [Objects.create]
    by_cases new : name = o.next
    · subst new
      simp only [Function.update_self, Option.some.injEq, List.mem_cons, Prod.mk.injEq, true_and]
      exact ⟨fun same => .inl same.symm,
        fun or => or.elim Eq.symm fun mem => (other _ w mem rfl).elim⟩
    · simp only [Function.update_of_ne new, List.mem_cons, Prod.mk.injEq, new, false_and, false_or]
      exact h.live name w
  · have gt : o.next < name := le
    exact (Function.update_of_ne (Nat.ne_of_gt gt) _ o.value).trans (h.fresh name gt.le)

/-- A call that reads objects that are held is no misuse. -/
theorem Holds.use_eq (h : o.Holds held) {names : List Nat}
    (owned : ∀ name ∈ names, ∃ v, (name, v) ∈ held) : o.use names = o := by
  refine if_pos (List.all_eq_true.mpr fun name mem => ?_)
  obtain ⟨v, found⟩ := owned name mem
  rw [h.value found]
  rfl

/-- The first name of a list of objects occurs in it once. -/
theorem Holds.head_ne (h : o.Holds ((name, v) :: held)) {other : Nat} {w : κ}
    (mem : (other, w) ∈ held) : other ≠ name := by
  rintro rfl
  exact (List.nodup_cons.mp h.names).1 (List.mem_map.mpr ⟨_, mem, rfl⟩)

theorem Holds.set (h : o.Holds ((name, v) :: held)) (f : κ → κ) :
    (o.set name f).Holds ((name, f v) :: held) := by
  rw [Objects.set, h.value List.mem_cons_self]
  refine ⟨h.unmisused, h.names, fun other w => ?_, fun other le => ?_⟩
  · by_cases same : other = name
    · subst same
      simp only [Function.update_self, Option.some.injEq, List.mem_cons, Prod.mk.injEq, true_and]
      exact ⟨fun eq => .inl eq.symm, fun or => or.elim Eq.symm fun mem => (h.head_ne mem rfl).elim⟩
    · simp only [Function.update_of_ne same, List.mem_cons, Prod.mk.injEq, same, false_and,
        false_or]
      rw [h.live other w]
      simp [same]
  · have lt : name < o.next := h.lt_next List.mem_cons_self
    exact (Function.update_of_ne (Nat.ne_of_gt (lt.trans_le le)) _ o.value).trans (h.fresh other le)

theorem Holds.destroy (h : o.Holds ((name, v) :: held)) : (o.destroy name).Holds held := by
  rw [Objects.destroy, h.value List.mem_cons_self]
  refine ⟨h.unmisused, (List.nodup_cons.mp h.names).2, fun other w => ?_, fun other le => ?_⟩
  · by_cases same : other = name
    · subst same
      simp only [Function.update_self, reduceCtorEq, false_iff]
      exact fun mem => h.head_ne mem rfl
    · simp only [Function.update_of_ne same]
      rw [h.live other w]
      simp [same]
  · have lt : name < o.next := h.lt_next List.mem_cons_self
    exact (Function.update_of_ne (Nat.ne_of_gt (lt.trans_le le)) _ o.value).trans (h.fresh other le)

end Objects

/-! ## Cleanup -/

section Cleanup

variable {ε σ α : Type} {s : σ} {Q : α → σ → Prop} {E : ε → σ → Prop}

/-- `x`, with a cleanup when it ends early: an owner that is handed over at the end. -/
def onError (cleanup : σ → σ) (x : EStateM ε σ α) : EStateM ε σ α := fun s =>
  match x s with
  | .ok a s' => .ok a s'
  | .error e s' => .error e (cleanup s')

/-- `x`, with a cleanup behind it: an owner that is dropped at the end. -/
def always (cleanup : σ → σ) (x : EStateM ε σ α) : EStateM ε σ α := fun s =>
  match x s with
  | .ok a s' => .ok a (cleanup s')
  | .error e s' => .error e (cleanup s')

theorem ends_onError {cleanup : σ → σ} {x : EStateM ε σ α} :
    Ends (onError cleanup x) s Q E ↔ Ends x s Q fun e s' => E e (cleanup s') := by
  unfold Ends onError
  cases x s <;> rfl

theorem ends_always {cleanup : σ → σ} {x : EStateM ε σ α} :
    Ends (always cleanup x) s Q E ↔
      Ends x s (fun a s' => Q a (cleanup s')) fun e s' => E e (cleanup s') := by
  unfold Ends always
  cases x s <;> rfl

end Cleanup

end LoomKernels
