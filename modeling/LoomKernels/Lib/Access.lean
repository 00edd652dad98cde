import LoomKernels.Lib.Machine

/-!
# Memory accesses

A program whose effects are the loads and stores it makes. Its memory is the list of these accesses,
so the memory after a run that starts with none is the trace of the run (`Traces`).

`Safe ok x Q` says that `x` ends well, with a result of `Q`, and makes no access but those of `ok`.
It has one rule for each way to build a program; what the rules leave to be proved is that no
arithmetic wraps and that each access is one of `ok`. Bounds, alignment and ownership are predicates
on one access, and two accesses in ranges that are apart do not overlap (`Within.not_overlaps`).

Two more judgments need less and say less. `Makes ok x` says of the accesses of `x`, wherever it
stops, that they are of `ok` and that those before them stay; its rules have no premises on values.
`Reaches P x` says that `x` makes an access of `P`, if it comes to its end.
-/

namespace LoomKernels

/-- A load or a store of `width` bytes at byte `offset` of a buffer. -/
structure ByteAccess (β : Type) where
  buffer : β
  isStore : Bool
  offset : Nat
  width : Nat
  deriving DecidableEq, Repr

namespace ByteAccess

variable {β : Type}

/-- The access stays inside a buffer of `size` bytes. -/
def InBounds (size : β → Nat) (a : ByteAccess β) : Prop := a.offset + a.width ≤ size a.buffer

/-- The address of the access is a multiple of its width. -/
def Aligned (base : β → Nat) (a : ByteAccess β) : Prop := a.width ∣ base a.buffer + a.offset

/-- The accesses have a byte in common. -/
def Overlaps (a b : ByteAccess β) : Prop :=
  a.buffer = b.buffer ∧ a.offset < b.offset + b.width ∧ b.offset < a.offset + a.width

/-- The access stays in the bytes `lo..hi`. -/
def Within (lo hi : Nat) (a : ByteAccess β) : Prop := lo ≤ a.offset ∧ a.offset + a.width ≤ hi

variable {a b : ByteAccess β} {lo hi lo' hi' : Nat}

theorem Within.not_overlaps (ha : a.Within lo hi) (hb : b.Within lo' hi') (apart : hi ≤ lo' ∨ hi' ≤ lo) :
    ¬ a.Overlaps b := by
  rintro ⟨-, before, after⟩
  obtain ⟨loA, hiA⟩ := ha
  obtain ⟨loB, hiB⟩ := hb
  omega

/-- Accesses in different cells of a partition of the bytes into cells of one size do not overlap. -/
theorem not_overlaps_of_cells {size i j : Nat} (ha : a.Within (i * size) ((i + 1) * size))
    (hb : b.Within (j * size) ((j + 1) * size)) (other : i ≠ j) : ¬ a.Overlaps b := by
  refine ha.not_overlaps hb ?_
  rcases Nat.lt_or_gt_of_ne other with lt | gt
  · exact Or.inl (Nat.mul_le_mul_right size lt)
  · exact Or.inr (Nat.mul_le_mul_right size gt)

/-- An access whose offset is a multiple of its width is aligned where its buffer is. -/
theorem aligned_iff {base : β → Nat} (offset : a.width ∣ a.offset) :
    a.Aligned base ↔ a.width ∣ base a.buffer :=
  Nat.dvd_add_iff_left offset |>.symm

end ByteAccess

/-- A program that loads and stores, and has no failures of its own. -/
abbrev Traced (β : Type) := Program Empty (List (ByteAccess β))

section Traced

variable {β α γ τ : Type}

def touch (a : ByteAccess β) : Traced β Unit := modify (· ++ [a])

def load (buffer : β) (offset width : Nat) : Traced β Unit := touch ⟨buffer, false, offset, width⟩

def store (buffer : β) (offset width : Nat) : Traced β Unit := touch ⟨buffer, true, offset, width⟩

/-- A loop that may end early: `remaining` passes from `i`, each of which goes on with a new state or
ends the loop with a result; a loop that is not ended has the result `atEnd`. -/
def searchEach (body : Nat → τ → Traced β (τ ⊕ α)) (atEnd : α) :
    (remaining i : Nat) → τ → Traced β α
  | 0, _, _ => pure atEnd
  | remaining + 1, i, t => do
    match ← body i t with
    | .inl t => searchEach body atEnd remaining (i + 1) t
    | .inr a => return a

/-- The result of a run that starts with no accesses. -/
def Traced.result (x : Traced β α) : Machine Empty α :=
  match x [] with
  | .ok a _ => .ok a
  | .error e _ => .error e

/-- A run from no accesses has the result `a` and makes the accesses of `trace`. -/
def Traces (x : Traced β α) (a : α) (trace : List (ByteAccess β)) : Prop := x [] = .ok a trace

/-- The program ends well, with a result of `Q`, and makes only accesses of `ok`. -/
def Safe (ok : ByteAccess β → Prop) (x : Traced β α) (Q : α → Prop) : Prop :=
  ∀ log, (∀ a ∈ log, ok a) →
    Ends x log (fun r log' => Q r ∧ ∀ a ∈ log', ok a) (fun _ _ => False)

variable {ok : ByteAccess β → Prop} {x : Traced β α} {Q : α → Prop}

theorem safe_pure {r : α} (h : Q r) : Safe ok (pure r) Q := fun _ inside => ⟨h, inside⟩

theorem Safe.bind {R : γ → Prop} {y : Traced β γ} {f : γ → Traced β α} (hy : Safe ok y R)
    (hf : ∀ r, R r → Safe ok (f r) Q) : Safe ok (y >>= f) Q := by
  intro log inside
  rw [ends_bind]
  exact (hy log inside).mono (fun r log' h => hf r h.1 log' h.2) fun _ _ h => h

theorem Safe.mono {R : α → Prop} (h : Safe ok x Q) (le : ∀ r, Q r → R r) : Safe ok x R :=
  fun log inside => (h log inside).mono (fun r _ h => ⟨le r h.1, h.2⟩) fun _ _ h => h

/-- A first part with a known result. -/
theorem Safe.step {y : Traced β γ} {r : γ} {f : γ → Traced β α} (hy : Safe ok y (· = r))
    (hf : Safe ok (f r) Q) : Safe ok (y >>= f) Q :=
  hy.bind fun _ h => h ▸ hf

theorem safe_touch {a : ByteAccess β} (h : ok a) : Safe ok (touch a) (· = ()) := by
  intro log inside
  refine ⟨rfl, fun b mem => ?_⟩
  rcases List.mem_append.mp mem with before | last
  · exact inside b before
  · exact List.mem_singleton.mp last ▸ h

theorem safe_load {buffer : β} {offset width : Nat} (h : ok ⟨buffer, false, offset, width⟩) :
    Safe ok (load buffer offset width) (· = ()) :=
  safe_touch h

theorem safe_store {buffer : β} {offset width : Nat} (h : ok ⟨buffer, true, offset, width⟩) :
    Safe ok (store buffer offset width) (· = ()) :=
  safe_touch h

theorem safe_compute {m : Machine Empty α} {r : α} (h : m = .ok r) :
    Safe ok (compute m) (· = r) := by
  rw [h]
  exact safe_pure rfl

theorem safe_forM {ι : Type} {body : ι → Traced β Unit} :
    ∀ {xs : List ι}, (∀ i ∈ xs, Safe ok (body i) (· = ())) → Safe ok (xs.forM body) (· = ())
  | [], _ => safe_pure rfl
  | i :: _, h => (h i List.mem_cons_self).step (safe_forM fun j hj => h j (List.mem_cons_of_mem i hj))

theorem safe_forEach {lo hi : Nat} {body : Nat → Traced β Unit}
    (h : ∀ i, lo ≤ i → i < hi → Safe ok (body i) (· = ())) :
    Safe ok (forEach lo hi body) (· = ()) := by
  refine safe_forM fun i mem => ?_
  have := List.mem_range'_1.mp mem
  exact h i (by omega) (by omega)

/-- The invariant rule for a loop that may end early. -/
theorem safe_searchEach {body : Nat → τ → Traced β (τ ⊕ α)} {atEnd : α} {P : Nat → τ → Prop} :
    ∀ {remaining i : Nat} {t : τ}, P i t → (∀ t, P (i + remaining) t → Q atEnd) →
      (∀ j t, i ≤ j → j < i + remaining → P j t →
        Safe ok (body j t) (Sum.elim (P (j + 1)) Q)) →
      Safe ok (searchEach body atEnd remaining i t) Q
  | 0, _, t, init, last, _ => safe_pure (last t init)
  | remaining + 1, i, t, init, last, pass => by
    refine (pass i t le_rfl (by omega) init).bind ?_
    rintro (next | found) h
    · refine safe_searchEach h (fun t ht => last t ?_) fun j t hl hj => pass j t (by omega) (by omega)
      rwa [show i + (remaining + 1) = i + 1 + remaining by omega]
    · exact safe_pure h

/-- A search whose passes end as those of another search ends as the other does. -/
theorem safe_searchEach_searchM {ε : Type} {body : Nat → τ → Traced β (τ ⊕ α)}
    {other : Nat → τ → Except ε (τ ⊕ α)} {atEnd : α} : ∀ {remaining i : Nat} {t : τ},
      (∀ j t, i ≤ j → j < i + remaining → Safe ok (body j t) fun r => other j t = .ok r) →
      Safe ok (searchEach body atEnd remaining i t) fun a =>
        searchM other atEnd remaining i t = .ok a
  | 0, _, _, _ => safe_pure rfl
  | remaining + 1, i, t, pass => by
    refine (pass i t le_rfl (by omega)).bind ?_
    intro r hr
    rw [searchM, hr, ok_bind]
    cases r with
    | inl next => exact safe_searchEach_searchM fun j t hl hj => pass j t (by omega) (by omega)
    | inr found => exact safe_pure rfl

/-- A flag that is cleared by the bad items of a list. -/
theorem safe_foldlM_and {ι : Type} {body : Bool → ι → Traced β Bool} {good : ι → Bool} :
    ∀ {xs : List ι} {flag : Bool},
      (∀ i ∈ xs, ∀ flag, Safe ok (body flag i) (· = (flag && good i))) →
      Safe ok (xs.foldlM body flag) (· = (flag && xs.all good))
  | [], flag, _ => safe_pure (by simp)
  | i :: xs, flag, h => by
    have rest : Safe ok (xs.foldlM body (flag && good i)) _ :=
      safe_foldlM_and fun j hj => h j (List.mem_cons_of_mem _ hj)
    rw [List.foldlM_cons]
    refine (h i List.mem_cons_self flag).step (rest.mono fun r hr => ?_)
    rw [hr, List.all_cons, Bool.and_assoc]

theorem Safe.result {r : α} (h : Safe ok x (· = r)) : x.result = .ok r := by
  have := h [] nofun
  unfold Ends at this
  unfold Traced.result
  cases hx : x [] with
  | ok a log =>
    rw [hx] at this
    exact congrArg Except.ok this.1
  | error e log =>
    rw [hx] at this
    exact this.elim

/-- A safe program has a trace. -/
theorem Safe.traces (h : Safe ok x Q) : ∃ r trace, Traces x r trace ∧ Q r ∧ ∀ a ∈ trace, ok a := by
  have := h [] nofun
  unfold Ends at this
  cases hx : x [] with
  | ok a log =>
    rw [hx] at this
    exact ⟨a, log, hx, this⟩
  | error e log =>
    rw [hx] at this
    exact this.elim

/-! ### Accesses of programs that may stop -/

/-- Wherever the program stops, it has added accesses of `ok` to those there were. -/
def Makes (ok : ByteAccess β → Prop) (x : Traced β α) : Prop :=
  ∀ log, Ends x log (fun _ log' => ∃ added, log' = log ++ added ∧ ∀ a ∈ added, ok a)
    (fun _ log' => ∃ added, log' = log ++ added ∧ ∀ a ∈ added, ok a)

theorem makes_pure {r : α} : Makes ok (pure r) := fun log => ⟨[], (List.append_nil log).symm, nofun⟩

theorem makes_compute {m : Machine Empty α} : Makes ok (compute m) := by
  intro log
  unfold Ends compute
  cases m with
  | ok r => exact ⟨[], (List.append_nil log).symm, nofun⟩
  | error e => exact ⟨[], (List.append_nil log).symm, nofun⟩

/-- What comes after a computation needs to be looked at for its results only. -/
theorem makes_compute_bind {m : Machine Empty γ} {f : γ → Traced β α}
    (h : ∀ r, m = .ok r → Makes ok (f r)) : Makes ok (compute m >>= f) := by
  cases m with
  | ok r => exact h r rfl
  | error e => exact fun log => ⟨[], (List.append_nil log).symm, nofun⟩

theorem makes_touch {a : ByteAccess β} (h : ok a) : Makes ok (touch a) :=
  fun _ => ⟨[a], rfl, fun _ mem => List.mem_singleton.mp mem ▸ h⟩

theorem Makes.bind {y : Traced β γ} {f : γ → Traced β α} (hy : Makes ok y)
    (hf : ∀ r, Makes ok (f r)) : Makes ok (y >>= f) := by
  intro log
  rw [ends_bind]
  refine (hy log).mono ?_ fun _ _ h => h
  rintro r _ ⟨first, rfl, hfirst⟩
  -- what the second part adds comes after what the first added
  have join : ∀ log', (∃ added, log' = log ++ first ++ added ∧ ∀ a ∈ added, ok a) →
      ∃ added, log' = log ++ added ∧ ∀ a ∈ added, ok a := by
    rintro _ ⟨second, rfl, hsecond⟩
    refine ⟨first ++ second, List.append_assoc .., fun a mem => ?_⟩
    exact (List.mem_append.mp mem).elim (hfirst a) (hsecond a)
  exact (hf r (log ++ first)).mono (fun _ => join) fun _ => join

theorem Makes.mono {ok' : ByteAccess β → Prop} (h : Makes ok x) (le : ∀ a, ok a → ok' a) :
    Makes ok' x := by
  have weaken : ∀ log log' : List (ByteAccess β), (∃ added, log' = log ++ added ∧ ∀ a ∈ added, ok a) →
      ∃ added, log' = log ++ added ∧ ∀ a ∈ added, ok' a := by
    rintro log log' ⟨added, eq, all⟩
    exact ⟨added, eq, fun a mem => le a (all a mem)⟩
  exact fun log => (h log).mono (fun _ => weaken log) fun _ => weaken log

theorem makes_ite {c : Prop} [Decidable c] {y : Traced β α} (hx : Makes ok x) (hy : Makes ok y) :
    Makes ok (if c then x else y) := by
  split
  · exact hx
  · exact hy

theorem makes_forM {ι : Type} {body : ι → Traced β Unit} (h : ∀ i, Makes ok (body i)) :
    ∀ xs : List ι, Makes ok (xs.forM body)
  | [] => makes_pure
  | i :: xs => (h i).bind fun _ => makes_forM h xs

theorem makes_forEach {lo hi : Nat} {body : Nat → Traced β Unit} (h : ∀ i, Makes ok (body i)) :
    Makes ok (forEach lo hi body) :=
  makes_forM h _

theorem makes_foldlM {ι : Type} {body : τ → ι → Traced β τ} (h : ∀ t i, Makes ok (body t i)) :
    ∀ (xs : List ι) (t : τ), Makes ok (xs.foldlM body t)
  | [], _ => makes_pure
  | i :: xs, t => (h t i).bind fun t => makes_foldlM h xs t

theorem makes_searchEach {body : Nat → τ → Traced β (τ ⊕ α)} {atEnd : α}
    (h : ∀ i t, Makes ok (body i t)) :
    ∀ (remaining i : Nat) (t : τ), Makes ok (searchEach body atEnd remaining i t)
  | 0, _, _ => makes_pure
  | remaining + 1, i, t => (h i t).bind fun r =>
    match r with
    | .inl t => makes_searchEach h remaining (i + 1) t
    | .inr _ => makes_pure

/-- Every access of a run is of `ok`, whether or not the run comes to its end. -/
def Accesses (ok : ByteAccess β → Prop) (x : Traced β α) : Prop :=
  Ends x [] (fun _ log => ∀ a ∈ log, ok a) (fun _ log => ∀ a ∈ log, ok a)

theorem Makes.accesses (h : Makes ok x) : Accesses ok x := by
  have all : ∀ log : List (ByteAccess β), (∃ added, log = [] ++ added ∧ ∀ a ∈ added, ok a) →
      ∀ a ∈ log, ok a := by
    rintro _ ⟨added, rfl, all⟩
    exact all
  exact (h []).mono (fun _ => all) fun _ => all

/-- The accesses of a run that comes to its end. -/
theorem Traces.accesses_iff {r : α} {trace : List (ByteAccess β)} (run : Traces x r trace) :
    Accesses ok x ↔ ∀ a ∈ trace, ok a := by
  unfold Accesses Ends
  rw [show x [] = .ok r trace from run]

/-- A run goes on from the end of its first part. -/
theorem Traces.bind {y : Traced β γ} {f : γ → Traced β α} {r : γ} {r' : α}
    {trace trace' : List (ByteAccess β)} (first : Traces y r trace)
    (second : f r trace = .ok r' trace') : Traces (y >>= f) r' trace' := by
  change EStateM.bind y f [] = _
  rw [EStateM.bind, show y [] = .ok r trace from first]
  exact second

/-! ### Accesses that are reached -/

/-- A run that comes to its end has made an access of `P`. -/
def Reaches (P : ByteAccess β → Prop) (x : Traced β α) : Prop :=
  ∀ log, Ends x log (fun _ log' => ∃ a ∈ log', P a) (fun _ _ => True)

variable {P : ByteAccess β → Prop}

theorem reaches_touch {a : ByteAccess β} (h : P a) : Reaches P (touch a) :=
  fun _ => ⟨a, List.mem_append_right _ (List.mem_singleton_self a), h⟩

/-- An access of the first part stays. -/
theorem Reaches.bind {y : Traced β γ} {f : γ → Traced β α} (hy : Reaches P y)
    (hf : ∀ r, Makes (fun _ => True) (f r)) : Reaches P (y >>= f) := by
  intro log
  rw [ends_bind]
  refine (hy log).mono ?_ fun _ _ _ => trivial
  rintro r log' ⟨a, mem, ha⟩
  refine (hf r log').mono ?_ fun _ _ _ => trivial
  rintro _ _ ⟨added, rfl, -⟩
  exact ⟨a, List.mem_append_left added mem, ha⟩

/-- The second part makes the access, whatever the first one does. -/
theorem reaches_after {y : Traced β γ} {f : γ → Traced β α} (hf : ∀ r, Reaches P (f r)) :
    Reaches P (y >>= f) := by
  intro log
  rw [ends_bind]
  unfold Ends
  cases y log with
  | ok r log' => exact hf r log'
  | error e log' => trivial

theorem reaches_compute {m : Machine Empty γ} {r : γ} {f : γ → Traced β α} (h : m = .ok r)
    (hf : Reaches P (f r)) : Reaches P (compute m >>= f) := by
  rw [h]
  exact hf

/-- A loop makes what its first pass makes. -/
theorem reaches_forM {ι : Type} {body : ι → Traced β Unit} {i : ι} {xs : List ι}
    (first : Reaches P (body i)) (rest : ∀ j, Makes (fun _ => True) (body j)) :
    Reaches P ((i :: xs).forM body) :=
  first.bind fun _ => makes_forM rest xs

/-- A run whose first part is safe makes what the second part makes of the results of the first. -/
theorem Safe.reaches {R : γ → Prop} {y : Traced β γ} {f : γ → Traced β α} (hy : Safe ok y R)
    (hf : ∀ r, R r → Reaches P (f r)) {r : α} {trace : List (ByteAccess β)}
    (run : Traces (y >>= f) r trace) : ∃ a ∈ trace, P a := by
  have ends : Ends (y >>= f) [] (fun _ log => ∃ a ∈ log, P a) (fun _ _ => True) := by
    rw [ends_bind]
    exact (hy [] nofun).mono (fun s log h => hf s h.1 log) fun _ _ _ => trivial
  unfold Ends at ends
  rwa [show (y >>= f) [] = .ok r trace from run] at ends

end Traced

end LoomKernels
