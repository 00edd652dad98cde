import LoomKernels.Lib.Process

/-!
# Machine words

A program on words of `w` bits, with its defects made visible: an operation whose exact result is
not a word, a division by zero and an index outside an array are faults. A `Machine` computation
either faults, or fails the way the program itself fails, or has the value that exact arithmetic
gives. So a computation that is shown to succeed has been shown not to wrap.

A program that also writes is an `EStateM` over its memory. `HaltsOnly E x` says that, from every
memory, the only stops of `x` are those of `E`; it has rules for sequences, for loops, and for
programs that work on a part of the memory.
-/

namespace LoomKernels

/-- A defect of a computation on machine words. -/
inductive MachineFault where
  | wraps
  | dividesByZero
  | outOfBounds
  deriving DecidableEq, Repr

/-- What stops a computation: a fault, or a failure of its own. -/
inductive Halt (ε : Type) where
  | fault (fault : MachineFault)
  | failed (failure : ε)
  deriving DecidableEq, Repr

/-- A computation on machine words. -/
abbrev Machine (ε : Type) := Except (Halt ε)

/-- A stop that is a defect. -/
def Halt.isFault {ε : Type} : Halt ε → Bool
  | .fault _ => true
  | .failed _ => false

/-- A computation that does no arithmetic. -/
def lift {ε α : Type} (x : Except ε α) : Machine ε α := x.mapError Halt.failed

/-- A program that reads and writes a memory of type `σ`. -/
abbrev Program (ε σ : Type) := EStateM (Halt ε) σ

/-- A computation without memory, as a step of a program. -/
def compute {ε σ α : Type} (x : Machine ε α) : Program ε σ α := fun s =>
  match x with
  | .ok a => .ok a s
  | .error e => .error e s

/-! ## Operations -/

section Operations

variable {ε : Type} (w : Nat) {a b c : Nat}

def addWord (a b : Nat) : Machine ε Nat :=
  if a + b < 2 ^ w then .ok (a + b) else .error (.fault .wraps)

def mulWord (a b : Nat) : Machine ε Nat :=
  if a * b < 2 ^ w then .ok (a * b) else .error (.fault .wraps)

def subWord (a b : Nat) : Machine ε Nat := if b ≤ a then .ok (a - b) else .error (.fault .wraps)

def divWord (a b : Nat) : Machine ε Nat :=
  if b ≠ 0 then .ok (a / b) else .error (.fault .dividesByZero)

def modWord (a b : Nat) : Machine ε Nat :=
  if b ≠ 0 then .ok (a % b) else .error (.fault .dividesByZero)

/-- `a - b` of two signed words. -/
def subSigned (a b : Int) : Machine ε Int :=
  if -2 ^ (w - 1) ≤ a - b ∧ a - b < 2 ^ (w - 1) then .ok (a - b) else .error (.fault .wraps)

/-- The check of an access to one element of an array. -/
def inBounds (i len : Nat) : Machine ε Unit :=
  if i < len then .ok () else .error (.fault .outOfBounds)

/-- The check of an access to the elements `lo..hi` of an array. -/
def rangeInBounds (lo hi len : Nat) : Machine ε Unit :=
  if lo ≤ hi ∧ hi ≤ len then .ok () else .error (.fault .outOfBounds)

variable {w}

@[simp] theorem lift_ok {α : Type} (a : α) : lift (.ok a : Except ε α) = .ok a := rfl

@[simp] theorem lift_error {α : Type} (e : ε) :
    lift (.error e : Except ε α) = .error (.failed e) := rfl

theorem lift_eq_ok {α : Type} {x : Except ε α} {a : α} : lift x = .ok a ↔ x = .ok a := by
  cases x <;> simp [lift, Except.mapError]

section Inversion

variable {α : Type} {x : α}

theorem addWord_bind_eq_ok {f : Nat → Machine ε α} :
    (addWord w a b >>= f) = .ok x ↔ a + b < 2 ^ w ∧ f (a + b) = .ok x := by
  unfold addWord
  split <;> simp [*]

theorem mulWord_bind_eq_ok {f : Nat → Machine ε α} :
    (mulWord w a b >>= f) = .ok x ↔ a * b < 2 ^ w ∧ f (a * b) = .ok x := by
  unfold mulWord
  split <;> simp [*]

theorem subWord_bind_eq_ok {f : Nat → Machine ε α} :
    (subWord a b >>= f) = .ok x ↔ b ≤ a ∧ f (a - b) = .ok x := by
  unfold subWord
  split <;> simp [*]

theorem subSigned_bind_eq_ok {a b : Int} {f : Int → Machine ε α} :
    (subSigned w a b >>= f) = .ok x ↔
      (-2 ^ (w - 1) ≤ a - b ∧ a - b < 2 ^ (w - 1)) ∧ f (a - b) = .ok x := by
  unfold subSigned
  split
  · rename_i fits
    rw [and_iff_right fits]
    rfl
  · rename_i wraps
    exact iff_of_false nofun fun both => wraps both.1

theorem inBounds_eq_ok {i len : Nat} : inBounds i len = (.ok () : Machine ε Unit) ↔ i < len := by
  unfold inBounds
  split <;> simp [*]

end Inversion

theorem addWord_eq_ok : addWord w a b = (.ok c : Machine ε Nat) ↔ a + b < 2 ^ w ∧ a + b = c := by
  unfold addWord
  split <;> simp [*]

theorem addWord_ok (h : a + b < 2 ^ w) : addWord w a b = (.ok (a + b) : Machine ε Nat) := if_pos h

theorem mulWord_ok (h : a * b < 2 ^ w) : mulWord w a b = (.ok (a * b) : Machine ε Nat) := if_pos h

theorem subWord_ok (h : b ≤ a) : subWord a b = (.ok (a - b) : Machine ε Nat) := if_pos h

theorem divWord_ok (h : 0 < b) : divWord a b = (.ok (a / b) : Machine ε Nat) := if_pos h.ne'

theorem modWord_ok (h : 0 < b) : modWord a b = (.ok (a % b) : Machine ε Nat) := if_pos h.ne'

/-- The difference of two signed words that are not negative is a signed word. -/
theorem subSigned_ok {a b : Int} (ha : 0 ≤ a) (hb : 0 ≤ b) (ha' : a < 2 ^ (w - 1))
    (hb' : b < 2 ^ (w - 1)) : subSigned w a b = (.ok (a - b) : Machine ε Int) :=
  if_pos ⟨by omega, by omega⟩

theorem inBounds_ok {i len : Nat} (h : i < len) : inBounds i len = (.ok () : Machine ε Unit) :=
  if_pos h

theorem rangeInBounds_ok {lo hi len : Nat} (h : lo ≤ hi) (h' : hi ≤ len) :
    rangeInBounds lo hi len = (.ok () : Machine ε Unit) :=
  if_pos ⟨h, h'⟩

/-- A computation that does no arithmetic has no defect. -/
theorem avoids_lift {α : Type} (x : Except ε α) : Avoids Halt.isFault (lift x) := by
  cases x with
  | ok a => exact avoids_ok a
  | error e => exact avoids_error rfl

end Operations

/-! ## Programs -/

section Programs

variable {ε σ τ α β : Type} {E : Halt ε → Prop}

/-- `for i in lo..hi { body(i) }` -/
def forEach (lo hi : Nat) (body : Nat → Program ε σ Unit) : Program ε σ Unit :=
  (List.range' lo (hi - lo)).forM body

/-- A program over a part of the memory. -/
def onPart (get : τ → σ) (put : τ → σ → τ) (x : Program ε σ α) : Program ε τ α := fun t =>
  match x (get t) with
  | .ok a s => .ok a (put t s)
  | .error e s => .error e (put t s)

/-- A program with a local variable, which starts as `init` and whose last value is returned. -/
def withLocal (init : τ) (x : Program ε (σ × τ) α) : Program ε σ (α × τ) := fun s =>
  match x (s, init) with
  | .ok a (s', last) => .ok (a, last) s'
  | .error e (s', _) => .error e s'

/-- From every memory, the program ends well or with a stop of `E`. -/
def HaltsOnly (E : Halt ε → Prop) (x : Program ε σ α) : Prop :=
  ∀ s, Ends x s (fun _ _ => True) (fun e _ => E e)

/-- A program that stops for no reason ends well. -/
def Succeeds (x : Program ε σ α) : Prop := HaltsOnly (fun _ => False) x

@[simp] theorem compute_ok (a : α) : compute (.ok a) = (pure a : Program ε σ α) := rfl

@[simp] theorem ends_compute {x : Machine ε α} {s : σ} {Q : α → σ → Prop}
    {E : Halt ε → σ → Prop} : Ends (compute x) s Q E ↔
      (∀ a, x = .ok a → Q a s) ∧ ∀ e, x = .error e → E e s := by
  cases x with
  | ok a => exact ⟨fun h => ⟨fun _ h' => Except.ok.inj h' ▸ h, nofun⟩, fun h => h.1 a rfl⟩
  | error e => exact ⟨fun h => ⟨nofun, fun _ h' => Except.error.inj h' ▸ h⟩, fun h => h.2 e rfl⟩

theorem haltsOnly_pure (a : α) : HaltsOnly E (pure a : Program ε σ α) := fun _ => trivial

theorem haltsOnly_modify (f : σ → σ) : HaltsOnly E (modify f : Program ε σ Unit) := fun _ => trivial

theorem HaltsOnly.bind {x : Program ε σ α} {f : α → Program ε σ β} (hx : HaltsOnly E x)
    (hf : ∀ a, HaltsOnly E (f a)) : HaltsOnly E (x >>= f) := by
  intro s
  rw [ends_bind]
  exact (hx s).mono (fun a s' _ => hf a s') fun _ _ h => h

theorem haltsOnly_forEach {lo hi : Nat} {body : Nat → Program ε σ Unit}
    (h : ∀ i, lo ≤ i → i < hi → HaltsOnly E (body i)) : HaltsOnly E (forEach lo hi body) := by
  have list : ∀ is : List Nat, (∀ i ∈ is, HaltsOnly E (body i)) → HaltsOnly E (is.forM body) := by
    intro is
    induction is with
    | nil => exact fun _ => haltsOnly_pure ()
    | cons i is ih =>
      intro h
      exact (h i List.mem_cons_self).bind fun _ => ih fun j hj => h j (List.mem_cons_of_mem _ hj)
  refine list _ fun i hi => ?_
  have := List.mem_range'_1.mp hi
  exact h i (by omega) (by omega)

/-- The invariant rule for a loop of a program. -/
theorem ends_forEach {P : Nat → σ → Prop} {E : Halt ε → σ → Prop} {lo hi : Nat}
    {body : Nat → Program ε σ Unit} {s : σ} (h : lo ≤ hi) (init : P lo s)
    (pass : ∀ i s, lo ≤ i → i < hi → P i s → Ends (body i) s (fun _ s' => P (i + 1) s') E) :
    Ends (forEach lo hi body) s (fun _ s' => P hi s') E := by
  obtain ⟨n, rfl⟩ : ∃ n, hi = lo + n := ⟨hi - lo, by omega⟩
  rw [forEach, Nat.add_sub_cancel_left]
  clear h
  induction n generalizing lo s with
  | zero => exact init
  | succ n ih =>
    rw [List.range'_succ]
    change Ends (body lo >>= fun _ => (List.range' (lo + 1) n).forM body) s _ E
    rw [ends_bind]
    refine (pass lo s le_rfl (by omega) init).mono (fun _ s' hs' => ?_) fun _ _ h => h
    have stop : lo + (n + 1) = lo + 1 + n := by omega
    rw [stop] at pass ⊢
    exact ih hs' fun i s hl hi => pass i s (by omega) hi

/-- A program over a part of the memory ends as it does on that part. -/
theorem ends_onPart {get : τ → σ} {put : τ → σ → τ} {x : Program ε σ α} {t : τ}
    {Q : α → τ → Prop} {E : Halt ε → τ → Prop} :
    Ends (onPart get put x) t Q E ↔
      Ends x (get t) (fun a s => Q a (put t s)) (fun e s => E e (put t s)) := by
  unfold Ends onPart
  cases x (get t) <;> rfl

theorem ends_withLocal {init : τ} {x : Program ε (σ × τ) α} {s : σ} {Q : α × τ → σ → Prop}
    {E : Halt ε → σ → Prop} :
    Ends (withLocal init x) s Q E ↔
      Ends x (s, init) (fun a memory => Q (a, memory.2) memory.1) (fun e memory => E e memory.1) := by
  unfold Ends withLocal
  cases x (s, init) <;> rfl

theorem HaltsOnly.onPart {get : τ → σ} {put : τ → σ → τ} {x : Program ε σ α}
    (h : HaltsOnly E x) : HaltsOnly E (onPart get put x) :=
  fun t => ends_onPart.mpr (h (get t))

theorem HaltsOnly.withLocal {x : Program ε (σ × τ) α} (h : HaltsOnly E x) (init : τ) :
    HaltsOnly E (withLocal init x) :=
  fun s => ends_withLocal.mpr (h (s, init))

theorem HaltsOnly.mono {E' : Halt ε → Prop} {x : Program ε σ α} (h : HaltsOnly E x)
    (le : ∀ e, E e → E' e) : HaltsOnly E' x :=
  fun s => (h s).mono (fun _ _ h => h) fun e _ => le e

/-- Every stop of the program for a reason of `stops` leaves the memory as it was. -/
def Atomic (stops : Halt ε → Prop) (x : Program ε σ α) : Prop :=
  ∀ s, Ends x s (fun _ _ => True) (fun e s' => stops e → s' = s)

variable {stops : Halt ε → Prop}

/-- A program that never stops for a reason of `stops`. -/
theorem HaltsOnly.atomic {x : Program ε σ α} (h : HaltsOnly E x) (other : ∀ e, E e → ¬ stops e) :
    Atomic stops x :=
  fun s => (h s).mono (fun _ _ h => h) fun e _ he stopped => absurd stopped (other e he)

/-- A program that starts with a check needs to be atomic only where the check passes. -/
theorem atomic_of_check {x : Machine ε α} {f : α → Program ε σ β} {p : Program ε σ β}
    (starts : p = compute x >>= f) (passed : ∀ a, x = .ok a → Atomic stops p) :
    Atomic stops p := by
  cases hx : x with
  | ok a => exact passed a hx
  | error e =>
    rw [starts, hx]
    exact fun _ _ => rfl

end Programs

end LoomKernels
