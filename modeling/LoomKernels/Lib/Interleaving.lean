import LoomKernels.Lib.Store

/-!
# Interleavings of threads with disjoint effects

A thread is a straight-line program of reads and writes on a shared memory. A schedule names, one
after another, the thread that runs its next operation; any schedule is allowed, so a run is an
arbitrary interleaving. `effects` is what a thread writes when it runs alone from the initial
memory.

When no thread reads an address that some thread writes, a complete run leaves at an address the
value that all its writers agree on (`complete_run_written`), and any run leaves the other addresses
alone (`run_frame`). So all complete runs end in one memory (`complete_run_mem`). The run invariant
is `Pending`.
-/

namespace LoomKernels

/-- One operation of a thread. A written value is computed from the values read so far. -/
inductive Op (A V : Type) where
  | read (a : A)
  | write (a : A) (value : List V → V)

/-- A thread's registers, oldest read first, and the operations still to run. -/
structure ThreadState (A V : Type) where
  regs : List V
  todo : List (Op A V)

/-- The shared memory and every thread. -/
structure Config (T A V : Type) where
  mem : A → V
  threads : T → ThreadState A V

/-! ## Steps -/

section Steps

variable {T A V : Type}

/-- The initial configuration: no thread has run. -/
def Config.start (mem : A → V) (program : T → List (Op A V)) : Config T A V :=
  ⟨mem, fun t => ⟨[], program t⟩⟩

/-- The thread after its next operation; a finished thread stays. -/
def ThreadState.next (s : ThreadState A V) (mem : A → V) : ThreadState A V :=
  match s.todo with
  | [] => s
  | .read a :: rest => ⟨s.regs ++ [mem a], rest⟩
  | .write _ _ :: rest => ⟨s.regs, rest⟩

/-- The memory after the thread's next operation. -/
def ThreadState.store [DecidableEq A] (s : ThreadState A V) (mem : A → V) : A → V :=
  match s.todo with
  | .write a value :: _ => Function.update mem a (value s.regs)
  | _ => mem

/-- Thread `t` runs its next operation, if it has one. -/
def Config.step [DecidableEq T] [DecidableEq A] (c : Config T A V) (t : T) : Config T A V :=
  ⟨(c.threads t).store c.mem, Function.update c.threads t ((c.threads t).next c.mem)⟩

/-- The configuration after a schedule. -/
def Config.run [DecidableEq T] [DecidableEq A] (c : Config T A V) (schedule : List T) :
    Config T A V :=
  schedule.foldl Config.step c

/-- Every thread has run all its operations. -/
def Config.Complete (c : Config T A V) : Prop :=
  ∀ t, (c.threads t).todo = []

/-- The writes of a thread that runs alone, its reads answered by `mem`. -/
def effects (mem : A → V) : List V → List (Op A V) → List (A × V)
  | _, [] => []
  | regs, .read a :: rest => effects mem (regs ++ [mem a]) rest
  | regs, .write a value :: rest => (a, value regs) :: effects mem regs rest

/-- The addresses a thread writes, in order. -/
def writeSet : List (Op A V) → List A
  | [] => []
  | .read _ :: rest => writeSet rest
  | .write a _ :: rest => a :: writeSet rest

theorem effects_writeSet (mem : A → V) (regs : List V) (ops : List (Op A V)) :
    (effects mem regs ops).map Prod.fst = writeSet ops := by
  induction ops generalizing regs with
  | nil => rfl
  | cons op rest ih =>
    cases op with
    | read a => exact ih _
    | write a value => exact congrArg (a :: ·) (ih _)

theorem mem_writeSet {mem : A → V} {regs : List V} {ops : List (Op A V)} {w : A × V}
    (h : w ∈ effects mem regs ops) : w.1 ∈ writeSet ops :=
  effects_writeSet mem regs ops ▸ List.mem_map_of_mem h

/-- What a thread has still to write. -/
def ThreadState.effects (mem : A → V) (s : ThreadState A V) : List (A × V) :=
  LoomKernels.effects mem s.regs s.todo

theorem next_suffix (s : ThreadState A V) (mem : A → V) : (s.next mem).todo <:+ s.todo := by
  unfold ThreadState.next
  split <;> rename_i h <;> simp [h]

/-- One operation, seen from the thread: either nothing is stored and the effects to come stay the
same, or the first of them is stored. -/
theorem next_effects [DecidableEq A] {s : ThreadState A V} {mem now : A → V}
    (unread : ∀ a, Op.read a ∈ s.todo → now a = mem a) :
    (s.store now = now ∧ (s.next now).effects mem = s.effects mem) ∨
    ∃ w, s.store now = Function.update now w.1 w.2 ∧
      s.effects mem = w :: (s.next now).effects mem := by
  obtain ⟨regs, todo⟩ := s
  cases todo with
  | nil => exact Or.inl ⟨rfl, rfl⟩
  | cons op rest =>
    cases op with
    | read a =>
      have same : now a = mem a := unread a List.mem_cons_self
      exact Or.inl ⟨rfl, by simp [ThreadState.next, ThreadState.effects, effects, same]⟩
    | write a value => exact Or.inr ⟨(a, value regs), rfl, rfl⟩

end Steps

/-! ## Runs -/

section Run

variable {T A V : Type}

/-- What holds while threads run, for one address `a` and the value `v` that all its writers agree
on. The operations left are a suffix of the program; what they will still write is part of the
thread's effects; a write to `a` that is not pending any more has reached memory; an address no
thread writes is untouched. -/
structure Pending (mem : A → V) (program : T → List (Op A V)) (a : A) (v : V)
    (c : Config T A V) : Prop where
  suffix : ∀ t, (c.threads t).todo <:+ program t
  pending : ∀ t w, w ∈ (c.threads t).effects mem → w ∈ effects mem [] (program t)
  done : ∀ t w, w ∈ effects mem [] (program t) → w.1 = a →
    w ∈ (c.threads t).effects mem ∨ c.mem a = v
  frame : ∀ b, (∀ t, b ∉ writeSet (program t)) → c.mem b = mem b

variable {mem : A → V} {program : T → List (Op A V)} {a : A} {v : V}

theorem pending_start : Pending mem program a v (Config.start mem program) where
  suffix _ := List.suffix_refl _
  pending _ _ h := h
  done _ _ h _ := Or.inl h
  frame _ _ := rfl

variable [DecidableEq T] [DecidableEq A]

/-- One operation keeps the invariant. A read sees the initial memory because no thread writes the
address it reads; a write stores the agreed value because it is one of the thread's effects. -/
theorem pending_step
    (separate : ∀ t t' b, Op.read b ∈ program t → b ∉ writeSet (program t'))
    (agree : ∀ t, ∀ w ∈ effects mem [] (program t), w.1 = a → w.2 = v)
    {c : Config T A V} (inv : Pending mem program a v c) (t : T) :
    Pending mem program a v (c.step t) := by
  have unread : ∀ b, Op.read b ∈ (c.threads t).todo → c.mem b = mem b := fun b hb =>
    inv.frame b fun t' => separate t t' b ((inv.suffix t).subset hb)
  have others : ∀ t', t' ≠ t → (c.step t).threads t' = c.threads t' := fun t' ht =>
    Function.update_of_ne ht _ _
  have self : (c.step t).threads t = (c.threads t).next c.mem := Function.update_self _ _ _
  have suffix : ∀ t', ((c.step t).threads t').todo <:+ program t' := by
    intro t'
    by_cases ht : t' = t
    · subst ht
      rw [self]
      exact (next_suffix _ _).trans (inv.suffix t')
    · rw [others t' ht]
      exact inv.suffix t'
  rcases next_effects unread with ⟨stored, same⟩ | ⟨w, stored, first⟩
  · have keep : ∀ t', ((c.step t).threads t').effects mem = (c.threads t').effects mem := by
      intro t'
      by_cases ht : t' = t
      · subst ht
        rw [self, same]
      · rw [others t' ht]
    have unchanged : (c.step t).mem = c.mem := stored
    refine ⟨suffix, fun t' w => ?_, fun t' w => ?_, ?_⟩
    · rw [keep]
      exact inv.pending t' w
    · rw [keep, unchanged]
      exact inv.done t' w
    · rw [unchanged]
      exact inv.frame
  · have updated : (c.step t).mem = Function.update c.mem w.1 w.2 := stored
    have own : w ∈ effects mem [] (program t) :=
      inv.pending t w (by rw [first]; exact List.mem_cons_self)
    refine ⟨suffix, fun t' w' hw' => ?_, fun t' w' hw' ha => ?_, fun b hb => ?_⟩
    · by_cases ht : t' = t
      · subst ht
        rw [self] at hw'
        exact inv.pending t' w' (by rw [first]; exact List.mem_cons_of_mem _ hw')
      · rw [others t' ht] at hw'
        exact inv.pending t' w' hw'
    · rw [updated]
      by_cases here : w.1 = a
      · exact Or.inr (by rw [here, Function.update_self, agree t w own here])
      · rw [Function.update_of_ne (Ne.symm here)]
        refine (inv.done t' w' hw' ha).imp_left fun h => ?_
        by_cases ht : t' = t
        · subst ht
          rw [first, List.mem_cons] at h
          rw [self]
          exact h.resolve_left fun he => here (he ▸ ha)
        · rw [others t' ht]
          exact h
    · have hne : b ≠ w.1 := by
        rintro rfl
        exact hb t (mem_writeSet own)
      rw [updated, Function.update_of_ne hne]
      exact inv.frame b hb

/-- Every run keeps the invariant. -/
theorem pending_run
    (separate : ∀ t t' b, Op.read b ∈ program t → b ∉ writeSet (program t'))
    (agree : ∀ t, ∀ w ∈ effects mem [] (program t), w.1 = a → w.2 = v) (schedule : List T) :
    Pending mem program a v ((Config.start mem program).run schedule) := by
  suffices h : ∀ (schedule : List T) (c : Config T A V), Pending mem program a v c →
      Pending mem program a v (c.run schedule) from h schedule _ pending_start
  intro schedule
  induction schedule with
  | nil => exact fun _ inv => inv
  | cons t schedule ih => exact fun c inv => ih _ (pending_step separate agree inv t)

/-- After a complete run, an address holds the value its writers agree on. -/
theorem complete_run_written
    (separate : ∀ t t' b, Op.read b ∈ program t → b ∉ writeSet (program t'))
    (agree : ∀ t, ∀ w ∈ effects mem [] (program t), w.1 = a → w.2 = v) {schedule : List T}
    (complete : ((Config.start mem program).run schedule).Complete) {t : T}
    (written : a ∈ writeSet (program t)) : ((Config.start mem program).run schedule).mem a = v := by
  obtain ⟨w, hw, rfl⟩ := List.mem_map.mp (effects_writeSet mem [] (program t) ▸ written)
  refine ((pending_run separate agree schedule).done t w hw rfl).resolve_left fun h => ?_
  rw [ThreadState.effects, complete t, effects] at h
  exact absurd h List.not_mem_nil

/-- After any run, an address that no thread writes holds what it held. -/
theorem run_frame (separate : ∀ t t' b, Op.read b ∈ program t → b ∉ writeSet (program t'))
    (schedule : List T) (unwritten : ∀ t, a ∉ writeSet (program t)) :
    ((Config.start mem program).run schedule).mem a = mem a := by
  refine (pending_run (a := a) (v := mem a) separate (fun t w hw he => ?_) schedule).frame a
    unwritten
  exact absurd (he ▸ mem_writeSet hw) (unwritten t)

/-- Every complete run ends in the same memory: the target that all effects agree with, when it
differs from the initial memory on written addresses only. -/
theorem complete_run_mem
    (separate : ∀ t t' b, Op.read b ∈ program t → b ∉ writeSet (program t'))
    {target : A → V} (agree : ∀ t, ∀ w ∈ effects mem [] (program t), w.2 = target w.1)
    (covered : ∀ a, (∀ t, a ∉ writeSet (program t)) → target a = mem a) {schedule : List T}
    (complete : ((Config.start mem program).run schedule).Complete) :
    ((Config.start mem program).run schedule).mem = target := by
  funext a
  by_cases written : ∃ t, a ∈ writeSet (program t)
  · obtain ⟨t, ht⟩ := written
    exact complete_run_written separate (fun t w hw he => he ▸ agree t w hw) complete ht
  · rw [not_exists] at written
    rw [run_frame separate schedule written, covered a written]

/-- Threads that agree wherever two of them write have one final memory, whatever their order. -/
theorem exists_final (separate : ∀ t t' b, Op.read b ∈ program t → b ∉ writeSet (program t'))
    (agree : ∀ t t', ∀ w ∈ effects mem [] (program t), ∀ w' ∈ effects mem [] (program t'),
      w.1 = w'.1 → w.2 = w'.2) :
    ∃ final : A → V, (∀ t, ∀ w ∈ effects mem [] (program t), final w.1 = w.2) ∧
      (∀ a, (∀ t, a ∉ writeSet (program t)) → final a = mem a) ∧
      ∀ schedule, ((Config.start mem program).run schedule).Complete →
        ((Config.start mem program).run schedule).mem = final := by
  have value : ∀ a, ∃ v, (∀ t, ∀ w ∈ effects mem [] (program t), w.1 = a → v = w.2) ∧
      ((∀ t, a ∉ writeSet (program t)) → v = mem a) := by
    intro a
    by_cases written : ∃ t, a ∈ writeSet (program t)
    · obtain ⟨t, ht⟩ := written
      rw [← effects_writeSet mem []] at ht
      obtain ⟨w, hw, rfl⟩ := List.mem_map.mp ht
      exact ⟨w.2, fun t' w' hw' here => agree t t' w hw w' hw' here.symm,
        fun unwritten => absurd (mem_writeSet hw) (unwritten t)⟩
    · rw [not_exists] at written
      exact ⟨mem a, fun t w hw here => absurd (here ▸ mem_writeSet hw) (written t), fun _ => rfl⟩
  choose final stored frame using value
  exact ⟨final, fun t w hw => stored w.1 t w hw rfl, frame, fun schedule complete =>
    complete_run_mem separate (fun t w hw => (stored w.1 t w hw rfl).symm) frame complete⟩

/-- A thread's operations left are those it has not been scheduled for. -/
theorem run_todo (schedule : List T) (t : T) :
    (((Config.start mem program).run schedule).threads t).todo =
      (program t).drop (schedule.count t) := by
  suffices h : ∀ (schedule : List T) (c : Config T A V),
      ((c.run schedule).threads t).todo = (c.threads t).todo.drop (schedule.count t) from
    h schedule (Config.start mem program)
  intro schedule
  induction schedule with
  | nil => exact fun _ => rfl
  | cons u schedule ih =>
    intro c
    refine (ih (c.step u)).trans ?_
    by_cases hu : u = t
    · subst hu
      have self : (c.step u).threads u = (c.threads u).next c.mem := Function.update_self _ _ _
      rw [self, List.count_cons_self, ← List.drop_drop, ThreadState.next]
      split <;> simp_all
    · have other : (c.step u).threads t = c.threads t := Function.update_of_ne (Ne.symm hu) _ _
      rw [other, List.count_cons_of_ne (by simpa using hu)]

/-- Finitely many working threads have a complete run. -/
theorem exists_complete (mem : A → V) (program : T → List (Op A V)) (workers : List T)
    (idle : ∀ t, t ∉ workers → program t = []) :
    ∃ schedule, ((Config.start mem program).run schedule).Complete := by
  refine ⟨workers.flatMap fun t => List.replicate (program t).length t, fun t => ?_⟩
  rw [run_todo, List.drop_eq_nil_iff]
  by_cases ht : t ∈ workers
  · calc (program t).length = (List.replicate (program t).length t).count t := by simp
      _ ≤ (workers.flatMap fun t => List.replicate (program t).length t).count t := by
        rw [List.flatMap_def]
        exact (List.sublist_flatten_of_mem (List.mem_map_of_mem
          (f := fun t => List.replicate (program t).length t) ht)).count_le t
  · simp [idle t ht]

end Run

end LoomKernels
