import LoomKernels.Command.Quiescence

/-!
# The poison of a queue

Something went wrong with a queue when a submission, a preflight call, an event record, a poll or a
settlement failed, when the synchronization of a destructor failed, or when a scope or completion with
submitted commands was leaked. From then on no scope is opened on it, and before that its poison is never
reported (`poison_law`). Its event is recorded only when nothing that it covered before is pending.

A leak is noticed only when the next scope is begun, behind the check of the bindings. Until a `begin`
with its own bindings or another failure has set the flag, bindings of another queue are refused as such
(`poison_behind_mismatch`).
-/

namespace LoomKernels

/-- The bindings were made by this queue. -/
def CommandQueue.Made (queue : CommandQueue) (bindings : CheckedBindings) : Prop :=
  bindings.queueId = queue.id ∧ bindings.stream = queue.stream

/-! ## Events are never forgotten -/

section Events

variable {w : QueueWorld}

theorem QueueWorld.proceed_events {α : Type} {proc : Proc α} {next : QueueWorld → α → QueueWorld}
    {event : Nat × QueueEvent} (mem : event ∈ w.events)
    (kept : ∀ w a, event ∈ w.events → event ∈ (next w a).events) :
    event ∈ (w.proceed proc next).events := by
  unfold QueueWorld.proceed
  split
  · exact kept _ _ mem
  · exact mem

theorem QueueWorld.step_events {event : Nat × QueueEvent} (action : QueueAction)
    (mem : event ∈ w.events) : event ∈ (w.step action).events := by
  unfold QueueWorld.step
  split
  · exact mem
  · cases action with
    | newQueue stream maxCommands eventError =>
      dsimp only [QueueWorld.newQueue]
      split <;> exact mem
    | newBindings id capacity =>
      dsimp only [QueueWorld.newBindings]
      split
      · split <;> exact mem
      · exact mem
    | bindRead set buffer => exact mem
    | bindReadWrite set buffer => exact mem
    | take set handle => exact mem
    | dropBindings set =>
      dsimp only
      split <;> exact mem
    | begin id set =>
      dsimp only [QueueWorld.begin]
      split
      · split <;> exact mem
      · exact mem
    | enqueue id call answers =>
      dsimp only [QueueWorld.enqueue]
      split
      · split
        · exact mem
        · exact List.mem_append_left _ mem
        · exact mem
      · exact mem
    | finish id record =>
      dsimp only [QueueWorld.finish]
      split
      · exact proceed_events mem fun _ _ mem => List.mem_append_left _ mem
      · exact mem
    | dropScope id answers =>
      dsimp only [QueueWorld.dropScope]
      split
      · exact proceed_events mem fun _ _ mem => List.mem_append_left _ mem
      · exact mem
    | forgetScope id =>
      dsimp only [QueueWorld.forgetScope]
      split
      · exact List.mem_append_left _ mem
      · exact mem
    | isComplete id query =>
      dsimp only [QueueWorld.isComplete]
      split
      · exact proceed_events mem fun _ _ mem => List.mem_append_left _ mem
      · exact mem
    | wait id answers =>
      dsimp only [QueueWorld.wait]
      split
      · refine proceed_events mem fun _ result mem => ?_
        split
        · exact mem
        · exact List.mem_append_left _ mem
      · exact mem
    | dropCompletion id answers =>
      dsimp only [QueueWorld.dropCompletion]
      split
      · exact proceed_events mem fun _ _ mem => List.mem_append_left _ mem
      · exact mem
    | forgetCompletion id =>
      dsimp only [QueueWorld.forgetCompletion]
      split
      · exact List.mem_append_left _ mem
      · exact mem
    | dropQueue id answers =>
      dsimp only [QueueWorld.dropQueue]
      split
      · exact proceed_events mem fun _ _ mem => mem
      · exact mem

/-- What went wrong stays wrong. -/
theorem QueueWorld.Broken.later {id : Nat} (broken : w.Broken id) (actions : List QueueAction) :
    (run QueueWorld.step w actions).Broken id := by
  obtain ⟨event, mem⟩ := broken
  let Happened : QueueWorld → Prop := fun w => (id, event) ∈ w.events
  have kept (w : QueueWorld) (action : QueueAction) : Happened w → Happened (w.step action) :=
    QueueWorld.step_events action
  exact ⟨event, run_invariant (show Happened w from mem) kept actions⟩

end Events

/-! ## The flag stays set -/

/-- The number of the queue is drawn, and its flag is set as long as it lives. -/
structure QueueWorld.Flagged (w : QueueWorld) (id : Nat) : Prop where
  drawn : id < w.nextId
  flag : ∀ queue, (w.slots id).queue = some queue → queue.poisoned = true

section Flagged

variable {w w' : QueueWorld} {id i : Nat}

/-- An action that changes no slot. -/
theorem QueueWorld.Flagged.frame (flagged : w.Flagged id) (nextId : w.nextId ≤ w'.nextId)
    (slots : w'.slots = w.slots) : w'.Flagged id :=
  ⟨flagged.drawn.trans_le nextId, fun queue found => flagged.flag queue (slots ▸ found)⟩

/-- An action on a queue that does not reset its flag. -/
theorem QueueWorld.Flagged.update (flagged : w.Flagged id) {queue : CommandQueue}
    (found : (w.slots i).queue = some queue) (slot : Slot) (nextId : w.nextId ≤ w'.nextId)
    (slots : w'.slots = Function.update w.slots i slot)
    (kept : queue.poisoned = true → ∀ after, slot.queue = some after → after.poisoned = true) :
    w'.Flagged id := by
  refine ⟨flagged.drawn.trans_le nextId, fun after here => ?_⟩
  rw [slots] at here
  rcases eq_or_ne id i with rfl | ne
  · rw [Function.update_self] at here
    exact kept (flagged.flag queue found) after here
  · rw [Function.update_of_ne ne] at here
    exact flagged.flag after here

/-- An action that leaves the queue behind as `after`. -/
theorem QueueWorld.Flagged.replace (flagged : w.Flagged id) {queue after : CommandQueue}
    (found : (w.slots i).queue = some queue) (slot : Slot) (now : slot.queue = some after)
    (nextId : w.nextId ≤ w'.nextId) (slots : w'.slots = Function.update w.slots i slot)
    (kept : queue.poisoned = true → after.poisoned = true) : w'.Flagged id := by
  refine flagged.update found slot nextId slots fun flag queue' same => ?_
  obtain rfl := Option.some.inj (now.symm.trans same)
  exact kept flag

theorem QueueWorld.Flagged.proceed (flagged : w.Flagged id) {α : Type} {proc : Proc α}
    {next : QueueWorld → α → QueueWorld} {Q : α → Prop}
    (ends : Ends proc w.device (fun a _ => Q a) fun _ _ => True)
    (kept : ∀ a device, Q a → (next { w with device } a).Flagged id) :
    (w.proceed proc next).Flagged id := by
  unfold QueueWorld.proceed
  unfold Ends at ends
  cases result : proc w.device with
  | ok a device =>
    rw [result] at ends
    exact kept a device ends
  | error _ device => exact flagged.frame le_rfl rfl

theorem CommandScope.finish_flag (scope : CommandScope) (record : Option DriverError) (d : Device) :
    Ends (scope.finish record) d
      (fun completion _ => completion.queue.poisoned = scope.queue.poisoned) fun _ _ => True := by
  unfold CommandScope.finish
  split_ifs
  · exact rfl
  · cases record <;> exact rfl

theorem CommandCompletion.isComplete_flag (completion : CommandCompletion)
    (query : Except DriverError Bool) (d : Device) :
    Ends (completion.isComplete query) d
      (fun result _ => result.2.queue.poisoned = completion.queue.poisoned) fun _ _ => True := by
  unfold CommandCompletion.isComplete
  split
  · exact rfl
  · exact rfl
  · exact rfl
  · split_ifs
    · exact rfl
    · split <;> exact rfl

/-- A settlement sets the flag or leaves it. -/
theorem CommandCompletion.after_flag (completion : CommandCompletion)
    (failure : Option SettlementFailure) (flag : completion.queue.poisoned = true) :
    (completion.after failure).poisoned = true := by
  cases failure with
  | none => exact flag
  | some _ => rfl

theorem CommandScope.after_flag (scope : CommandScope) (synchronizeError : Option DriverError)
    (flag : scope.queue.poisoned = true) : (scope.after synchronizeError).poisoned = true := by
  simp only [CommandScope.after, flag, ite_self]

theorem QueueWorld.Flagged.newQueue (flagged : w.Flagged id) (stream : CudaStream)
    (maxCommands : Nat) (eventError : Option DriverError) :
    (w.newQueue stream maxCommands eventError).Flagged id := by
  have later := CommandQueue.new_nextId stream maxCommands eventError w.nextId
  unfold QueueWorld.newQueue
  split
  · rename_i queue nextId made
    rw [made] at later
    obtain ⟨-, fresh, -⟩ := CommandQueue.new_eq_ok made
    -- the new queue takes a number that no queue had
    have ne : id ≠ queue.id := fresh ▸ flagged.drawn.ne
    refine ⟨flagged.drawn.trans_le later, fun queue' found => flagged.flag queue' ?_⟩
    dsimp only at found
    rwa [Function.update_of_ne ne] at found
  · rename_i made
    rw [made] at later
    exact flagged.frame later rfl

theorem QueueWorld.Flagged.newBindings (flagged : w.Flagged id) (queue : CommandQueue)
    (capacity : Nat) : (w.newBindings queue capacity).Flagged id := by
  unfold QueueWorld.newBindings
  rcases queue.newBindings_cases capacity w.nextId with ⟨error, eq⟩ | eq
  · rw [eq]
    exact flagged.frame le_rfl rfl
  · rw [eq]
    exact flagged.frame (Nat.le_succ _) rfl

theorem QueueWorld.Flagged.begin (flagged : w.Flagged id) {queue : CommandQueue}
    (found : w.slots i = .idle queue) (set : Nat) (bindings : CheckedBindings) :
    (w.begin i set queue bindings).Flagged id := by
  have here : (w.slots i).queue = some queue := by rw [found]; rfl
  unfold QueueWorld.begin
  rcases queue.begin_cases bindings w.nextId with ⟨error, queue', eq, left⟩ | ⟨-, -, eq⟩
  · rw [eq]
    refine flagged.replace here (.idle queue') rfl le_rfl rfl fun flag => ?_
    rcases left with rfl | ⟨-, rfl⟩
    · exact flag
    · rfl
  · rw [eq]
    exact flagged.replace here _ rfl (Nat.le_succ _) rfl fun flag => flag

theorem QueueWorld.Flagged.enqueue (flagged : w.Flagged id) {scope : CommandScope}
    (found : w.slots i = .scope scope) (call : OperatorCall) (answers : Answers) :
    (w.enqueue i scope call answers).Flagged id := by
  have here : (w.slots i).queue = some scope.queue := by rw [found]; rfl
  have outcome := call.enqueueInto_enqueued answers (s := ⟨scope, w.device⟩)
  unfold QueueWorld.enqueue
  generalize call.enqueueInto answers ⟨scope, w.device⟩ = result at outcome ⊢
  cases outcome with
  | done resources _ _ =>
    exact flagged.replace here _ rfl le_rfl rfl fun flag =>
      (submitAll_poison resources ⟨scope, w.device⟩).1.trans flag
  | refused _ =>
    exact flagged.replace here _ rfl le_rfl rfl fun flag => flag
  | failed resources reported _ _ =>
    exact flagged.replace here _ rfl le_rfl rfl fun _ => rfl
  | aborted _ => exact flagged.frame le_rfl rfl

theorem QueueWorld.Flagged.step (flagged : w.Flagged id) (action : QueueAction) :
    (w.step action).Flagged id := by
  unfold QueueWorld.step
  split
  · exact flagged
  · cases action with
    | newQueue stream maxCommands eventError => exact flagged.newQueue stream maxCommands eventError
    | newBindings i capacity =>
      dsimp only
      split
      · exact flagged.newBindings _ capacity
      · exact flagged
    | bindRead set buffer => exact flagged.frame le_rfl rfl
    | bindReadWrite set buffer => exact flagged.frame le_rfl rfl
    | take set handle => exact flagged.frame le_rfl rfl
    | dropBindings set =>
      dsimp only
      split
      · exact flagged.frame le_rfl rfl
      · exact flagged
    | begin i set =>
      dsimp only
      split
      · rename_i found _
        exact flagged.begin found set _
      · exact flagged
    | enqueue i call answers =>
      dsimp only
      split
      · rename_i found
        exact flagged.enqueue found call answers
      · exact flagged
    | finish i record =>
      dsimp only
      split
      · rename_i scope found
        exact flagged.proceed (scope.finish_flag record w.device) fun completion _ eq =>
          flagged.replace (congrArg Slot.queue found) (.completion completion) rfl le_rfl rfl eq.trans
      · exact flagged
    | dropScope i answers =>
      dsimp only
      split
      · rename_i scope found
        refine flagged.proceed ((scope.drop_ends answers w.device).mono
          (fun result _ ⟨_, _, _, _, eq⟩ => eq) fun _ _ _ => trivial) fun result _ eq =>
          flagged.replace (congrArg Slot.queue found) (.idle result.2) rfl le_rfl rfl fun flag => ?_
        exact eq ▸ scope.after_flag result.1 flag
      · exact flagged
    | forgetScope i =>
      dsimp only
      split
      · rename_i scope found
        exact flagged.replace (congrArg Slot.queue found) (.idle scope.queue) rfl le_rfl rfl
          fun flag => flag
      · exact flagged
    | isComplete i query =>
      dsimp only
      split
      · rename_i completion found
        exact flagged.proceed (completion.isComplete_flag query w.device) fun result _ eq =>
          flagged.replace (congrArg Slot.queue found) (.completion result.2) rfl le_rfl rfl eq.trans
      · exact flagged
    | wait i answers =>
      dsimp only
      split
      · rename_i completion found
        refine flagged.proceed ((completion.wait_ends answers w.device).mono
          (fun result _ ⟨failure, _, _, _, eq, _⟩ => (⟨failure, eq⟩ :
            ∃ failure, result.2 = completion.after failure)) fun _ _ _ => trivial) ?_
        rintro ⟨result, queue⟩ device ⟨failure, eq⟩
        obtain rfl : queue = completion.after failure := eq
        have here := congrArg Slot.queue found
        have kept := completion.after_flag failure
        cases result with
        | ok bindings => exact flagged.replace here _ rfl le_rfl rfl kept
        | error error => exact flagged.replace here _ rfl le_rfl rfl kept
      · exact flagged
    | dropCompletion i answers =>
      dsimp only
      split
      · rename_i completion found
        refine flagged.proceed ((completion.drop_ends answers w.device).mono
          (fun result _ ⟨_, _, _, eq⟩ => eq) fun _ _ _ => trivial) fun result _ eq =>
          flagged.replace (congrArg Slot.queue found) (.idle result.2) rfl le_rfl rfl fun flag => ?_
        exact eq ▸ completion.after_flag result.1 flag
      · exact flagged
    | forgetCompletion i =>
      dsimp only
      split
      · rename_i completion found
        exact flagged.replace (congrArg Slot.queue found) (.idle completion.queue) rfl le_rfl rfl
          fun flag => flag
      · exact flagged
    | dropQueue i answers =>
      dsimp only
      split
      · rename_i queue found
        refine flagged.proceed ((queue.drop_ends answers w.device).mono
          (fun _ _ _ => trivial) fun _ _ _ => trivial) fun _ _ _ =>
          flagged.update (congrArg Slot.queue found) .gone le_rfl rfl nofun
      · exact flagged

end Flagged

/-! ## The law -/

theorem CommandQueue.begin_broken {queue : CommandQueue}
    (broken : queue.poisoned = true ∨ queue.retainedResources ≠ []) (bindings : CheckedBindings)
    (nextId : Nat) :
    ∃ error queue', (queue.begin bindings nextId).1 = .error (error, queue') ∧
      (error = .queuePoisoned ∧ queue'.poisoned = true ∨
        error = .bindingsQueueMismatch ∧ ¬ queue.Made bindings ∧ queue.poisoned = false ∧
          queue.retainedResources ≠ []) := by
  unfold CommandQueue.begin
  split_ifs with poisoned foreign leftover
  · exact ⟨_, _, rfl, .inl ⟨rfl, poisoned⟩⟩
  · refine ⟨_, _, rfl, .inr ⟨rfl, fun made => ?_, Bool.eq_false_iff.mpr poisoned,
      broken.resolve_left poisoned⟩⟩
    simp [made.1, made.2] at foreign
  · exact ⟨_, _, rfl, .inl ⟨rfl, rfl⟩⟩
  · exact absurd (broken.resolve_left poisoned) leftover

theorem CommandQueue.begin_healthy {queue : CommandQueue} (healthy : queue.poisoned = false)
    (empty : queue.retainedResources = []) {bindings : CheckedBindings} {nextId : Nat}
    {error : CommandError} {queue' : CommandQueue}
    (failed : (queue.begin bindings nextId).1 = .error (error, queue')) : error ≠ .queuePoisoned := by
  unfold CommandQueue.begin at failed
  rw [if_neg (by simp [healthy]), if_neg (not_not.mpr empty)] at failed
  split_ifs at failed with foreign
  · cases failed
    nofun
  · rcases freshId_cases nextId with drawn | drawn
    · rw [drawn] at failed
      cases failed
    · rw [drawn] at failed
      cases failed
      nofun

/-- In every run: once something went wrong with a queue, every later `begin` on it fails, for ever, and
reports the poison, which sets the flag. Only after a leak, as long as the flag is not set, it reports
bindings that were not made by the queue instead; a flag that is set stays set. Before anything went
wrong no `begin` reports the poison. And whenever the event of a queue is recorded, nothing that it
covered before is pending. -/
theorem poison_law (before after : List QueueAction) (id : Nat) :
    (∀ queue, (run QueueWorld.step .start (before ++ after)).slots id = .idle queue →
      ∀ bindings nextId,
        ((run QueueWorld.step .start before).Broken id →
          ∃ error queue', (queue.begin bindings nextId).1 = .error (error, queue') ∧
            (error = .queuePoisoned ∧ queue'.poisoned = true ∨
              error = .bindingsQueueMismatch ∧ ¬ queue.Made bindings ∧ queue.poisoned = false ∧
                (id, .leaked) ∈ (run QueueWorld.step .start (before ++ after)).events)) ∧
        (¬ (run QueueWorld.step .start (before ++ after)).Broken id →
          ∀ error queue', (queue.begin bindings nextId).1 = .error (error, queue') →
            error ≠ .queuePoisoned) ∧
        ∀ flagged, (run QueueWorld.step .start before).slots id = .idle flagged →
          flagged.poisoned = true → queue.poisoned = true) ∧
      ∀ covered ∈ (run QueueWorld.step .start (before ++ after)).device.rerecords, covered = [] := by
  have inv := QueueInv.run (before ++ after)
  have split : run QueueWorld.step .start (before ++ after) =
      run QueueWorld.step (run QueueWorld.step .start before) after := List.foldl_append
  refine ⟨fun queue found bindings nextId => ⟨fun broken => ?_, fun unbroken error queue' failed => ?_,
    fun flagged here flag => ?_⟩, inv.rerecords⟩
  · have later : (run QueueWorld.step .start (before ++ after)).Broken id := by
      rw [split]
      exact broken.later after
    obtain ⟨error, queue', failed, reported⟩ :=
      queue.begin_broken ((inv.idle found).poison.mp later) bindings nextId
    refine ⟨error, queue', failed, reported.imp_right ?_⟩
    rintro ⟨mismatch, foreign, unflagged, leftover⟩
    exact ⟨mismatch, foreign, unflagged, inv.leftover id queue found leftover⟩
  · have clean := mt (inv.idle found).poison.mpr unbroken
    rw [not_or, not_not, Bool.not_eq_true] at clean
    exact CommandQueue.begin_healthy clean.1 clean.2 failed
  · have drawn := ((QueueInv.run before).queueId id flagged (congrArg Slot.queue here)).2
    have set : (run QueueWorld.step .start before).Flagged id := by
      refine ⟨drawn, fun queue' found' => ?_⟩
      rw [here] at found'
      cases found'
      exact flag
    have stays := run_invariant (P := fun w : QueueWorld => w.Flagged id) set
      (fun _ action kept => kept.step action) after
    exact (split ▸ stays : (run QueueWorld.step .start (before ++ after)).Flagged id).flag queue
      (congrArg Slot.queue found)

/-- A scope with a submitted command is leaked, and there is another queue with bindings. -/
def leakActions : List QueueAction :=
  submitActions ++ [.forgetScope 1, .newQueue ⟨3, ⟨7, 0⟩⟩ 4 none, .newBindings 4 3]

/-- After the leak, `begin` with the bindings of the other queue does not report the poison. -/
theorem poison_behind_mismatch :
    (run QueueWorld.step .start leakActions).Broken 1 ∧
      ∃ queue bindings queue', (run QueueWorld.step .start leakActions).slots 1 = .idle queue ∧
        (run QueueWorld.step .start leakActions).hand 5 = some bindings ∧
        (queue.begin bindings (run QueueWorld.step .start leakActions).nextId).1 =
          .error (.bindingsQueueMismatch, queue') :=
  ⟨⟨.leaked, by decide⟩, _, _, _, rfl, rfl, rfl⟩

end LoomKernels
