import LoomKernels.Graph.Capture

/-!
# Recording

What the closure of a capture can and cannot do to the captured queue. An action that enqueues nothing
launches nothing, and no scope appears or disappears but by `begin` and by what consumes it (`Calm`). An
enqueue only launches commands of its own scope.

So in every run of a closure the scope that was begun, as long as it lives, accounts for exactly what was
recorded on the captured stream (`RecordInv`).
-/

namespace LoomKernels

/-! ## Actions that enqueue nothing -/

/-- The queue whose scope an action takes. -/
def QueueAction.takes : QueueAction → Option Nat
  | .finish queue _ => some queue
  | .dropScope queue _ => some queue
  | .forgetScope queue => some queue
  | _ => none

/-- An action without launches, from `w` to `w'`. -/
structure Calm (action : QueueAction) (w w' : QueueWorld) : Prop where
  log : w'.device.log = w.device.log
  pending : ∀ c ∈ w'.device.pending, c ∈ w.device.pending
  kept : ∀ id scope, w.slots id = .scope scope → action.takes ≠ some id → w'.slots id = .scope scope
  opened : ∀ id scope, w'.slots id = .scope scope →
    w.slots id = .scope scope ∨ ∃ set, action = .begin id set
  streams : ∀ id queue, (w'.slots id).queue = some queue →
    (∃ old, (w.slots id).queue = some old ∧ queue.stream = old.stream) ∨
      ∃ maxCommands error, action = .newQueue queue.stream maxCommands error

section Calm

variable {action : QueueAction} {w w' : QueueWorld} {id : Nat} {slot : Slot}

/-- No slot has changed. -/
theorem Calm.still (slots : w'.slots = w.slots) (log : w'.device.log = w.device.log)
    (pending : ∀ c ∈ w'.device.pending, c ∈ w.device.pending) : Calm action w w' where
  log := log
  pending := pending
  kept id scope found _ := by rwa [slots]
  opened id scope found := .inl (by rwa [slots] at found)
  streams id queue found := .inl ⟨queue, by rwa [slots] at found, rfl⟩

/-- One slot has changed. -/
theorem Calm.update (slots : w'.slots = Function.update w.slots id slot)
    (log : w'.device.log = w.device.log) (pending : ∀ c ∈ w'.device.pending, c ∈ w.device.pending)
    (taken : ∀ scope, w.slots id = .scope scope → action.takes = some id)
    (opened : ∀ scope, slot = .scope scope → ∃ set, action = .begin id set)
    (stream : ∀ queue, slot.queue = some queue →
      (∃ old, (w.slots id).queue = some old ∧ queue.stream = old.stream) ∨
        ∃ maxCommands error, action = .newQueue queue.stream maxCommands error) :
    Calm action w w' where
  log := log
  pending := pending
  kept id' scope found stays := by
    rcases eq_or_ne id' id with rfl | ne
    · exact absurd (taken scope found) stays
    · rwa [slots, Function.update_of_ne ne]
  opened id' scope found := by
    rw [slots] at found
    rcases eq_or_ne id' id with rfl | ne
    · rw [Function.update_self] at found
      exact .inr (opened scope found)
    · rw [Function.update_of_ne ne] at found
      exact .inl found
  streams id' queue found := by
    rw [slots] at found
    rcases eq_or_ne id' id with rfl | ne
    · rw [Function.update_self] at found
      exact stream queue found
    · rw [Function.update_of_ne ne] at found
      exact .inl ⟨queue, found, rfl⟩

theorem Calm.proceed {α : Type} {proc : Proc α} {next : QueueWorld → α → QueueWorld}
    {Q : α → Device → Prop} (ends : Ends proc w.device Q fun _ d' => d' = w.device)
    (calm : ∀ a d', Q a d' → Calm action w (next { w with device := d' } a)) :
    Calm action w (w.proceed proc next) := by
  unfold QueueWorld.proceed
  unfold Ends at ends
  cases result : proc w.device with
  | ok a d' =>
    rw [result] at ends
    exact calm a d' ends
  | error _ d' =>
    rw [result] at ends
    obtain rfl : d' = w.device := ends
    exact .still rfl rfl fun _ mem => mem

/-- A finish moves the event of its queue and nothing else of it. -/
theorem CommandScope.finish_ends (scope : CommandScope) (record : Option DriverError) (d : Device) :
    Ends (scope.finish record) d
      (fun completion d' => completion.queue.stream = scope.queue.stream ∧ d'.log = d.log ∧
        d'.pending = d.pending) (fun _ _ => False) := by
  unfold CommandScope.finish
  split_ifs
  · exact ⟨rfl, rfl, rfl⟩
  · cases record <;> exact ⟨rfl, rfl, rfl⟩

theorem CommandCompletion.isComplete_ends (completion : CommandCompletion)
    (query : Except DriverError Bool) (d : Device) :
    Ends (completion.isComplete query) d
      (fun result d' => d.Quieter d' ∧ result.2.queue = completion.queue) (fun _ _ => False) := by
  obtain ⟨queue, bindings, submitted, submissionError, recordError, pollError⟩ := completion
  unfold CommandCompletion.isComplete
  cases submissionError with
  | some error => exact ⟨.refl d, rfl⟩
  | none =>
    cases recordError with
    | some error => exact ⟨.refl d, rfl⟩
    | none =>
      cases pollError with
      | some error => exact ⟨.refl d, rfl⟩
      | none =>
        dsimp only
        split_ifs
        · exact ⟨.refl d, rfl⟩
        · cases query with
          | error error => exact ⟨.refl d, rfl⟩
          | ok complete =>
            cases complete with
            | false => exact ⟨.refl d, rfl⟩
            | true => exact ⟨d.settle_quieter _, rfl⟩

theorem CommandScope.after_stream (scope : CommandScope) (error : Option DriverError) :
    (scope.after error).stream = scope.queue.stream := rfl

theorem CommandCompletion.after_stream (completion : CommandCompletion)
    (failure : Option SettlementFailure) :
    (completion.after failure).stream = completion.queue.stream := by
  cases failure <;> rfl

theorem QueueWorld.newQueue_calm (inv : QueueInv w) (stream : CudaStream) (maxCommands : Nat)
    (error : Option DriverError) :
    Calm (.newQueue stream maxCommands error) w (w.newQueue stream maxCommands error) := by
  unfold QueueWorld.newQueue
  split
  · rename_i queue nextId made
    obtain ⟨-, fresh, -, -, -, same⟩ := CommandQueue.new_eq_ok made
    refine .update rfl rfl (fun _ mem => mem) (fun scope found => ?_) nofun fun queue' given => ?_
    · rw [fresh, inv.slot_fresh] at found
      cases found
    · cases given
      exact .inr ⟨maxCommands, error, by rw [same]⟩
  · exact .still rfl rfl fun _ mem => mem

theorem QueueWorld.begin_calm {queue : CommandQueue} (found : w.slots id = .idle queue)
    (set : Nat) (bindings : CheckedBindings) :
    Calm (.begin id set) w (w.begin id set queue bindings) := by
  have idle : ∀ scope, w.slots id = .scope scope → QueueAction.takes (.begin id set) = some id := by
    intro scope live
    rw [found] at live
    cases live
  unfold QueueWorld.begin
  rcases queue.begin_cases bindings w.nextId with ⟨error, queue', begun, left⟩ | ⟨-, -, begun⟩
  · have same : queue'.stream = queue.stream := by
      rcases left with rfl | ⟨-, rfl⟩ <;> rfl
    rw [begun]
    refine .update rfl rfl (fun _ mem => mem) idle nofun fun queue'' given => ?_
    cases given
    exact .inl ⟨queue, by rw [found]; rfl, same⟩
  · rw [begun]
    refine .update rfl rfl (fun _ mem => mem) idle (fun _ _ => ⟨set, rfl⟩) fun queue' given => ?_
    cases given
    exact .inl ⟨queue, by rw [found]; rfl, rfl⟩

/-- An action on a slot that leaves the queue of the slot idle, fenced or gone, on its stream. -/
theorem Calm.operate {α : Type} {proc : Proc α} {next : QueueWorld → α → QueueWorld}
    {Q : α → Device → Prop} (ends : Ends proc w.device Q fun _ d' => d' = w.device)
    (taken : ∀ scope, w.slots id = .scope scope → action.takes = some id)
    {after : α → Slot} {old : CommandQueue} (queue : (w.slots id).queue = some old)
    (slots : ∀ w a, (next w a).slots = Function.update w.slots id (after a))
    (device : ∀ w a, (next w a).device = w.device)
    (done : ∀ a d', Q a d' → d'.log = w.device.log ∧ (∀ c ∈ d'.pending, c ∈ w.device.pending) ∧
      (∀ scope, after a ≠ .scope scope) ∧
      ∀ queue, (after a).queue = some queue → queue.stream = old.stream) :
    Calm action w (w.proceed proc next) := by
  refine .proceed ends fun a d' result => ?_
  obtain ⟨log, pending, closed, stream⟩ := done a d' result
  refine .update (slots _ a) (by rw [device]; exact log) (by rw [device]; exact pending) taken
    (fun scope live => absurd live (closed scope)) fun queue' given =>
      .inl ⟨old, queue, stream queue' given⟩

theorem QueueWorld.step_calm (inv : QueueInv w) (action : QueueAction)
    (quiet : ∀ id call answers, action ≠ .enqueue id call answers) :
    Calm action w (w.step action) := by
  unfold QueueWorld.step
  have nothing : Calm action w w := .still rfl rfl fun _ mem => mem
  split
  · exact nothing
  · cases action with
    | newQueue stream maxCommands error => exact newQueue_calm inv stream maxCommands error
    | newBindings id capacity =>
      dsimp only [QueueWorld.newBindings]
      split
      · split <;> exact .still rfl rfl fun _ mem => mem
      · exact nothing
    | bindRead set buffer => exact .still rfl rfl fun _ mem => mem
    | bindReadWrite set buffer => exact .still rfl rfl fun _ mem => mem
    | take set handle => exact .still rfl rfl fun _ mem => mem
    | dropBindings set =>
      dsimp only
      split
      · exact .still rfl rfl fun _ mem => mem
      · exact nothing
    | begin id set =>
      dsimp only
      split
      · rename_i found _
        exact begin_calm found set _
      · exact nothing
    | enqueue id call answers => exact absurd rfl (quiet id call answers)
    | finish id record =>
      dsimp only
      split
      · rename_i scope found
        refine .operate ((scope.finish_ends record w.device).mono (fun _ _ h => h) nofun)
          (fun _ _ => rfl) (by rw [found]; rfl) (fun _ _ => rfl) (fun _ _ => rfl)
          fun fence d' ⟨stream, log, pending⟩ => ⟨log, fun c mem => pending ▸ mem, nofun, ?_⟩
        rintro queue ⟨⟩
        exact stream
      · exact nothing
    | dropScope id answers =>
      dsimp only
      split
      · rename_i scope found
        refine .operate (scope.drop_ends answers w.device) (fun _ _ => rfl) (by rw [found]; rfl)
          (fun _ _ => rfl) (fun _ _ => rfl) ?_
        rintro ⟨error, queue⟩ d' ⟨d₁, quieter, -, rfl, same⟩
        refine ⟨quieter.log, quieter.pending, nofun, ?_⟩
        rintro queue' ⟨⟩
        exact (congrArg CommandQueue.stream same).trans (scope.after_stream error)
      · exact nothing
    | forgetScope id =>
      dsimp only
      split
      · rename_i scope found
        refine .update rfl rfl (fun _ mem => mem) (fun _ _ => rfl) nofun fun queue given => ?_
        cases given
        exact .inl ⟨scope.queue, by rw [found]; rfl, rfl⟩
      · exact nothing
    | isComplete id query =>
      dsimp only
      split
      · rename_i fence found
        refine .operate ((fence.isComplete_ends query w.device).mono (fun _ _ h => h) nofun)
          (fun _ live => nomatch found.symm.trans live) (by rw [found]; rfl) (fun _ _ => rfl)
          (fun _ _ => rfl) ?_
        rintro ⟨result, after⟩ d' ⟨quieter, same⟩
        refine ⟨quieter.log, quieter.pending, nofun, ?_⟩
        rintro queue ⟨⟩
        exact congrArg CommandQueue.stream same
      · exact nothing
    | wait id answers =>
      dsimp only
      split
      · rename_i fence found
        refine .proceed (fence.wait_ends answers w.device) ?_
        rintro ⟨result, queue⟩ d' ⟨failure, d₁, settled, rfl, same, -⟩
        have stream : queue.stream = fence.queue.stream :=
          (congrArg CommandQueue.stream same).trans (fence.after_stream failure)
        have old : (w.slots id).queue = some fence.queue := by rw [found]; rfl
        cases result <;>
        · refine .update rfl settled.quieter.log settled.quieter.pending
            (fun _ live => nomatch found.symm.trans live) nofun ?_
          rintro queue' ⟨⟩
          exact .inl ⟨fence.queue, old, stream⟩
      · exact nothing
    | dropCompletion id answers =>
      dsimp only
      split
      · rename_i fence found
        refine .operate (fence.drop_ends answers w.device)
          (fun _ live => nomatch found.symm.trans live) (by rw [found]; rfl) (fun _ _ => rfl)
          (fun _ _ => rfl) ?_
        rintro ⟨failure, queue⟩ d' ⟨d₁, settled, rfl, same⟩
        refine ⟨settled.quieter.log, settled.quieter.pending, nofun, ?_⟩
        rintro queue' ⟨⟩
        exact (congrArg CommandQueue.stream same).trans (fence.after_stream failure)
      · exact nothing
    | forgetCompletion id =>
      dsimp only
      split
      · rename_i fence found
        refine .update rfl rfl (fun _ mem => mem) (fun _ live => nomatch found.symm.trans live) nofun
          fun queue given => ?_
        cases given
        exact .inl ⟨fence.queue, by rw [found]; rfl, rfl⟩
      · exact nothing
    | dropQueue id answers =>
      dsimp only
      split
      · rename_i queue found
        refine .operate (queue.drop_ends answers w.device)
          (fun _ live => nomatch found.symm.trans live) (by rw [found]; rfl) (fun _ _ => rfl)
          (fun _ _ => rfl) fun _ d' dropped => ?_
        rcases dropped with rfl | ⟨d₁, quieter, -, rfl⟩
        · exact ⟨rfl, fun _ mem => mem, nofun, nofun⟩
        · exact ⟨quieter.log, quieter.pending, nofun, nofun⟩
      · exact nothing

end Calm

/-! ## Enqueues -/

/-- Whatever a call answers, the scope has launched some commands. -/
theorem QueueInv.enqueue_launched {w : QueueWorld} {id : Nat} (inv : QueueInv w)
    {scope : CommandScope} (found : w.slots id = .scope scope) (call : OperatorCall)
    (answers : Answers) :
    ∃ s commands events, EnqueueState.Launched ⟨scope, w.device⟩ s commands ∧
      w.enqueue id scope call answers = { w with
        device := s.device
        slots := Function.update w.slots id (.scope s.scope)
        events } := by
  have live := (inv.live found).accounted
  have outcome := call.enqueueInto_enqueued answers (s := ⟨scope, w.device⟩)
  unfold QueueWorld.enqueue
  generalize call.enqueueInto answers ⟨scope, w.device⟩ = result at outcome ⊢
  cases outcome with
  | done resources _ _ =>
    obtain ⟨commands, launched, -⟩ := EnqueueState.submitAll_launched resources ⟨scope, w.device⟩
    exact ⟨_, commands, _, launched, rfl⟩
  | refused _ => exact ⟨_, [], _, .refl ⟨scope, w.device⟩, rfl⟩
  | failed resources reported _ _ =>
    obtain ⟨commands, launched, -⟩ := EnqueueState.submitAll_launched resources ⟨scope, w.device⟩
    exact ⟨_, commands, _, launched.fail reported, rfl⟩
  | aborted broken => exact absurd live.retained broken

/-! ## The recording -/

/-- The captured scope accounts for what was recorded: `first` is the scope as it was begun. -/
structure Recorded (start : Nat) (first scope : CommandScope) (d : Device) : Prop where
  scopeId : scope.scopeId = first.scopeId
  stream : scope.queue.stream = first.queue.stream
  bindings : scope.bindings = first.bindings
  resources : scope.queue.retainedResources =
    (recorded first.queue.stream start d.log).map (·.resource)
  submitted : scope.submitted = (recorded first.queue.stream start d.log).length
  nodes : ∀ c ∈ recorded first.queue.stream start d.log,
    c.stream = first.queue.stream ∧ c.queueId = first.queue.id ∧ c.setId = first.bindings.setId
  pending : ∀ c ∈ d.pending, c.queueId = first.queue.id ∨ c.setId = first.bindings.setId →
    first.queue.stream.covers c ∧ start ≤ c.serial

/-- What holds while the closure runs. -/
structure RecordInv (graphQueue start : Nat) (first : CommandScope) (s : CaptureState) : Prop where
  world : QueueInv s.world
  place : ∃ scope, s.world.slots s.place = .scope scope
  /-- No other queue is on the captured stream. -/
  hidden : ∀ id ≠ graphQueue, ∀ queue, (s.world.slots id).queue = some queue →
    ¬ queue.stream.Same first.queue.stream
  begun : start ≤ s.world.device.log.length
  owner : ∀ scope, s.world.slots graphQueue = .scope scope → Recorded start first scope s.world.device

theorem recorded_append (stream : CudaStream) {start : Nat} {log : List Command}
    (le : start ≤ log.length) (new : List Command) :
    recorded stream start (log ++ new) =
      recorded stream start log ++ new.filter (stream.covers ·) := by
  rw [recorded, List.drop_append_of_le_length le, List.filter_append, recorded]

section RecordInv

variable {graphQueue start : Nat} {first scope : CommandScope} {s : CaptureState} {d d' : Device}

/-- Nothing was recorded. -/
theorem Recorded.calm (inv : Recorded start first scope d) (log : d'.log = d.log)
    (pending : ∀ c ∈ d'.pending, c ∈ d.pending) : Recorded start first scope d' where
  scopeId := inv.scopeId
  stream := inv.stream
  bindings := inv.bindings
  resources := log ▸ inv.resources
  submitted := log ▸ inv.submitted
  nodes := log ▸ inv.nodes
  pending c mem := inv.pending c (pending c mem)

/-- The captured scope enqueues. -/
theorem Recorded.enqueue (inv : Recorded start first scope d) (le : start ≤ d.log.length)
    {after : EnqueueState} {commands : List Command}
    (launched : EnqueueState.Launched ⟨scope, d⟩ after commands)
    (queueId : scope.queue.id = first.queue.id) : Recorded start first after.scope after.device := by
  have own : ∀ c ∈ commands, c.stream = first.queue.stream ∧ c.queueId = first.queue.id ∧
      c.setId = first.bindings.setId ∧ start ≤ c.serial := by
    intro c mem
    obtain ⟨serial, later, -, same⟩ := launched.own c mem
    refine ⟨(congrArg Command.stream same).trans inv.stream,
      (congrArg Command.queueId same).trans queueId,
      (congrArg Command.setId same).trans (congrArg CheckedBindings.setId inv.bindings), ?_⟩
    rw [show c.serial = serial from congrArg Command.serial same]
    exact le.trans later
  have covered : ∀ c ∈ commands, first.queue.stream.covers c = true := fun c mem =>
    decide_eq_true ((own c mem).1 ▸ .refl _)
  have nodes : recorded first.queue.stream start after.device.log =
      recorded first.queue.stream start d.log ++ commands := by
    rw [launched.log, recorded_append _ le, List.filter_eq_self.mpr covered]
  refine ⟨launched.scope.trans inv.scopeId, launched.stream.trans inv.stream,
    launched.bindings.trans inv.bindings, ?_, ?_, fun c mem => ?_, fun c mem uses => ?_⟩
  · rw [nodes, launched.retained, inv.resources, List.map_append]
  · rw [nodes, launched.submitted, inv.submitted, List.length_append]
  · rw [nodes] at mem
    rcases List.mem_append.mp mem with mem | mem
    · exact inv.nodes c mem
    · exact ⟨(own c mem).1, (own c mem).2.1, (own c mem).2.2.1⟩
  · rw [launched.pending] at mem
    rcases List.mem_append.mp mem with mem | mem
    · exact inv.pending c mem uses
    · exact ⟨covered c mem, (own c mem).2.2.2⟩

/-- Another scope enqueues, on another stream. -/
theorem Recorded.other (inv : Recorded start first scope d) (le : start ≤ d.log.length)
    {other : CommandScope} {after : EnqueueState} {commands : List Command}
    (launched : EnqueueState.Launched ⟨other, d⟩ after commands)
    (stream : ¬ other.queue.stream.Same first.queue.stream)
    (queueId : other.queue.id ≠ first.queue.id)
    (setId : other.bindings.setId ≠ first.bindings.setId) :
    Recorded start first scope after.device := by
  have nodes : recorded first.queue.stream start after.device.log =
      recorded first.queue.stream start d.log := by
    have none : commands.filter (first.queue.stream.covers ·) = [] := by
      rw [List.filter_eq_nil_iff]
      intro c mem covered
      obtain ⟨serial, -, -, same⟩ := launched.own c mem
      have elsewhere : c.stream = other.queue.stream := congrArg Command.stream same
      exact stream (elsewhere ▸ of_decide_eq_true covered)
    rw [launched.log, recorded_append _ le, none, List.append_nil]
  refine ⟨inv.scopeId, inv.stream, inv.bindings, by rw [nodes, inv.resources],
    by rw [nodes, inv.submitted], by rw [nodes]; exact inv.nodes, fun c mem uses => ?_⟩
  rw [launched.pending] at mem
  rcases List.mem_append.mp mem with mem | mem
  · exact inv.pending c mem uses
  · obtain ⟨serial, -, -, same⟩ := launched.own c mem
    rcases uses with uses | uses
    · exact absurd ((congrArg Command.queueId same).symm.trans uses) queueId
    · exact absurd ((congrArg Command.setId same).symm.trans uses) setId

/-- An action of the closure that enqueues nothing. -/
theorem RecordInv.calm (inv : RecordInv graphQueue start first s) {action : QueueAction}
    (permitted : s.Permits graphQueue first.queue.stream action)
    (calm : Calm action s.world (s.world.step action)) :
    RecordInv graphQueue start first { s with world := s.world.step action } where
  world := inv.world.step action
  place := by
    obtain ⟨scope, found⟩ := inv.place
    refine ⟨scope, calm.kept s.place scope found ?_⟩
    cases action <;> simp_all [CaptureState.Permits, QueueAction.takes]
  hidden id ne queue given := by
    rcases calm.streams id queue given with ⟨old, found, same⟩ | ⟨maxCommands, error, rfl⟩
    · rw [same]
      exact inv.hidden id ne old found
    · simpa [CaptureState.Permits] using permitted
  begun := by
    rw [calm.log]
    exact inv.begun
  owner scope found := by
    rcases calm.opened graphQueue scope found with live | ⟨set, rfl⟩
    · exact (inv.owner scope live).calm calm.log calm.pending
    · simp [CaptureState.Permits] at permitted

theorem RecordInv.enqueue (inv : RecordInv graphQueue start first s)
    (queueId : first.queue.id = graphQueue) (id : Nat) (call : OperatorCall) (answers : Answers) :
    RecordInv graphQueue start first { s with world := s.world.step (.enqueue id call answers) } := by
  have world := inv.world.step (.enqueue id call answers)
  obtain ⟨here, placed⟩ := inv.place
  unfold QueueWorld.step at world ⊢
  split
  · exact inv
  · rename_i running
    simp only [running, Bool.false_eq_true, if_false] at world
    dsimp only at world ⊢
    split
    · rename_i scope found
      rw [found] at world
      dsimp only at world
      obtain ⟨after, commands, events, launched, eq⟩ := inv.world.enqueue_launched found call answers
      rw [eq] at world ⊢
      have same := inv.world.id_eq scope.queue (by rw [found]; rfl)
      refine ⟨world, ?_, fun id' ne queue given => ?_, ?_, fun captured live => ?_⟩
      · dsimp only
        rcases eq_or_ne s.place id with rfl | ne
        · exact ⟨after.scope, Function.update_self ..⟩
        · exact ⟨here, by rw [Function.update_of_ne ne, placed]⟩
      · dsimp only at given
        rcases eq_or_ne id' id with rfl | ne'
        · rw [Function.update_self] at given
          cases given
          rw [launched.stream]
          exact inv.hidden id' ne scope.queue (by rw [found]; rfl)
        · rw [Function.update_of_ne ne'] at given
          exact inv.hidden id' ne queue given
      · dsimp only
        rw [launched.log, List.length_append]
        exact Nat.le_add_right_of_le inv.begun
      · dsimp only at live
        rcases eq_or_ne id graphQueue with rfl | ne
        · rw [Function.update_self] at live
          cases live
          exact (inv.owner scope found).enqueue inv.begun launched (same.trans queueId.symm)
        · rw [Function.update_of_ne ne.symm] at live
          have own := inv.owner captured live
          refine own.other inv.begun launched (inv.hidden id ne scope.queue (by rw [found]; rfl))
            (fun eq => ne (same.symm.trans (eq.trans queueId))) fun eq => ne ?_
          -- no set is in two scopes
          refine (inv.world.held graphQueue captured.bindings (by rw [live]; rfl)).2.2 id
            scope.bindings (by rw [found]; rfl) ?_
          rw [eq, own.bindings]
    · exact inv

theorem RecordInv.record (inv : RecordInv graphQueue start first s)
    (queueId : first.queue.id = graphQueue) (action : RecordAction) :
    RecordInv graphQueue start first (s.record graphQueue first.queue.stream action) := by
  unfold CaptureState.record
  cases action with
  | queue action =>
    dsimp only
    split
    · rename_i permitted
      by_cases enqueues : ∃ id call answers, action = .enqueue id call answers
      · obtain ⟨id, call, answers, rfl⟩ := enqueues
        exact inv.enqueue queueId id call answers
      · exact inv.calm permitted (QueueWorld.step_calm inv.world action fun id call answers same =>
          enqueues ⟨id, call, answers, same⟩)
    · exact inv
  | exchange id =>
    dsimp only
    split
    · rename_i scope found
      exact ⟨inv.world, ⟨scope, found⟩, inv.hidden, inv.begun, inv.owner⟩
    · exact inv

/-- The invariant holds in every state of every closure. -/
theorem RecordInv.run (inv : RecordInv graphQueue start first s)
    (queueId : first.queue.id = graphQueue) (actions : List RecordAction) :
    RecordInv graphQueue start first
      (run (CaptureState.record graphQueue first.queue.stream) s actions) :=
  run_invariant inv (fun _ action inv => inv.record queueId action) actions

end RecordInv

end LoomKernels
