import LoomKernels.Command.Binding

/-!
# Submission

Command queues, the scope that borrows one to submit a sequence of commands, and the bookkeeping of
every submission. A scope holds the queue it borrows by value and gives it back when it ends, also when
it is leaked, so that the owner then sees the queue as the scope left it.

The driver is a `Device`: every command ever launched, and those that no successful synchronization
has shown to be done. Releases of resources and bindings are logged together with what is pending at
that moment, and records of events with what they covered before. Only the outcome of a driver call is taken
from outside.
-/

namespace LoomKernels

/-! ## Device -/

/-- A resource that stays alive as long as the command it was submitted with. -/
inductive RetainedResource where
  | kernel (function : String)
  | external (resource : Nat)
  deriving DecidableEq, Repr

/-- A command that was handed to the driver. -/
structure Command where
  serial : Nat
  stream : CudaStream
  queueId : Nat
  scopeId : Nat
  setId : Nat
  resource : RetainedResource
  deriving DecidableEq, Repr

/-- What a captured graph owns. -/
inductive GraphPart where
  | executable
  | graph
  | resources
  | bindings
  deriving DecidableEq, Repr

/-- What is released: the retained resources of a queue, a set of bindings, or a part of the graph that
was captured from a scope. -/
inductive Released where
  | resources (queueId : Nat)
  | bindings (setId : Nat)
  | graph (scopeId : Nat) (part : GraphPart)
  deriving DecidableEq, Repr

/-- A release, with the commands that may still run at that moment. -/
structure Release where
  what : Released
  pending : List Command
  deriving DecidableEq, Repr

/-- `rerecords` lists, for every record of an event, the pending commands that it covered before. -/
structure Device where
  log : List Command
  pending : List Command
  releases : List Release
  rerecords : List (List Command)
  deriving DecidableEq, Repr

/-- Two streams are the same to the driver. -/
def CudaStream.Same (s s' : CudaStream) : Prop :=
  s.cuStream = s'.cuStream ∧ s.context.cuCtx = s'.context.cuCtx

instance (s s' : CudaStream) : Decidable (s.Same s') := inferInstanceAs (Decidable (_ ∧ _))

/-- An event, recorded behind the first `recorded` commands of the device. -/
structure CudaEvent where
  recorded : Nat
  deriving DecidableEq, Repr

namespace Device

variable (device : Device)

/-- A launch may have reached the stream, whatever the driver reports. -/
def launch (command : Command) : Device :=
  { device with log := device.log ++ [command], pending := device.pending ++ [command] }

/-- The work that `done` covers has been shown to be over. -/
def settle (done : Command → Bool) : Device :=
  { device with pending := device.pending.filter fun command => !done command }

def release (what : Released) : Device :=
  { device with releases := device.releases ++ [⟨what, device.pending⟩] }

end Device

/-- What a successful query or synchronization of an event shows to be done. -/
def CudaEvent.covers (event : CudaEvent) (stream : CudaStream) (command : Command) : Bool :=
  command.stream.Same stream ∧ command.serial < event.recorded

/-- An event is recorded, or its record fails. -/
def Device.record (device : Device) (event : CudaEvent) (stream : CudaStream) : Device :=
  { device with
    rerecords := device.rerecords ++ [device.pending.filter fun c => event.covers stream c] }

/-- What a successful synchronization of a stream shows to be done. -/
def CudaStream.covers (stream : CudaStream) (command : Command) : Bool :=
  command.stream.Same stream

/-- What a successful synchronization of a context shows to be done. -/
def CudaContext.covers (context : CudaContext) (command : Command) : Bool :=
  command.stream.context.cuCtx = context.cuCtx

/-! ## Queues -/

inductive SubmissionError where
  | driver (error : DriverError)
  | external (error : ExternalCommandError)
  deriving DecidableEq, Repr

def SubmissionError.toCommandError : SubmissionError → CommandError
  | .driver error => .driver error
  | .external error => .external error

/-- `fresh_id`: the next value of the shared 64-bit counter. -/
def freshId (nextId : Nat) : Except CommandError Nat × Nat :=
  if nextId + 1 < 2 ^ 64 then (.ok nextId, nextId + 1)
  else (.error .identifierSpaceExhausted, nextId)

theorem freshId_cases (nextId : Nat) :
    freshId nextId = (.ok nextId, nextId + 1) ∨
      freshId nextId = (.error .identifierSpaceExhausted, nextId) := by
  unfold freshId
  split_ifs
  · exact .inl rfl
  · exact .inr rfl

/-- A reusable submission queue for one exact CUDA stream. A vector with room for `maxCommands`
resources exists, so that their number is below `isize::MAX`. -/
structure CommandQueue where
  id : Nat
  stream : CudaStream
  completionEvent : CudaEvent
  retainedResources : List RetainedResource
  maxCommands : Nat
  poisoned : Bool
  capacity_lt : maxCommands < 2 ^ 63
  deriving DecidableEq, Repr

/-- A stream-ordered sequence of commands on a borrowed queue. -/
structure CommandScope where
  queue : CommandQueue
  bindings : CheckedBindings
  scopeId : Nat
  submitted : Nat
  submissionError : Option SubmissionError
  deriving DecidableEq, Repr

namespace CommandQueue

/-- `new`, where the driver may fail to create the event. `none` is the panic of
`Vec::with_capacity`. -/
def new (stream : CudaStream) (maxCommands : Nat) (eventError : Option DriverError) (nextId : Nat) :
    Option (Except CommandError CommandQueue) × Nat :=
  if maxCommands = 0 then (some (.error .zeroCommandCapacity), nextId)
  else
    match freshId nextId with
    | (.error error, nextId) => (some (.error error), nextId)
    | (.ok id, nextId) =>
      match eventError with
      | some error => (some (.error (.driver error)), nextId)
      | none =>
        if capacity_lt : maxCommands < 2 ^ 63 then
          (some (.ok ⟨id, stream, ⟨0⟩, [], maxCommands, false, capacity_lt⟩), nextId)
        else (none, nextId)

/-- The counter never goes back. -/
theorem new_nextId (stream : CudaStream) (maxCommands : Nat) (eventError : Option DriverError)
    (nextId : Nat) : nextId ≤ (new stream maxCommands eventError nextId).2 := by
  unfold new
  split
  · exact le_rfl
  · rcases freshId_cases nextId with draw | draw
    · rw [draw]
      cases eventError
      · dsimp only
        split
        · exact Nat.le_succ nextId
        · exact Nat.le_succ nextId
      · exact Nat.le_succ nextId
    · rw [draw]

/-- A new queue. -/
theorem new_eq_ok {stream : CudaStream} {maxCommands : Nat} {eventError : Option DriverError}
    {nextId after : Nat} {queue : CommandQueue}
    (h : new stream maxCommands eventError nextId = (some (.ok queue), after)) :
    after = nextId + 1 ∧ queue.id = nextId ∧ queue.retainedResources = [] ∧
      queue.completionEvent = ⟨0⟩ ∧ queue.poisoned = false ∧ queue.stream = stream := by
  unfold new at h
  split at h
  · cases h
  · rcases freshId_cases nextId with drawn | drawn
    · rw [drawn] at h
      cases eventError with
      | some error => cases h
      | none =>
        dsimp only at h
        split at h
        · cases h
          exact ⟨rfl, rfl, rfl, rfl, rfl, rfl⟩
        · cases h
    · rw [drawn] at h
      cases h

variable (queue : CommandQueue)

/-- `bindings`: an empty set for this queue. -/
def newBindings (capacity : Nat) (nextId : Nat) : Except CommandError CheckedBindings × Nat :=
  if capacity = 0 then (.error .zeroBindingCapacity, nextId)
  else
    match freshId nextId with
    | (.error error, nextId) => (.error error, nextId)
    | (.ok setId, nextId) => (.ok ⟨queue.id, setId, queue.stream, [], capacity⟩, nextId)

theorem newBindings_cases (capacity nextId : Nat) :
    (∃ error, queue.newBindings capacity nextId = (.error error, nextId)) ∨
      queue.newBindings capacity nextId =
        (.ok ⟨queue.id, nextId, queue.stream, [], capacity⟩, nextId + 1) := by
  unfold newBindings
  split_ifs
  · exact .inl ⟨_, rfl⟩
  · rcases freshId_cases nextId with draw | draw
    · simp [draw]
    · simp [draw]

/-- `begin`: the scope, or the error with the queue as it is left. -/
def begin (bindings : CheckedBindings) (nextId : Nat) :
    Except (CommandError × CommandQueue) CommandScope × Nat :=
  if queue.poisoned then (.error (.queuePoisoned, queue), nextId)
  else if bindings.queueId ≠ queue.id ∨ bindings.stream.cuStream ≠ queue.stream.cuStream ∨
      bindings.stream.context.cuCtx ≠ queue.stream.context.cuCtx then
    (.error (.bindingsQueueMismatch, queue), nextId)
  else if queue.retainedResources ≠ [] then
    (.error (.queuePoisoned, { queue with poisoned := true }), nextId)
  else
    match freshId nextId with
    | (.error error, nextId) => (.error (error, queue), nextId)
    | (.ok scopeId, nextId) => (.ok ⟨queue, bindings, scopeId, 0, none⟩, nextId)

/-- A healthy queue without leftovers may open a scope; else the queue stays as it is, or is poisoned
because of its leftovers. -/
theorem begin_cases (bindings : CheckedBindings) (nextId : Nat) :
    (∃ error queue', queue.begin bindings nextId = (.error (error, queue'), nextId) ∧
        (queue' = queue ∨ queue.retainedResources ≠ [] ∧ queue' = { queue with poisoned := true })) ∨
      queue.poisoned = false ∧ queue.retainedResources = [] ∧
        queue.begin bindings nextId = (.ok ⟨queue, bindings, nextId, 0, none⟩, nextId + 1) := by
  unfold begin
  split_ifs with poisoned foreign leftover
  · exact .inl ⟨_, _, rfl, .inl rfl⟩
  · exact .inl ⟨_, _, rfl, .inl rfl⟩
  · exact .inl ⟨_, _, rfl, .inr ⟨leftover, rfl⟩⟩
  · rcases freshId_cases nextId with drawn | drawn
    · rw [drawn]
      exact .inr ⟨by simpa using poisoned, not_not.mp leftover, rfl⟩
    · rw [drawn]
      exact .inl ⟨_, _, rfl, .inl rfl⟩

end CommandQueue

/-! ## Scopes -/

/-- A single-use proof that one command fits in the preallocated queue. -/
structure CommandPermit where
  queueId : Nat
  scopeId : Nat
  submissionIndex : Nat
  deriving DecidableEq, Repr

namespace CommandScope

variable (scope : CommandScope)

def requireCommandCapacity (additionalCommands : Nat) : Except CommandError Unit :=
  if scope.submissionError.isSome then .error .scopePoisoned
  -- `saturating_add`
  else if min (scope.submitted + additionalCommands) (2 ^ 64 - 1) > scope.queue.maxCommands then
    .error (.commandCapacityExceeded scope.queue.maxCommands)
  else .ok ()

def prepareCommand : Except CommandError CommandPermit := do
  scope.requireCommandCapacity 1
  return ⟨scope.queue.id, scope.scopeId, scope.submitted⟩

/-- `record_submission`. `none` is the abort of the bookkeeping check. -/
def recordSubmission (permit : CommandPermit) (resource : RetainedResource) :
    Option CommandScope :=
  if permit.queueId ≠ scope.queue.id ∨ permit.scopeId ≠ scope.scopeId ∨
      permit.submissionIndex ≠ scope.submitted ∨
      scope.queue.retainedResources.length ≠ scope.submitted ∨
      scope.submitted ≥ scope.queue.maxCommands then none
  else some { scope with
    queue := { scope.queue with
      retainedResources := scope.queue.retainedResources ++ [resource] }
    submitted := scope.submitted + 1 }

/-- `record_preflight_driver_failure`, and the end of every other record of a failure. -/
def recordFailure (error : SubmissionError) : CommandScope :=
  { scope with queue := { scope.queue with poisoned := true }, submissionError := some error }

/-- `record_failed_*_submission` -/
def recordFailedSubmission (permit : CommandPermit) (resource : RetainedResource)
    (error : SubmissionError) : Option CommandScope :=
  (scope.recordSubmission permit resource).map (·.recordFailure error)

/-- `resolve_*` of a scope -/
def resolve (operands : List Operand) : Except CommandError (List DeviceBuffer) :=
  scope.bindings.resolve operands

end CommandScope

/-- The commands a scope hands over to a graph. -/
structure CapturedCommandSet where
  stream : CudaStream
  bindings : CheckedBindings
  resources : List RetainedResource
  submitted : Nat
  deriving DecidableEq, Repr

/-- `finish_capture`, with the queue it gives back. `none` is the failed assertion. -/
def CommandScope.finishCapture (scope : CommandScope) : Option (CapturedCommandSet × CommandQueue) :=
  if scope.submissionError = none ∧ scope.submitted > 0 then
    some (⟨scope.queue.stream, scope.bindings, scope.queue.retainedResources, scope.submitted⟩,
      { scope.queue with retainedResources := [] })
  else none

end LoomKernels
