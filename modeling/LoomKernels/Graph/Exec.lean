import LoomKernels.Graph.Capture

/-!
# Executable graphs

The instantiation of a captured graph, its replays, and the destructors of the executable and of the
completion that borrows it. A replay in flight is settled by the completion, by the executable when the
completion was leaked, or by a failed launch itself.

A completion holds nothing but the launch index, so its operations are on the executable it borrows. What
an operation records as an error of the context, and the index of the completion it creates, are part of
its `GraphOutcome`.
-/

namespace LoomKernels

/-! ## Data -/

/-- One executable fixed-address graph. `graph` also stands for the executable handle. -/
structure GraphExec where
  graph : RawGraph
  stream : CudaStream
  completionEvent : CudaEvent
  bindings : CheckedBindings
  resources : List RetainedResource
  commands : Nat
  launches : Nat
  inFlight : Bool
  recordError : Option DriverError
  pollError : Option DriverError
  poisoned : Bool
  deriving DecidableEq, Repr

structure GraphSettlementFailure where
  reported : DriverError
  synchronizeError : Option DriverError
  deriving DecidableEq, Repr

def GraphSettlementFailure.intoError (failure : GraphSettlementFailure) (operation : String) :
    GraphError :=
  match failure.synchronizeError with
  | some synchronization => .settlement operation failure.reported synchronization
  | none => .driver operation failure.reported

/-- The result of an operation, the launch index of the completion it created, the failure it recorded in
the context, and the executable afterwards. -/
structure GraphOutcome (α : Type) where
  result : α
  launched : Option Nat
  failure : Option GraphSettlementFailure
  exec : GraphExec

/-! ## Instantiation -/

/-- `null` tells whether the handle of a successful instantiation is null. -/
structure InstantiateAnswers where
  event : Option DriverError
  bind : Option DriverError
  instantiate : Option DriverError
  null : Bool
  graph : DestroyAnswers

/-- `RawGraphExec::instantiate` -/
def InstantiateAnswers.rawExec (answers : InstantiateAnswers) : Except GraphError Unit :=
  match answers.bind, answers.instantiate with
  | some error, _ => .error (.driver "instantiate context binding" error)
  | none, some error => .error (.driver "instantiate" error)
  | none, none => if answers.null then .error .nullExecutableHandle else .ok ()

/-- `instantiate`: on an error the captured graph is dropped. -/
def CapturedGraph.instantiate (captured : CapturedGraph) (answers : InstantiateAnswers) :
    Proc (Except GraphError GraphExec) := do
  match answers.event, answers.rawExec with
  | some error, _ =>
    captured.drop answers.graph
    return .error (.driver "completion event creation" error)
  | none, .error error =>
    captured.drop answers.graph
    return .error error
  | none, .ok () =>
    return .ok ⟨captured.graph, captured.stream, ⟨0⟩, captured.bindings, captured.resources,
      captured.commands, 0, false, none, none, false⟩

/-! ## Replays -/

structure LaunchAnswers where
  bind : Option DriverError
  launch : Option DriverError
  record : Option DriverError
  sync : SyncAnswers

/-- An event of the caller, and whether its context is the very context of the stream. -/
structure TimingEvent where
  sharesContext : Bool

/-- `elapsed` is the time in the bits of an `f32`. -/
structure MeasureAnswers where
  start : Option DriverError
  launch : LaunchAnswers
  stop : Option DriverError
  sync : SyncAnswers
  elapsed : Except DriverError Nat

/-- Of the executable and of the graph. -/
structure TeardownAnswers where
  sync : SyncAnswers
  executable : DestroyAnswers
  graph : DestroyAnswers

namespace GraphExec

variable (exec : GraphExec)

/-- A replay is one command for the driver, of the scope that was captured. -/
def replay (serial : Nat) : Command :=
  ⟨serial, exec.stream, exec.bindings.queueId, exec.graph.scopeId, exec.bindings.setId,
    .external exec.graph.scopeId⟩

/-- The event after a record, which may have failed. -/
def recordedEvent (error : Option DriverError) : Proc CudaEvent := do
  match error with
  | none => return ⟨(← get).log.length⟩
  | some _ => return exec.completionEvent

/-- `launch`: with its index, when a completion borrows the executable. -/
def launch (answers : LaunchAnswers) : Proc (GraphOutcome (Except GraphError Nat)) := do
  if exec.poisoned then return ⟨.error .executionPoisoned, none, none, exec⟩
  else if exec.inFlight then return ⟨.error .replayInFlight, none, none, exec⟩
  else if ¬ exec.launches + 1 < 2 ^ 64 then return ⟨.error .launchCountExhausted, none, none, exec⟩
  else
    match answers.bind with
    | some error => return ⟨.error (.driver "launch context binding" error), none, none, exec⟩
    | none =>
      modify fun d => d.launch (exec.replay d.log.length)
      match answers.launch with
      | some error =>
        let synchronizeError ← synchronizeStreamOrAbort exec.stream answers.sync
        let failure : GraphSettlementFailure := ⟨error, synchronizeError⟩
        return ⟨.error (failure.intoError "launch"), none, some failure,
          { exec with inFlight := false, recordError := none, pollError := none, poisoned := true }⟩
      | none =>
        modify (·.record exec.completionEvent exec.stream)
        let recorded ← exec.recordedEvent answers.record
        return ⟨.ok (exec.launches + 1), some (exec.launches + 1), none,
          { exec with
            launches := exec.launches + 1
            completionEvent := recorded
            inFlight := true
            recordError := answers.record
            pollError := none }⟩

/-- `is_complete` of the completion, where `query` is the answer of the event query. -/
def isComplete (query : Except DriverError Bool) : Proc (Except GraphError Bool × GraphExec) := do
  match exec.recordError, exec.pollError with
  | some error, _ => return (.error (.driver "completion event record" error), exec)
  | none, some error => return (.error (.driver "completion event query" error), exec)
  | none, none =>
    match query with
    | .ok true =>
      modify (·.settle (exec.completionEvent.covers exec.stream))
      return (.ok true, exec)
    | .ok false => return (.ok false, exec)
    | .error error =>
      return (.error (.driver "completion event query" error), { exec with pollError := some error })

/-- The failure of a settlement that falls back on the stream. -/
def settleStream (answers : SyncAnswers) (reported : DriverError) :
    Proc (Option GraphSettlementFailure) := do
  let synchronizeError ← synchronizeStreamOrAbort exec.stream answers
  return some ⟨reported, synchronizeError⟩

/-- `settle_in_flight` -/
def settleInFlight (answers : SyncAnswers) : Proc (GraphOutcome Unit) := do
  if exec.inFlight then
    let failure ← match exec.recordError, exec.pollError with
      | some error, _ => exec.settleStream answers error
      | none, some error => exec.settleStream answers error
      | none, none =>
        match answers.event with
        | none => do
          modify (·.settle (exec.completionEvent.covers exec.stream))
          pure none
        | some error => exec.settleStream answers error
    return ⟨(), none, failure, { exec with inFlight := false, recordError := none, pollError := none }⟩
  else return ⟨(), none, none, exec⟩

/-- The destructor of the completion. -/
def dropCompletion (answers : SyncAnswers) : Proc (GraphOutcome Unit) := do
  let settled ← exec.settleInFlight answers
  match settled.failure with
  | none => return settled
  | some _ => return { settled with exec := { settled.exec with poisoned := true } }

/-- `wait` of the completion. -/
def wait (answers : SyncAnswers) : Proc (GraphOutcome (Except GraphError Unit)) := do
  let settled ← exec.settleInFlight answers
  match settled.failure with
  | none => return ⟨.ok (), none, none, settled.exec⟩
  | some failure =>
    return ⟨.error (failure.intoError "completion"), none, some failure,
      { settled.exec with poisoned := true }⟩

/-- `measure_launch_ms` -/
def measureLaunchMs (start stop : TimingEvent) (answers : MeasureAnswers) :
    Proc (GraphOutcome (Except GraphError Nat)) := do
  if ¬ start.sharesContext ∨ ¬ stop.sharesContext then
    return ⟨.error .timingEventContextMismatch, none, none, exec⟩
  else
    match answers.start with
    | some error => return ⟨.error (.driver "timing start event record" error), none, none, exec⟩
    | none =>
      let launched ← exec.launch answers.launch
      match launched.result with
      | .error _ => return launched
      | .ok index =>
        match answers.stop with
        | some error =>
          let dropped ← launched.exec.dropCompletion answers.sync
          return ⟨.error (.driver "timing end event record" error), some index, dropped.failure,
            dropped.exec⟩
        | none =>
          let waited ← launched.exec.wait answers.sync
          match waited.result with
          | .error error => return ⟨.error error, some index, waited.failure, waited.exec⟩
          | .ok () =>
            match answers.elapsed with
            | .error error =>
              return ⟨.error (.driver "timing event elapsed query" error), some index, waited.failure,
                waited.exec⟩
            | .ok elapsed => return ⟨.ok elapsed, some index, waited.failure, waited.exec⟩

/-- What the destructor destroys, in its order. -/
def teardown (answers : TeardownAnswers) : Proc Unit := do
  destroyHandle exec.graph.scopeId .executable answers.executable
  destroyHandle exec.graph.scopeId .graph answers.graph
  modify (·.release (.graph exec.graph.scopeId .resources))
  modify (·.release (.graph exec.graph.scopeId .bindings))

/-- `into_bindings`: on an error the destructor runs, and the bindings are lost. -/
def intoBindings (answers : TeardownAnswers) : Proc (Except GraphError CheckedBindings) := do
  let settled ← exec.settleInFlight answers.sync
  settled.exec.teardown answers
  match settled.failure with
  | none => return .ok settled.exec.bindings
  | some failure => return .error (failure.intoError "completion")

/-- The destructor of the executable. -/
def drop (answers : TeardownAnswers) : Proc Unit := do
  let settled ← exec.settleInFlight answers.sync
  settled.exec.teardown answers

end GraphExec

end LoomKernels
