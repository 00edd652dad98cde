import LoomKernels.Command.Quiescence

/-!
# Capture of a graph

A graph queue has a stream of its own, which its owner never sees. Its capture is one-shot: it begins a
scope, puts the stream into capture mode, lets the caller's closure record commands through a `&mut` to
the scope, ends the capture, and turns the scope into a `CapturedGraph` when all of it went well.

The closure is any sequence of actions on any queues, by itself or with its `&mut`: it may also exchange
the scope behind it for the scope of another queue. It then returns, or panics. `place` is the queue whose
scope is behind the `&mut`.

A stream in capture mode runs nothing. What is launched on it while it captures is pending like
everything else until the end of the capture, which takes it over into the graph.
-/

namespace LoomKernels

/-! ## Errors -/

inductive GraphError where
  | defaultStreamUnsupported
  | emptyCapture
  | captureInvalidated
  | nullExecutableHandle
  | executionPoisoned
  | replayInFlight
  | launchCountExhausted
  | timingEventContextMismatch
  | driver (operation : String) (source : DriverError)
  | settlement (operation : String) (source synchronization : DriverError)
  deriving DecidableEq, Repr

/-- `E` are the errors of the closure. -/
inductive CaptureError (E : Type) where
  | command (error : CommandError)
  | record (error : E)
  | graph (error : GraphError)
  deriving DecidableEq, Repr

/-! ## Graphs -/

/-- A graph of the driver. The scope that was captured stands for its handle, and `nodes` are the
commands that were recorded. -/
structure RawGraph where
  scopeId : Nat
  nodes : List Command
  deriving DecidableEq, Repr

/-- A captured CUDA graph with fixed device addresses and retained resources. -/
structure CapturedGraph where
  graph : RawGraph
  stream : CudaStream
  bindings : CheckedBindings
  resources : List RetainedResource
  commands : Nat
  deriving DecidableEq, Repr

/-- The failures, if any, of a context binding and of a destruction. -/
structure DestroyAnswers where
  bind : Option DriverError
  destroy : Option DriverError
  deriving DecidableEq, Repr

/-- The destructors of raw handles: any failure aborts. -/
def destroyHandle (scopeId : Nat) (part : GraphPart) (answers : DestroyAnswers) : Proc Unit := do
  match answers.bind, answers.destroy with
  | none, none => modify (·.release (.graph scopeId part))
  | _, _ => throw .abort

def RawGraph.drop (graph : RawGraph) (answers : DestroyAnswers) : Proc Unit :=
  destroyHandle graph.scopeId .graph answers

/-- The destructor of a captured graph. -/
def CapturedGraph.drop (captured : CapturedGraph) (answers : DestroyAnswers) : Proc Unit := do
  captured.graph.drop answers
  modify (·.release (.graph captured.graph.scopeId .resources))
  modify (·.release (.graph captured.graph.scopeId .bindings))

/-! ## The closure -/

inductive RecordAction where
  | queue (action : QueueAction)
  /-- `mem::swap` of the scope behind the `&mut` with the scope of this queue. -/
  | exchange (queue : Nat)

/-- How the closure ends. -/
inductive RecordEnd (E : Type) where
  | returned (result : Except E Unit)
  | panicked

structure Recording (E : Type) where
  actions : List RecordAction
  ending : RecordEnd E

/-- `begun` and `ended` count the captures. -/
structure CaptureState where
  world : QueueWorld
  place : Nat
  begun : Nat
  ended : Nat

/-- What the closure can do: what is behind the `&mut` cannot be moved out, the graph queue is borrowed,
and its stream is not exposed. -/
def CaptureState.Permits (s : CaptureState) (graphQueue : Nat) (stream : CudaStream) :
    QueueAction → Bool
  | .newQueue stream' _ _ => ¬ stream'.Same stream
  | .newBindings queue _ => queue ≠ graphQueue
  | .begin queue _ => queue ≠ graphQueue
  | .dropQueue queue _ => queue ≠ graphQueue
  | .finish queue _ => queue ≠ s.place
  | .dropScope queue _ => queue ≠ s.place
  | .forgetScope queue => queue ≠ s.place
  | _ => true

def CaptureState.record (graphQueue : Nat) (stream : CudaStream) (s : CaptureState) :
    RecordAction → CaptureState
  | .queue action =>
    if s.Permits graphQueue stream action then { s with world := s.world.step action } else s
  | .exchange queue =>
    match s.world.slots queue with
    | .scope _ => { s with place := queue }
    | _ => s

/-! ## The capture -/

/-- How a capture ends other than by returning: the process aborts, the panic of the closure is passed
on, or an assertion of the code fails. -/
inductive CaptureStop where
  | abort
  | panic
  | assertion
  deriving DecidableEq, Repr

abbrev Capture := EStateM CaptureStop CaptureState

/-- The answers of the driver, in the order of the calls. `null` tells whether the handle of a
successful end of the capture is null, and `capturing` whether the stream may still be in capture mode
after a failed one. -/
structure CaptureAnswers where
  readiness : Option DriverError
  bindBegin : Option DriverError
  begin : Option DriverError
  bindEnd : Option DriverError
  ended : Option DriverError
  null : Bool
  capturing : Bool
  graph : DestroyAnswers
  scope : SyncAnswers
  queue : SyncAnswers

/-- An action of the code itself on the queues. -/
def act (action : QueueAction) : Capture Unit := do
  modify fun s => { s with world := s.world.step action }
  if (← get).world.aborted then throw .abort

def onDevice {α : Type} (proc : Proc α) : Capture α := fun s =>
  match proc s.world.device with
  | .ok a device => .ok a { s with world := { s.world with device } }
  | .error _ device => .error .abort { s with world := { s.world with device, aborted := true } }

def beginCapture (answers : CaptureAnswers) : Capture (Except GraphError Unit) := do
  match answers.bindBegin, answers.begin with
  | some error, _ => return .error (.driver "capture context binding" error)
  | none, some error => return .error (.driver "capture begin" error)
  | none, none =>
    modify fun s => { s with begun := s.begun + 1 }
    return .ok ()

/-- The commands of `log` that were recorded on a stream since its capture began, at length `start`. -/
def recorded (stream : CudaStream) (start : Nat) (log : List Command) : List Command :=
  (log.drop start).filter (stream.covers ·)

/-- `end_capture` with `ensure_capture_ended_or_abort`. What was recorded since `start` is not pending
any more. -/
def endCapture (stream : CudaStream) (scopeId start : Nat) (answers : CaptureAnswers) :
    Capture (Except GraphError RawGraph) := do
  if answers.bindEnd.isSome then throw .abort
  let nodes := recorded stream start (← get).world.device.log
  onDevice (modify (·.settle fun c => stream.covers c && decide (start ≤ c.serial)))
  modify fun s => { s with ended := s.ended + 1 }
  match answers.ended with
  | none => return if answers.null then .error .captureInvalidated else .ok ⟨scopeId, nodes⟩
  | some error =>
    if answers.capturing then throw .abort
    return .error (.driver "capture end" error)

/-- The scope behind the `&mut`. -/
def CaptureState.inPlace (s : CaptureState) : Option CommandScope :=
  match s.world.slots s.place with
  | .scope scope => some scope
  | _ => none

/-- The scope in place is dropped, after the raw graph if there is one. -/
def dropCommands (graph : Option RawGraph) (answers : CaptureAnswers) : Capture Unit := do
  if let some graph := graph then onDevice (graph.drop answers.graph)
  act (.dropScope (← get).place answers.scope)

/-- The end of `capture_checked` on its error paths. -/
def discard {E : Type} (graph : Option RawGraph) (answers : CaptureAnswers)
    (error : CaptureError E) : Capture (Except (CaptureError E) CapturedGraph) := do
  dropCommands graph answers
  return .error error

/-- The end of `capture_checked` after the closure returned well and the capture gave a graph. -/
def finishGraph {E : Type} (graph : RawGraph) (answers : CaptureAnswers) :
    Capture (Except (CaptureError E) CapturedGraph) := do
  let s ← get
  match s.inPlace with
  | none => throw .assertion
  | some commands =>
    if let some error := commands.submissionError then
      discard (some graph) answers (.command error.toCommandError)
    else if commands.submitted = 0 then
      discard (some graph) answers (.graph .emptyCapture)
    else
      match commands.finishCapture with
      | none => throw .assertion
      | some (set, queue) =>
        modify fun s => { s with world := { s.world with
          slots := Function.update s.world.slots s.place (.idle queue) } }
        return .ok ⟨graph, set.stream, set.bindings, set.resources, set.submitted⟩

/-- `capture_checked`, from the scope on: `scopeId` and `start` are of the scope that was begun. -/
def recordGraph {E : Type} (graphQueue : Nat) (stream : CudaStream) (scopeId start : Nat)
    (recording : Recording E) (answers : CaptureAnswers) :
    Capture (Except (CaptureError E) CapturedGraph) := do
  modify fun s => run (CaptureState.record graphQueue stream) s recording.actions
  if (← get).world.aborted then throw .abort
  let graph ← endCapture stream scopeId start answers
  match recording.ending with
  | .panicked =>
    -- unwinding drops the guard, then the scope, then the queue
    dropCommands graph.toOption answers
    act (.dropQueue graphQueue answers.queue)
    throw .panic
  | .returned (.error error) =>
    match graph with
    | .ok graph => discard (some graph) answers (.record error)
    | .error graphError => discard none answers (.graph graphError)
  | .returned (.ok ()) =>
    match graph with
    | .ok graph => finishGraph graph answers
    | .error graphError => discard none answers (.graph graphError)

/-- `capture_checked` -/
def captureChecked {E : Type} (graphQueue set : Nat) (queue : CommandQueue)
    (bindings : CheckedBindings) (recording : Recording E) (answers : CaptureAnswers) :
    Capture (Except (CaptureError E) CapturedGraph) := do
  if queue.stream.cuStream = 0 then
    act (.dropBindings set)
    return .error (.graph .defaultStreamUnsupported)
  let nextId := (← get).world.nextId
  act (.begin graphQueue set)
  modify fun s => { s with place := graphQueue }
  match (queue.begin bindings nextId).1 with
  | .error (error, _) => return .error (.command error)
  | .ok scope =>
    match ← beginCapture answers with
    | .error error => discard none answers (.graph error)
    | .ok () =>
      let start := (← get).world.device.log.length
      recordGraph graphQueue queue.stream scope.scopeId start recording answers

/-- `GraphQueue::capture`: the queue does not outlive it. -/
def capture {E : Type} (graphQueue set : Nat) (queue : CommandQueue) (bindings : CheckedBindings)
    (recording : Recording E) (answers : CaptureAnswers) :
    Capture (Except (CaptureError E) CapturedGraph) := do
  if answers.readiness.isSome then throw .abort
  onDevice (modify (·.settle queue.stream.context.covers))
  let result ← captureChecked graphQueue set queue bindings recording answers
  act (.dropQueue graphQueue answers.queue)
  return result

end LoomKernels
