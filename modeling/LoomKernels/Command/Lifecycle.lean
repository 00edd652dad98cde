import Mathlib.Logic.Function.Basic
import LoomKernels.Command.Completion

/-!
# Runs of command queues

Any number of queues, on streams they may share, with their binding sets, scopes and completions. The
caller does what safe code can do: it begins scopes, enqueues commands and ignores their errors,
finishes, polls, waits, drops, and leaks scopes and completions with `mem::forget`. Every driver call
may fail.

A queue and what borrows it are in one `Slot`; sets that no scope holds are in the caller's hand. `events`
records what went wrong with which queue.

What holds in every state of every run is the subject of `Quiescence` and `Poison`.
-/

namespace LoomKernels

/-! ## States and actions -/

/-- A queue, or the scope or completion that borrows it. A queue whose scope or completion was leaked is
idle again. -/
inductive Slot where
  | gone
  | idle (queue : CommandQueue)
  | scope (scope : CommandScope)
  | completion (completion : CommandCompletion)
  deriving DecidableEq, Repr

inductive QueueEvent where
  /-- A submission or a preflight driver call failed. -/
  | submissionFailed
  | recordFailed
  | pollFailed
  | settleFailed
  /-- The synchronization of a destructor failed. -/
  | dropFailed
  /-- A scope or completion with submitted commands was leaked. -/
  | leaked
  deriving DecidableEq, Repr

/-- `slots` is indexed by queue ids and `hand` by set ids. -/
structure QueueWorld where
  nextId : Nat
  device : Device
  slots : Nat → Slot
  hand : Nat → Option CheckedBindings
  events : List (Nat × QueueEvent)
  aborted : Bool

inductive QueueAction where
  | newQueue (stream : CudaStream) (maxCommands : Nat) (eventError : Option DriverError)
  | newBindings (queue capacity : Nat)
  | bindRead (set : Nat) (buffer : DeviceBuffer)
  | bindReadWrite (set : Nat) (buffer : DeviceBuffer)
  | take (set : Nat) (handle : ReadWrite)
  | dropBindings (set : Nat)
  | begin (queue set : Nat)
  | enqueue (queue : Nat) (call : OperatorCall) (answers : Answers)
  | finish (queue : Nat) (record : Option DriverError)
  | dropScope (queue : Nat) (answers : SyncAnswers)
  | forgetScope (queue : Nat)
  | isComplete (queue : Nat) (query : Except DriverError Bool)
  | wait (queue : Nat) (answers : SyncAnswers)
  | dropCompletion (queue : Nat) (answers : SyncAnswers)
  | forgetCompletion (queue : Nat)
  | dropQueue (queue : Nat) (answers : SyncAnswers)

/-- The event, if it happened. -/
def noted (queue : Nat) (event : QueueEvent) (happened : Bool) : List (Nat × QueueEvent) :=
  if happened then [(queue, event)] else []

namespace QueueWorld

/-- The process starts with the counter at one. -/
def start : QueueWorld := ⟨1, ⟨[], [], [], []⟩, fun _ => .gone, fun _ => none, [], false⟩

variable (w : QueueWorld)

/-- An operation on the device that may abort. -/
def proceed {α : Type} (proc : Proc α) (next : QueueWorld → α → QueueWorld) : QueueWorld :=
  match proc w.device with
  | .ok a device => next { w with device } a
  | .error _ device => { w with device, aborted := true }

/-- Something went wrong with this queue. -/
def Broken (queue : Nat) : Prop := ∃ event, (queue, event) ∈ w.events

/-- An edit of a set in the caller's hand. -/
def edit (set : Nat) (change : CheckedBindings → CheckedBindings) : QueueWorld :=
  { w with hand := Function.update w.hand set ((w.hand set).map change) }

def newQueue (stream : CudaStream) (maxCommands : Nat) (eventError : Option DriverError) :
    QueueWorld :=
  match CommandQueue.new stream maxCommands eventError w.nextId with
  | (some (.ok queue), nextId) =>
    { w with nextId, slots := Function.update w.slots queue.id (.idle queue) }
  | (_, nextId) => { w with nextId }

def newBindings (queue : CommandQueue) (capacity : Nat) : QueueWorld :=
  match queue.newBindings capacity w.nextId with
  | (.ok bindings, nextId) =>
    { w with nextId, hand := Function.update w.hand bindings.setId (some bindings) }
  | (.error _, nextId) => { w with nextId }

/-- A failed `begin` destroys the bindings. -/
def begin (id set : Nat) (queue : CommandQueue) (bindings : CheckedBindings) : QueueWorld :=
  match queue.begin bindings w.nextId with
  | (.ok scope, nextId) =>
    { w with
      nextId
      slots := Function.update w.slots id (.scope scope)
      hand := Function.update w.hand set none }
  | (.error (_, queue), nextId) =>
    { w with
      nextId
      device := w.device.release (.bindings bindings.setId)
      slots := Function.update w.slots id (.idle queue)
      hand := Function.update w.hand set none }

def enqueue (id : Nat) (scope : CommandScope) (call : OperatorCall) (answers : Answers) :
    QueueWorld :=
  match call.enqueueInto answers ⟨scope, w.device⟩ with
  | .ok () s => { w with device := s.device, slots := Function.update w.slots id (.scope s.scope) }
  | .error (.error error) s =>
    { w with
      device := s.device
      slots := Function.update w.slots id (.scope s.scope)
      events := w.events ++ noted id .submissionFailed error.isDriver }
  | .error .abort s => { w with device := s.device, aborted := true }

def finish (id : Nat) (scope : CommandScope) (record : Option DriverError) : QueueWorld :=
  w.proceed (scope.finish record) fun w completion =>
    { w with
      slots := Function.update w.slots id (.completion completion)
      events := w.events ++ noted id .recordFailed completion.recordError.isSome }

def dropScope (id : Nat) (scope : CommandScope) (answers : SyncAnswers) : QueueWorld :=
  w.proceed (scope.drop answers) fun w (synchronizeError, queue) =>
    { w with
      slots := Function.update w.slots id (.idle queue)
      events := w.events ++ noted id .dropFailed synchronizeError.isSome }

/-- A leaked scope never gives its bindings back. -/
def forgetScope (id : Nat) (scope : CommandScope) : QueueWorld :=
  { w with
    slots := Function.update w.slots id (.idle scope.queue)
    events := w.events ++ noted id .leaked (scope.submitted > 0) }

def isComplete (id : Nat) (completion : CommandCompletion) (query : Except DriverError Bool) :
    QueueWorld :=
  w.proceed (completion.isComplete query) fun w (_, after) =>
    { w with
      slots := Function.update w.slots id (.completion after)
      events := w.events ++ noted id .pollFailed after.pollError.isSome }

def wait (id : Nat) (completion : CommandCompletion) (answers : SyncAnswers) : QueueWorld :=
  w.proceed (completion.wait answers) fun w (result, queue) =>
    match result with
    | .ok bindings =>
      { w with
        slots := Function.update w.slots id (.idle queue)
        hand := Function.update w.hand bindings.setId (some bindings) }
    | .error _ =>
      { w with
        slots := Function.update w.slots id (.idle queue)
        events := w.events ++ [(id, .settleFailed)] }

def dropCompletion (id : Nat) (completion : CommandCompletion) (answers : SyncAnswers) :
    QueueWorld :=
  w.proceed (completion.drop answers) fun w (failure, queue) =>
    { w with
      slots := Function.update w.slots id (.idle queue)
      events := w.events ++ noted id .dropFailed failure.isSome }

def forgetCompletion (id : Nat) (completion : CommandCompletion) : QueueWorld :=
  { w with
    slots := Function.update w.slots id (.idle completion.queue)
    events := w.events ++ noted id .leaked (completion.submitted > 0) }

def dropQueue (id : Nat) (queue : CommandQueue) (answers : SyncAnswers) : QueueWorld :=
  w.proceed (queue.drop answers) fun w _ => { w with slots := Function.update w.slots id .gone }

/-- One action of the caller; an action on what is not there changes nothing. -/
def step (w : QueueWorld) (action : QueueAction) : QueueWorld :=
  if w.aborted then w
  else
    match action with
    | .newQueue stream maxCommands eventError => w.newQueue stream maxCommands eventError
    | .newBindings id capacity =>
      match w.slots id with
      | .idle queue => w.newBindings queue capacity
      | _ => w
    | .bindRead set buffer => w.edit set fun bindings => (bindings.bindRead buffer).2
    | .bindReadWrite set buffer => w.edit set fun bindings => (bindings.bindReadWrite buffer).2
    | .take set handle => w.edit set fun bindings => (bindings.takeReadWrite handle).2
    | .dropBindings set =>
      match w.hand set with
      | some bindings =>
        { w with
          device := w.device.release (.bindings bindings.setId)
          hand := Function.update w.hand set none }
      | none => w
    | .begin id set =>
      match w.slots id, w.hand set with
      | .idle queue, some bindings => w.begin id set queue bindings
      | _, _ => w
    | .enqueue id call answers =>
      match w.slots id with
      | .scope scope => w.enqueue id scope call answers
      | _ => w
    | .finish id record =>
      match w.slots id with
      | .scope scope => w.finish id scope record
      | _ => w
    | .dropScope id answers =>
      match w.slots id with
      | .scope scope => w.dropScope id scope answers
      | _ => w
    | .forgetScope id =>
      match w.slots id with
      | .scope scope => w.forgetScope id scope
      | _ => w
    | .isComplete id query =>
      match w.slots id with
      | .completion completion => w.isComplete id completion query
      | _ => w
    | .wait id answers =>
      match w.slots id with
      | .completion completion => w.wait id completion answers
      | _ => w
    | .dropCompletion id answers =>
      match w.slots id with
      | .completion completion => w.dropCompletion id completion answers
      | _ => w
    | .forgetCompletion id =>
      match w.slots id with
      | .completion completion => w.forgetCompletion id completion
      | _ => w
    | .dropQueue id answers =>
      match w.slots id with
      | .idle queue => w.dropQueue id queue answers
      | _ => w

end QueueWorld

end LoomKernels
