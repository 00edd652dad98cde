import LoomKernels.Command.Accounting

/-!
# Completion

The fence at the end of a scope, and every way in which a queue gives up the resources it retains: the
completion is waited for or dropped, an unfinished scope is dropped, the queue itself is dropped. Each
first makes sure that nothing is running that could use them, with a chain of synchronizations that ends
in an abort of the process.

A driver call that waits takes its outcome from `SyncAnswers`. The operations run on the device and may
abort; every release of resources or bindings is logged on it.
-/

namespace LoomKernels

/-! ## Synchronization -/

/-- The process aborts. -/
inductive Abort where
  | abort
  deriving DecidableEq, Repr

abbrev Proc := EStateM Abort Device

/-- The failures, if any, of a synchronization of an event, of a stream and of a context. -/
structure SyncAnswers where
  event : Option DriverError
  stream : Option DriverError
  context : Option DriverError
  deriving DecidableEq, Repr

/-- `synchronize_stream_or_abort`: the error of the stream when only its context could be
synchronized. -/
def synchronizeStreamOrAbort (stream : CudaStream) (answers : SyncAnswers) :
    Proc (Option DriverError) := do
  match answers.stream with
  | none =>
    modify (·.settle stream.covers)
    return none
  | some streamError =>
    match answers.context with
    | none =>
      modify (·.settle stream.context.covers)
      return some streamError
    | some _ => throw .abort

/-! ## Completions -/

/-- The final fence and all bindings retained by a completed command scope. A completion that was
waited for is gone, which the source marks with a flag for its destructor. -/
structure CommandCompletion where
  queue : CommandQueue
  bindings : CheckedBindings
  submitted : Nat
  submissionError : Option SubmissionError
  recordError : Option DriverError
  pollError : Option DriverError
  deriving DecidableEq, Repr

structure SettlementFailure where
  reported : SubmissionError
  synchronizeError : Option DriverError
  deriving DecidableEq, Repr

/-- `CommandScope::finish`, where `record` is the failure of the event record. -/
def CommandScope.finish (scope : CommandScope) (record : Option DriverError) :
    Proc CommandCompletion := do
  if scope.submitted = 0 ∨ scope.submissionError.isSome then
    return ⟨scope.queue, scope.bindings, scope.submitted, scope.submissionError, none, none⟩
  else
    modify (·.record scope.queue.completionEvent scope.queue.stream)
    match record with
    | none =>
      let queue := { scope.queue with completionEvent := ⟨(← get).log.length⟩ }
      return ⟨queue, scope.bindings, scope.submitted, scope.submissionError, none, none⟩
    | some error =>
      return ⟨scope.queue, scope.bindings, scope.submitted, scope.submissionError, some error, none⟩

namespace CommandCompletion

variable (completion : CommandCompletion)

/-- `is_complete`, where `query` is the answer of the event query. -/
def isComplete (query : Except DriverError Bool) :
    Proc (Except CommandError Bool × CommandCompletion) := do
  match completion.submissionError, completion.recordError, completion.pollError with
  | some error, _, _ => return (.error error.toCommandError, completion)
  | none, some error, _ => return (.error (.driver error), completion)
  | none, none, some error => return (.error (.driver error), completion)
  | none, none, none =>
    if completion.submitted = 0 then return (.ok true, completion)
    else
      match query with
      | .ok true =>
        modify (·.settle (completion.queue.completionEvent.covers completion.queue.stream))
        return (.ok true, completion)
      | .ok false => return (.ok false, completion)
      | .error error => return (.error (.driver error), { completion with pollError := some error })

/-- The failure of a settlement that falls back on the stream. -/
def settleStream (answers : SyncAnswers) (reported : SubmissionError) :
    Proc (Option SettlementFailure) := do
  let synchronizeError ← synchronizeStreamOrAbort completion.queue.stream answers
  return some ⟨reported, synchronizeError⟩

def settle (answers : SyncAnswers) : Proc (Option SettlementFailure) := do
  if completion.submitted = 0 then
    return completion.submissionError.map fun reported => ⟨reported, none⟩
  else
    match completion.submissionError, completion.recordError, completion.pollError with
    | some error, _, _ => completion.settleStream answers error
    | none, some error, _ => completion.settleStream answers (.driver error)
    | none, none, some error => completion.settleStream answers (.driver error)
    | none, none, none =>
      match answers.event with
      | none =>
        modify (·.settle (completion.queue.completionEvent.covers completion.queue.stream))
        return none
      | some error => completion.settleStream answers (.driver error)

/-- The queue after a settlement. -/
def after : Option SettlementFailure → CommandQueue
  | none => { completion.queue with retainedResources := [] }
  | some _ => { completion.queue with retainedResources := [], poisoned := true }

/-- Waits once and returns the reusable checked bindings. On an error they are destroyed. -/
def wait (answers : SyncAnswers) : Proc (Except CommandError CheckedBindings × CommandQueue) := do
  let failure ← completion.settle answers
  modify (·.release (.resources completion.queue.id))
  modify (·.release (.bindings completion.bindings.setId))
  match failure with
  | none => return (.ok completion.bindings, completion.after none)
  | some failure => return (.error failure.reported.toCommandError, completion.after (some failure))

/-- The destructor, with the failure of its settlement. -/
def drop (answers : SyncAnswers) : Proc (Option SettlementFailure × CommandQueue) := do
  let failure ← completion.settle answers
  modify (·.release (.resources completion.queue.id))
  modify (·.release (.bindings completion.bindings.setId))
  return (failure, completion.after failure)

end CommandCompletion

/-! ## Destructors of scopes and queues -/

/-- The queue after an unfinished scope. -/
def CommandScope.after (scope : CommandScope) (synchronizeError : Option DriverError) :
    CommandQueue :=
  { scope.queue with
    retainedResources := []
    poisoned := if scope.submissionError.isSome ∨ synchronizeError.isSome then true
      else scope.queue.poisoned }

/-- The destructor of a scope that was not finished, with the error of its synchronization. -/
def CommandScope.drop (scope : CommandScope) (answers : SyncAnswers) :
    Proc (Option DriverError × CommandQueue) := do
  let synchronizeError ← if scope.submitted > 0 then
      synchronizeStreamOrAbort scope.queue.stream answers
    else pure none
  modify (·.release (.resources scope.queue.id))
  modify (·.release (.bindings scope.bindings.setId))
  return (synchronizeError, scope.after synchronizeError)

/-- The destructor of a queue. -/
def CommandQueue.drop (queue : CommandQueue) (answers : SyncAnswers) : Proc Unit := do
  if queue.retainedResources = [] then return ()
  else
    let _ ← synchronizeStreamOrAbort queue.stream answers
    modify (·.release (.resources queue.id))

/-! ## What they do to the device -/

/-- Some work has been shown to be over, and nothing else happened. -/
structure Device.Quieter (d d' : Device) : Prop where
  log : d'.log = d.log
  releases : d'.releases = d.releases
  rerecords : d'.rerecords = d.rerecords
  kept : d'.pending.Sublist d.pending

/-- No pending command is one of these. -/
def Device.Free (d : Device) (commands : Command → Prop) : Prop :=
  ∀ command ∈ d.pending, ¬ commands command

theorem Device.Quieter.pending {d d' : Device} (quieter : d.Quieter d') :
    ∀ command ∈ d'.pending, command ∈ d.pending :=
  fun _ mem => quieter.kept.subset mem

theorem Device.Quieter.refl (d : Device) : d.Quieter d := ⟨rfl, rfl, rfl, .refl _⟩

theorem Device.settle_quieter (d : Device) (done : Command → Bool) : d.Quieter (d.settle done) :=
  ⟨rfl, rfl, rfl, List.filter_sublist⟩

theorem Device.settle_free (d : Device) (done : Command → Bool) :
    (d.settle done).Free (done · = true) := by
  intro command mem
  simpa using (List.mem_filter.mp mem).2

theorem CudaStream.Same.refl (s : CudaStream) : s.Same s := ⟨rfl, rfl⟩

/-- When the process lives on, nothing is pending on the stream. -/
theorem synchronizeStreamOrAbort_ends (stream : CudaStream) (answers : SyncAnswers) (d : Device) :
    Ends (synchronizeStreamOrAbort stream answers) d
      (fun _ d' => d.Quieter d' ∧ d'.Free (·.stream.Same stream)) (fun _ d' => d' = d) := by
  unfold synchronizeStreamOrAbort
  cases answers.stream with
  | none =>
    refine ⟨d.settle_quieter _, fun command mem same => d.settle_free stream.covers command mem ?_⟩
    simpa [CudaStream.covers] using same
  | some streamError =>
    cases answers.context with
    | none =>
      refine ⟨d.settle_quieter _, fun command mem same =>
        d.settle_free stream.context.covers command mem ?_⟩
      simpa [CudaContext.covers] using same.2
    | some _ => exact rfl

/-- What a settlement has shown: after a failure nothing is pending on the stream, else nothing that
the event covers. A scope without commands settles at once. -/
structure Settled (completion : CommandCompletion) (failure : Option SettlementFailure)
    (d d' : Device) : Prop where
  quieter : d.Quieter d'
  empty : completion.submitted = 0 → d' = d ∧ failure.isSome = completion.submissionError.isSome
  event : 0 < completion.submitted → failure = none →
    completion.submissionError = none ∧ completion.recordError = none ∧ completion.pollError = none ∧
      d'.Free (completion.queue.completionEvent.covers completion.queue.stream ·)
  stream : 0 < completion.submitted → failure.isSome → d'.Free (·.stream.Same completion.queue.stream)

theorem CommandCompletion.settleStream_ends (completion : CommandCompletion) (answers : SyncAnswers)
    (reported : SubmissionError) (d : Device) (submitted : 0 < completion.submitted) :
    Ends (completion.settleStream answers reported) d
      (fun failure d' => Settled completion failure d d') (fun _ d' => d' = d) := by
  rw [CommandCompletion.settleStream, ends_bind]
  refine (synchronizeStreamOrAbort_ends completion.queue.stream answers d).mono
    (fun error d' quiet => ?_) fun _ _ same => same
  exact ⟨quiet.1, fun none => absurd none submitted.ne', fun _ none => (nomatch none),
    fun _ _ => quiet.2⟩

theorem CommandCompletion.settle_ends (completion : CommandCompletion) (answers : SyncAnswers)
    (d : Device) :
    Ends (completion.settle answers) d (fun failure d' => Settled completion failure d d')
      (fun _ d' => d' = d) := by
  unfold CommandCompletion.settle
  split_ifs with empty
  · refine ⟨.refl d, fun _ => ⟨rfl, by cases completion.submissionError <;> rfl⟩, fun some => ?_,
      fun some => ?_⟩
    · exact absurd empty some.ne'
    · exact absurd empty some.ne'
  · have submitted := Nat.pos_of_ne_zero empty
    cases submission : completion.submissionError with
    | some error => exact completion.settleStream_ends answers error d submitted
    | none =>
      cases recorded : completion.recordError with
      | some error => exact completion.settleStream_ends answers (.driver error) d submitted
      | none =>
        cases polled : completion.pollError with
        | some error => exact completion.settleStream_ends answers (.driver error) d submitted
        | none =>
          cases answers.event with
          | some error => exact completion.settleStream_ends answers (.driver error) d submitted
          | none =>
            exact ⟨d.settle_quieter _, fun none => absurd none empty,
              fun _ _ => ⟨submission, recorded, polled, d.settle_free _⟩, fun _ failed => nomatch failed⟩

/-- The resources of a queue and a set of bindings, released one after the other. -/
def Device.releaseBoth (d : Device) (queueId setId : Nat) : Device :=
  (d.release (.resources queueId)).release (.bindings setId)

theorem CommandCompletion.wait_ends (completion : CommandCompletion) (answers : SyncAnswers)
    (d : Device) :
    Ends (completion.wait answers) d
      (fun result d' => ∃ failure d₁, Settled completion failure d d₁ ∧
        d' = d₁.releaseBoth completion.queue.id completion.bindings.setId ∧
        result.2 = completion.after failure ∧
        match result.1 with
        | .ok bindings => failure = none ∧ bindings = completion.bindings
        | .error _ => failure.isSome)
      (fun _ d' => d' = d) := by
  rw [CommandCompletion.wait, ends_bind]
  refine (completion.settle_ends answers d).mono (fun failure d₁ settled => ?_) fun _ _ same => same
  cases failure with
  | none => exact ⟨none, d₁, settled, rfl, rfl, rfl, rfl⟩
  | some failure => exact ⟨some failure, d₁, settled, rfl, rfl, rfl⟩

theorem CommandCompletion.drop_ends (completion : CommandCompletion) (answers : SyncAnswers)
    (d : Device) :
    Ends (completion.drop answers) d
      (fun result d' => ∃ d₁, Settled completion result.1 d d₁ ∧
        d' = d₁.releaseBoth completion.queue.id completion.bindings.setId ∧
        result.2 = completion.after result.1)
      (fun _ d' => d' = d) := by
  rw [CommandCompletion.drop, ends_bind]
  exact (completion.settle_ends answers d).mono
    (fun failure d₁ settled => ⟨d₁, settled, rfl, rfl⟩) fun _ _ same => same

/-- A dropped scope has synchronized its stream, unless nothing was submitted. -/
theorem CommandScope.drop_ends (scope : CommandScope) (answers : SyncAnswers) (d : Device) :
    Ends (scope.drop answers) d
      (fun result d' => ∃ d₁, d.Quieter d₁ ∧
        (0 < scope.submitted → d₁.Free (·.stream.Same scope.queue.stream)) ∧
        d' = d₁.releaseBoth scope.queue.id scope.bindings.setId ∧ result.2 = scope.after result.1)
      (fun _ d' => d' = d) := by
  unfold CommandScope.drop
  split_ifs with submitted
  · rw [ends_bind]
    exact (synchronizeStreamOrAbort_ends scope.queue.stream answers d).mono
      (fun error d₁ quiet => ⟨d₁, quiet.1, fun _ => quiet.2, rfl, rfl⟩) fun _ _ same => same
  · exact ⟨d, .refl d, fun some => absurd some submitted, rfl, rfl⟩

theorem CommandQueue.drop_ends (queue : CommandQueue) (answers : SyncAnswers) (d : Device) :
    Ends (queue.drop answers) d
      (fun _ d' => d' = d ∨ ∃ d₁, d.Quieter d₁ ∧ d₁.Free (·.stream.Same queue.stream) ∧
        d' = d₁.release (.resources queue.id))
      (fun _ d' => d' = d) := by
  unfold CommandQueue.drop
  split_ifs with empty
  · exact .inl rfl
  · rw [ends_bind]
    exact (synchronizeStreamOrAbort_ends queue.stream answers d).mono
      (fun error d₁ quiet => .inr ⟨d₁, quiet.1, quiet.2, rfl⟩) fun _ _ same => same

end LoomKernels
