import LoomKernels.Command.Submission

/-!
# Enqueueing one kernel

What the operators' `enqueue_into` functions share. All of them prove that a command fits, resolve
their handles, check the buffers, launch through a generated launcher and record the outcome;
`CheckedLaunch` is what they differ in. The launcher checks the launch contract of its kernel before
it launches and reports a driver error only of the launch.

`CheckedLaunch.admission` gathers everything that is checked before the launch. From a state whose
bookkeeping is in order a launch that is not admitted changes nothing, and one that is admitted is
recorded as one submission, with the driver's error when there is one (`enqueueKernel_eq`).
-/

namespace LoomKernels

/-! ## Errors -/

/-- An error of a generated launcher: the driver's, or a clause of the contract that does not hold. -/
inductive LaunchContractError where
  | driver (error : DriverError)
  | requirement
  deriving DecidableEq, Repr

/-- The errors of all `enqueue_into` functions. -/
inductive EnqueueError where
  | command (error : CommandError)
  | launch (error : LaunchContractError)
  | driver (error : DriverError)
  | cublasLt (status : Int)
  | lengthMismatch (operand : String) (expected actual : Nat)
  | pageIndicesTooShort (minimum actual : Nat)
  | misalignedBuffer (operand : String) (address alignment : Nat)
  | missingWorkspace
  | workspaceTooSmall (required actual : Nat)
  | contextMismatch (planDevice streamDevice : Nat)
  | providerPoisoned (status : Int)
  deriving DecidableEq, Repr

/-- A failure of the driver or of an external library. -/
def CommandError.isDriver : CommandError → Bool
  | .driver _ => true
  | .external _ => true
  | _ => false

/-- A failure of the driver or of an external library. -/
def EnqueueError.isDriver : EnqueueError → Bool
  | .command error => error.isDriver
  | .launch (.driver _) => true
  | .driver _ => true
  | .cublasLt _ => true
  | _ => false

/-- How an `enqueue_into` stops early. -/
inductive Stop where
  | error (error : EnqueueError)
  | abort
  deriving DecidableEq, Repr

/-! ## State -/

/-- A live scope and the device it submits to. -/
structure EnqueueState where
  scope : CommandScope
  device : Device
  deriving DecidableEq, Repr

abbrev Enqueue := EStateM Stop EnqueueState

/-- The next command of a scope. -/
def CommandScope.command (scope : CommandScope) (serial : Nat) (resource : RetainedResource) :
    Command :=
  ⟨serial, scope.queue.stream, scope.queue.id, scope.scopeId, scope.bindings.setId, resource⟩

/-- A driver call that may submit a command. -/
def EnqueueState.launch (s : EnqueueState) (resource : RetainedResource) : EnqueueState :=
  { s with device := s.device.launch (s.scope.command s.device.log.length resource) }

def ofExcept {α : Type} : Except EnqueueError α → Enqueue α
  | .ok a => pure a
  | .error e => throw (.error e)

def ofCommand {α : Type} (result : Except CommandError α) : Except EnqueueError α :=
  result.mapError .command

def prepareCommand : Enqueue CommandPermit := do
  ofExcept (ofCommand (← get).scope.prepareCommand)

def requireCommandCapacity (additionalCommands : Nat) : Enqueue Unit := do
  ofExcept (ofCommand ((← get).scope.requireCommandCapacity additionalCommands))

def resolve (operands : List Operand) : Enqueue (List DeviceBuffer) := do
  ofExcept (ofCommand ((← get).scope.resolve operands))

/-- The scope after a record, or the abort of its bookkeeping check. -/
def record (recorded : CommandScope → Option CommandScope) : Enqueue Unit := do
  match recorded (← get).scope with
  | some scope => modify fun s => { s with scope }
  | none => throw .abort

/-! ## Checks of buffers -/

/-- `size_of::<u32>()`, the alignment of packed pairs. -/
abbrev packedAlignment : Nat := 4

/-- A check of one operand, by its position among the operands. -/
inductive BufferCheck where
  | exactLen (operand : String) (position expected : Nat)
  | pageIndices (position minimum : Nat)
  | aligned (operand : String) (position alignment : Nat)
  deriving DecidableEq, Repr

def BufferCheck.check (buffers : Nat → DeviceBuffer) : BufferCheck → Except EnqueueError Unit
  | .exactLen operand position expected =>
    if (buffers position).len = expected then .ok ()
    else .error (.lengthMismatch operand expected (buffers position).len)
  | .pageIndices position minimum =>
    if (buffers position).len < minimum then
      .error (.pageIndicesTooShort minimum (buffers position).len)
    else .ok ()
  | .aligned operand position alignment =>
    if alignment ∣ (buffers position).cuDeviceptr then .ok ()
    else .error (.misalignedBuffer operand (buffers position).cuDeviceptr alignment)

/-- All checks, in order. -/
def checkBuffers (buffers : Nat → DeviceBuffer) : List BufferCheck → Except EnqueueError Unit
  | [] => .ok ()
  | check :: checks => do
    check.check buffers
    checkBuffers buffers checks

/-- The resolved operands by position. -/
def operandsOf (buffers : List DeviceBuffer) (position : Nat) : DeviceBuffer :=
  buffers.getD position ⟨0, .u8, ⟨0, 0⟩, 0, 0⟩

/-! ## One kernel -/

/-- What distinguishes the launches of the operators: the kernel, its operands, the checks of the
operator, and the clauses of the kernel's launch contract. -/
structure CheckedLaunch where
  function : String
  operands : List Operand
  checks : List BufferCheck
  requires : (Nat → DeviceBuffer) → Bool

/-- A generated launcher: it launches when the whole contract holds. -/
def launchKernel (function : String) (requires : Bool) (driver : Option DriverError) :
    Enqueue (Except LaunchContractError Unit) := do
  if requires then
    modify (·.launch (.kernel function))
    match driver with
    | none => return .ok ()
    | some error => return .error (.driver error)
  else return .error .requirement

/-- `record_launch` -/
def recordLaunch (permit : CommandPermit) (function : String)
    (result : Except LaunchContractError Unit) : Enqueue Unit := do
  match result with
  | .ok () => record (·.recordSubmission permit (.kernel function))
  | .error (.driver error) =>
    record (·.recordFailedSubmission permit (.kernel function) (.driver error))
    throw (.error (.launch (.driver error)))
  | .error error => throw (.error (.launch error))

/-- The body of an `enqueue_into` with one kernel. -/
def enqueueKernel (launch : CheckedLaunch) (driver : Option DriverError) : Enqueue Unit := do
  let permit ← prepareCommand
  let buffers ← resolve launch.operands
  ofExcept (checkBuffers (operandsOf buffers) launch.checks)
  let result ← launchKernel launch.function (launch.requires (operandsOf buffers)) driver
  recordLaunch permit launch.function result

/-! ### What it does -/

/-- The bookkeeping of a scope is in order. -/
structure CommandScope.Accounted (scope : CommandScope) : Prop where
  retained : scope.queue.retainedResources.length = scope.submitted
  capacity : scope.submitted ≤ scope.queue.maxCommands

namespace EnqueueState

/-- One command launched and recorded. -/
def submit (s : EnqueueState) (resource : RetainedResource) : EnqueueState where
  scope := { s.scope with
    queue := { s.scope.queue with
      retainedResources := s.scope.queue.retainedResources ++ [resource] }
    submitted := s.scope.submitted + 1 }
  device := (s.launch resource).device

/-- A failure of the driver, recorded in the scope and the queue. -/
def fail (s : EnqueueState) (error : SubmissionError) : EnqueueState :=
  { s with scope := s.scope.recordFailure error }

end EnqueueState

variable {s : EnqueueState}

/-- The capacity check of a queue that a vector can hold. -/
theorem requireCommandCapacity_eq_ok {scope : CommandScope} {additional : Nat} :
    scope.requireCommandCapacity additional = .ok () ↔
      scope.submissionError = none ∧ scope.submitted + additional ≤ scope.queue.maxCommands := by
  have room := scope.queue.capacity_lt
  unfold CommandScope.requireCommandCapacity
  split_ifs with poisoned full
  · simp only [false_iff, not_and]
    intro none
    simp [none] at poisoned
  · simp only [false_iff, not_and]
    intro _
    omega
  · simp only [true_iff]
    exact ⟨by simpa using poisoned, by omega⟩

theorem prepareCommand_eq_ok {scope : CommandScope} {permit : CommandPermit} :
    scope.prepareCommand = .ok permit ↔
      scope.submissionError = none ∧ scope.submitted + 1 ≤ scope.queue.maxCommands ∧
        permit = ⟨scope.queue.id, scope.scopeId, scope.submitted⟩ := by
  unfold CommandScope.prepareCommand
  rw [check_bind_eq_ok, requireCommandCapacity_eq_ok, and_assoc]
  simp [pure, Except.pure, eq_comm]

/-- A permit that was just made is accepted. -/
theorem recordSubmission_eq {scope : CommandScope} {permit : CommandPermit}
    (prepared : scope.prepareCommand = .ok permit)
    (retained : scope.queue.retainedResources.length = scope.submitted)
    (resource : RetainedResource) :
    scope.recordSubmission permit resource = some { scope with
      queue := { scope.queue with
        retainedResources := scope.queue.retainedResources ++ [resource] }
      submitted := scope.submitted + 1 } := by
  obtain ⟨-, room, rfl⟩ := prepareCommand_eq_ok.mp prepared
  refine if_neg ?_
  simp only [ne_eq, not_true_eq_false, false_or, not_or, not_not]
  omega

/-- The bookkeeping check of a scope whose resources are out of step with its count. -/
theorem recordSubmission_none {scope : CommandScope}
    (retained : scope.queue.retainedResources.length ≠ scope.submitted) (permit : CommandPermit)
    (resource : RetainedResource) : scope.recordSubmission permit resource = none :=
  if_pos (.inr (.inr (.inr (.inl retained))))

theorem recordFailedSubmission_none {scope : CommandScope}
    (retained : scope.queue.retainedResources.length ≠ scope.submitted) (permit : CommandPermit)
    (resource : RetainedResource) (error : SubmissionError) :
    scope.recordFailedSubmission permit resource error = none := by
  rw [CommandScope.recordFailedSubmission, recordSubmission_none retained]
  rfl

/-- The checks of a launch's buffers. -/
def CheckedLaunch.accept (launch : CheckedLaunch) (bindings : CheckedBindings) :
    Except EnqueueError Unit := do
  let buffers ← ofCommand (bindings.resolve launch.operands)
  checkBuffers (operandsOf buffers) launch.checks
  if launch.requires (operandsOf buffers) then .ok () else .error (.launch .requirement)

/-- Everything that is checked before a kernel is launched. -/
def CheckedLaunch.admission (launch : CheckedLaunch) (scope : CommandScope) :
    Except EnqueueError Unit := do
  let _ ← ofCommand scope.prepareCommand
  launch.accept scope.bindings

section Run

variable (s : EnqueueState)

/-- A sequence, run from a state. -/
theorem bind_run {α β : Type} (x : Enqueue α) (f : α → Enqueue β) :
    (x >>= f) s = match x s with
      | .ok a s' => f a s'
      | .error e s' => .error e s' := by
  simp only [bind, EStateM.bind]
  cases x s <;> rfl

theorem ofExcept_run {α : Type} (x : Except EnqueueError α) :
    ofExcept x s = match x with
      | .ok a => .ok a s
      | .error e => .error (.error e) s := by
  cases x <;> rfl

theorem prepareCommand_run :
    prepareCommand s = ofExcept (ofCommand s.scope.prepareCommand) s := rfl

theorem resolve_run (operands : List Operand) :
    resolve operands s = ofExcept (ofCommand (s.scope.resolve operands)) s := rfl

theorem record_run (recorded : CommandScope → Option CommandScope) {scope : CommandScope}
    (h : recorded s.scope = some scope) : record recorded s = .ok () { s with scope } := by
  have first : record recorded s = (match recorded s.scope with
      | some scope => modify fun s => { s with scope }
      | none => throw .abort : Enqueue Unit) s := rfl
  rw [first, h]
  rfl

theorem record_aborts (recorded : CommandScope → Option CommandScope)
    (h : recorded s.scope = none) : record recorded s = .error .abort s := by
  have first : record recorded s = (match recorded s.scope with
      | some scope => modify fun s => { s with scope }
      | none => throw .abort : Enqueue Unit) s := rfl
  rw [first, h]
  rfl

/-- The record of a command that was launched. -/
theorem submission_recorded {permit : CommandPermit}
    (prepared : s.scope.prepareCommand = .ok permit)
    (retained : s.scope.queue.retainedResources.length = s.scope.submitted)
    (resource : RetainedResource) :
    record (·.recordSubmission permit resource) (s.launch resource) = .ok () (s.submit resource) :=
  record_run (s.launch resource) (·.recordSubmission permit resource)
    (recordSubmission_eq prepared retained resource)

/-- The record of a launch that the driver failed. -/
theorem failedSubmission_recorded {permit : CommandPermit}
    (prepared : s.scope.prepareCommand = .ok permit)
    (retained : s.scope.queue.retainedResources.length = s.scope.submitted)
    (resource : RetainedResource) (error : SubmissionError) :
    record (·.recordFailedSubmission permit resource error) (s.launch resource) =
      .ok () ((s.submit resource).fail error) := by
  have recorded := recordSubmission_eq prepared retained resource
  refine record_run (s.launch resource) (·.recordFailedSubmission permit resource error) ?_
  rw [CommandScope.recordFailedSubmission]
  exact congrArg (Option.map (·.recordFailure error)) recorded

/-- An admitted launch and its record. -/
theorem launch_recorded {permit : CommandPermit}
    (prepared : s.scope.prepareCommand = .ok permit)
    (retained : s.scope.queue.retainedResources.length = s.scope.submitted) (function : String)
    (driver : Option DriverError) :
    (do
      let result ← launchKernel function true driver
      recordLaunch permit function result : Enqueue Unit) s =
      match driver with
      | none => .ok () (s.submit (.kernel function))
      | some error => .error (.error (.launch (.driver error)))
          ((s.submit (.kernel function)).fail (.driver error)) := by
  cases driver with
  | none => exact submission_recorded s prepared retained (.kernel function)
  | some error =>
    rw [bind_run]
    show (record _ >>= fun _ => throw _ : Enqueue Unit) (s.launch (.kernel function)) = _
    rw [bind_run, failedSubmission_recorded s prepared retained]
    rfl

end Run

/-- The steps before the launch, of which each may stop without a trace. -/
theorem enqueueKernel_run (launch : CheckedLaunch) (driver : Option DriverError) :
    (∃ error, launch.admission s.scope = .error error ∧
        enqueueKernel launch driver s = .error (.error error) s) ∨
      launch.admission s.scope = .ok () ∧ ∃ permit, s.scope.prepareCommand = .ok permit ∧
        enqueueKernel launch driver s =
          (do
            let result ← launchKernel launch.function true driver
            recordLaunch permit launch.function result : Enqueue Unit) s := by
  rw [enqueueKernel, CheckedLaunch.admission, bind_run, prepareCommand_run, ofExcept_run]
  cases prepared : s.scope.prepareCommand with
  | error error => exact .inl ⟨_, rfl, rfl⟩
  | ok permit =>
    simp only [ofCommand, Except.mapError, ok_bind, CheckedLaunch.accept]
    rw [bind_run, resolve_run, ofExcept_run, CommandScope.resolve]
    cases s.scope.bindings.resolve launch.operands with
    | error error => exact .inl ⟨_, rfl, rfl⟩
    | ok buffers =>
      simp only [ofCommand, Except.mapError, ok_bind]
      rw [bind_run, ofExcept_run]
      cases checkBuffers (operandsOf buffers) launch.checks with
      | error error => exact .inl ⟨_, rfl, rfl⟩
      | ok _ =>
        simp only [ok_bind]
        cases launch.requires (operandsOf buffers) with
        | false => exact .inl ⟨_, rfl, rfl⟩
        | true => exact .inr ⟨rfl, permit, rfl, rfl⟩

/-- A launch that is not admitted changes nothing; one that is admitted is recorded. -/
theorem enqueueKernel_eq (launch : CheckedLaunch) (driver : Option DriverError)
    (retained : s.scope.queue.retainedResources.length = s.scope.submitted) :
    enqueueKernel launch driver s =
      match launch.admission s.scope with
      | .error error => .error (.error error) s
      | .ok () =>
        match driver with
        | none => .ok () (s.submit (.kernel launch.function))
        | some error => .error (.error (.launch (.driver error)))
            ((s.submit (.kernel launch.function)).fail (.driver error)) := by
  rcases enqueueKernel_run launch driver (s := s) with ⟨error, refused, run⟩ |
    ⟨admitted, permit, prepared, run⟩
  · rw [run, refused]
  · rw [run, admitted]
    exact launch_recorded s prepared retained launch.function driver

end LoomKernels
