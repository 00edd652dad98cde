import LoomKernels.Command.Operators

/-!
# Accounting and atomicity

What a call of an operator can do to a scope (`Enqueued`): submit some commands that the scope has room
for, refuse without a trace, submit some and record a failure of the driver, or abort in the
bookkeeping check, which only happens when the resources are out of step with the count.

Every operator's call does one of these in every state (`enqueueInto_enqueued`). That calls are atomic
on recoverable errors (`enqueue_atomic`) and that runs of calls keep the books (`enqueue_accounted`)
follow.
-/

namespace LoomKernels

/-! ## Errors of the checks -/

theorem requireCommandCapacity_avoids (scope : CommandScope) (additional : Nat) :
    Avoids CommandError.isDriver (scope.requireCommandCapacity additional) := by
  unfold CommandScope.requireCommandCapacity
  split_ifs
  · exact avoids_error rfl
  · exact avoids_error rfl
  · exact avoids_ok ()

theorem prepareCommand_avoids (scope : CommandScope) :
    Avoids CommandError.isDriver scope.prepareCommand :=
  (requireCommandCapacity_avoids scope 1).bind fun _ => avoids_ok _

theorem validateSlots_avoids (bindingCount : Nat) (slots : List Nat) :
    ∀ before, Avoids CommandError.isDriver (validateSlots bindingCount before slots) := by
  induction slots with
  | nil => exact fun _ => avoids_ok ()
  | cons slot slots ih =>
    intro before
    unfold validateSlots
    split_ifs
    · exact avoids_error rfl
    · exact avoids_error rfl
    · exact ih _

theorem resolve_avoids (bindings : CheckedBindings) (operands : List Operand) :
    Avoids CommandError.isDriver (bindings.resolve operands) := by
  refine Avoids.bind ?_ fun _ => Avoids.mapM operands fun operand _ => ?_
  · unfold validateBindingRequest
    split_ifs
    · exact avoids_error rfl
    · exact validateSlots_avoids _ _ _
  · refine Avoids.mapError (show Avoids (fun _ => false) _ from fun _ _ => rfl) fun error _ => ?_
    cases error <;> rfl

theorem ofCommand_avoids {α : Type} {result : Except CommandError α}
    (h : Avoids CommandError.isDriver result) : Avoids EnqueueError.isDriver (ofCommand result) :=
  h.mapError fun _ good => good

theorem checkBuffers_avoids (buffers : Nat → DeviceBuffer) (checks : List BufferCheck) :
    Avoids EnqueueError.isDriver (checkBuffers buffers checks) := by
  induction checks with
  | nil => exact avoids_ok ()
  | cons check checks ih =>
    refine Avoids.bind ?_ fun _ => ih
    unfold BufferCheck.check
    split
    · split_ifs
      · exact avoids_ok ()
      · exact avoids_error rfl
    · split_ifs
      · exact avoids_error rfl
      · exact avoids_ok ()
    · split_ifs
      · exact avoids_ok ()
      · exact avoids_error rfl

theorem CheckedLaunch.admit_avoids (launch : CheckedLaunch) (scope : CommandScope) :
    Avoids EnqueueError.isDriver (launch.admission scope) := by
  refine (ofCommand_avoids (prepareCommand_avoids scope)).bind fun _ => ?_
  refine (ofCommand_avoids (resolve_avoids scope.bindings launch.operands)).bind fun buffers => ?_
  refine (checkBuffers_avoids (operandsOf buffers) launch.checks).bind fun _ => ?_
  split_ifs
  · exact avoids_ok ()
  · exact avoids_error rfl

/-! ## What a call can do -/

/-- Several commands launched and recorded, in order. -/
def EnqueueState.submitAll (s : EnqueueState) (resources : List RetainedResource) : EnqueueState :=
  resources.foldl EnqueueState.submit s

/-- The scope takes these further commands. -/
structure CommandScope.Room (scope : CommandScope) (resources : List RetainedResource) : Prop where
  healthy : scope.submissionError = none
  capacity : scope.submitted + resources.length ≤ scope.queue.maxCommands

/-- What a call of an `enqueue_into` can do from `s`. -/
inductive Enqueued (s : EnqueueState) : EStateM.Result Stop EnqueueState Unit → Prop
  | done (resources : List RetainedResource) (nonempty : resources ≠ [])
      (room : s.scope.Room resources) : Enqueued s (.ok () (s.submitAll resources))
  | refused {error : EnqueueError} (recoverable : error.isDriver = false) :
      Enqueued s (.error (.error error) s)
  | failed {error : EnqueueError} (resources : List RetainedResource) (reported : SubmissionError)
      (driver : error.isDriver = true) (room : s.scope.Room resources) :
      Enqueued s (.error (.error error) ((s.submitAll resources).fail reported))
  | aborted {s' : EnqueueState}
      (broken : s.scope.queue.retainedResources.length ≠ s.scope.submitted) :
      Enqueued s (.error .abort s')

section Kernels

variable {s : EnqueueState}

theorem Enqueued.refuse {check : Except EnqueueError Unit} {error : EnqueueError}
    (avoids : Avoids EnqueueError.isDriver check) (failed : check = .error error) :
    Enqueued s (.error (.error error) s) :=
  .refused (avoids error failed)

theorem CheckedLaunch.admit_room {launch : CheckedLaunch} {scope : CommandScope}
    (admitted : launch.admission scope = .ok ()) (resource : RetainedResource) :
    scope.Room [resource] := by
  unfold CheckedLaunch.admission at admitted
  cases prepared : scope.prepareCommand with
  | error error =>
    rw [prepared] at admitted
    cases admitted
  | ok permit =>
    obtain ⟨healthy, capacity, -⟩ := prepareCommand_eq_ok.mp prepared
    exact ⟨healthy, capacity⟩

/-- An admitted launch out of step with the books aborts. -/
theorem launch_aborts (permit : CommandPermit)
    (broken : s.scope.queue.retainedResources.length ≠ s.scope.submitted) (function : String)
    (driver : Option DriverError) :
    ∃ s', (do
      let result ← launchKernel function true driver
      recordLaunch permit function result : Enqueue Unit) s = .error .abort s' := by
  refine ⟨s.launch (.kernel function), ?_⟩
  cases driver with
  | none =>
    exact record_aborts (s.launch (.kernel function))
      (·.recordSubmission permit (.kernel function))
      (recordSubmission_none broken permit (.kernel function))
  | some error =>
    have aborts := record_aborts (s.launch (.kernel function))
      (·.recordFailedSubmission permit (.kernel function) (.driver error))
      (recordFailedSubmission_none broken permit (.kernel function) (.driver error))
    rw [bind_run]
    show (record _ >>= fun _ => throw _ : Enqueue Unit) (s.launch (.kernel function)) = _
    rw [bind_run, aborts]

/-- A call out of step with the books is refused or aborts. -/
theorem enqueueKernel_broken (launch : CheckedLaunch) (driver : Option DriverError)
    (broken : s.scope.queue.retainedResources.length ≠ s.scope.submitted) :
    ∃ stop s', enqueueKernel launch driver s = .error stop s' ∧
      Enqueued s (.error stop s') := by
  rcases enqueueKernel_run launch driver (s := s) with ⟨error, refused, run⟩ | ⟨-, permit, -, run⟩
  · exact ⟨_, s, run, .refuse (launch.admit_avoids s.scope) refused⟩
  · obtain ⟨s', aborts⟩ := launch_aborts permit broken launch.function driver
    exact ⟨.abort, s', run.trans aborts, .aborted broken⟩

/-- A call with one kernel. -/
theorem enqueueKernel_enqueued (launch : CheckedLaunch) (driver : Option DriverError) :
    Enqueued s (enqueueKernel launch driver s) := by
  by_cases retained : s.scope.queue.retainedResources.length = s.scope.submitted
  · rw [enqueueKernel_eq launch driver retained]
    cases admitted : launch.admission s.scope with
    | error error => exact .refuse (launch.admit_avoids s.scope) admitted
    | ok _ =>
      have room := CheckedLaunch.admit_room admitted (.kernel launch.function)
      cases driver with
      | none => exact .done [.kernel launch.function] (by simp) room
      | some error => exact .failed [.kernel launch.function] _ rfl room
  · obtain ⟨stop, s', run, enqueued⟩ := enqueueKernel_broken launch driver retained
    rw [run]
    exact enqueued

/-- Two kernels, of which the second is admitted whenever the first one was. -/
theorem enqueuePair_enqueued (launch launch' : CheckedLaunch) (driver driver' : Option DriverError)
    (implied : launch.admission s.scope = .ok () →
      launch'.admission (s.submit (.kernel launch.function)).scope = .ok ()) :
    Enqueued s ((do
      enqueueKernel launch driver
      enqueueKernel launch' driver' : Enqueue Unit) s) := by
  rw [bind_run]
  by_cases retained : s.scope.queue.retainedResources.length = s.scope.submitted
  · rw [enqueueKernel_eq launch driver retained]
    cases admitted : launch.admission s.scope with
    | error error => exact .refuse (launch.admit_avoids s.scope) admitted
    | ok _ =>
      have room := CheckedLaunch.admit_room admitted (.kernel launch.function)
      cases driver with
      | some error => exact .failed [.kernel launch.function] _ rfl room
      | none =>
        have retained' : (s.submit (.kernel launch.function)).scope.queue.retainedResources.length =
            (s.submit (.kernel launch.function)).scope.submitted := by
          simp only [EnqueueState.submit, List.length_append, List.length_singleton, retained]
        have admitted' := implied admitted
        have room' := CheckedLaunch.admit_room admitted' (.kernel launch'.function)
        have both : s.scope.Room [.kernel launch.function, .kernel launch'.function] :=
          ⟨room.healthy, room'.capacity⟩
        dsimp only
        rw [enqueueKernel_eq launch' driver' retained', admitted']
        cases driver' with
        | none =>
          exact .done [.kernel launch.function, .kernel launch'.function] (by simp) both
        | some error =>
          exact .failed [.kernel launch.function, .kernel launch'.function] _ rfl both
  · obtain ⟨stop, s', run, enqueued⟩ := enqueueKernel_broken launch driver retained
    rw [run]
    exact enqueued

end Kernels

/-! ## Two kernels on one workspace -/

theorem checkBuffers_eq_ok {buffers : Nat → DeviceBuffer} {checks : List BufferCheck} :
    checkBuffers buffers checks = .ok () ↔ ∀ check ∈ checks, check.check buffers = .ok () := by
  induction checks with
  | nil => simp [checkBuffers]
  | cons check checks ih => rw [checkBuffers, check_bind_eq_ok, ih, List.forall_mem_cons]

theorem BufferCheck.exactLen_eq_ok {buffers : Nat → DeviceBuffer} {operand : String}
    {position expected : Nat} :
    (BufferCheck.exactLen operand position expected).check buffers = .ok () ↔
      (buffers position).len = expected := by
  unfold BufferCheck.check
  dsimp only
  split <;> simp [*]

namespace CheckedLaunch

variable {launch : CheckedLaunch}

theorem accept_eq_ok {bindings : CheckedBindings} :
    launch.accept bindings = .ok () ↔ ∃ buffers, bindings.resolve launch.operands = .ok buffers ∧
      (∀ check ∈ launch.checks, check.check (operandsOf buffers) = .ok ()) ∧
      launch.requires (operandsOf buffers) = true := by
  unfold accept
  cases bindings.resolve launch.operands with
  | error error => simp [ofCommand, Except.mapError, error_bind]
  | ok buffers =>
    have whole : (ofCommand (.ok buffers : Except CommandError (List DeviceBuffer))) = .ok buffers :=
      rfl
    rw [whole, ok_bind, check_bind_eq_ok, checkBuffers_eq_ok]
    simp only [Except.ok.injEq, exists_eq_left', ite_eq_left_iff, Bool.not_eq_true, reduceCtorEq,
      imp_false, Bool.not_eq_false]

theorem admit_eq_ok {scope : CommandScope} :
    launch.admission scope = .ok () ↔ scope.submissionError = none ∧
      scope.submitted + 1 ≤ scope.queue.maxCommands ∧ launch.accept scope.bindings = .ok () := by
  unfold admission
  cases prepared : scope.prepareCommand with
  | error error =>
    simp only [ofCommand, Except.mapError, error_bind, reduceCtorEq, false_iff, not_and]
    intro healthy capacity
    rw [prepareCommand_eq_ok.mpr ⟨healthy, capacity, rfl⟩] at prepared
    cases prepared
  | ok permit =>
    obtain ⟨healthy, capacity, -⟩ := prepareCommand_eq_ok.mp prepared
    simp only [ofCommand, Except.mapError, ok_bind, healthy, capacity, true_and]

end CheckedLaunch

/-- What the set lends to an operand of a resolution is the buffer at its position. -/
theorem resolve_lends {bindings : CheckedBindings} {operands : List Operand}
    {buffers : List DeviceBuffer} (h : bindings.resolve operands = .ok buffers) (i : Nat)
    {operand : Operand} (at_i : operands[i]? = some operand) :
    bindings.Lends operand (operandsOf buffers i) := by
  obtain ⟨buffer, found, lends⟩ := CheckedBindings.resolve_getElem h at_i
  rw [operandsOf, List.getD_eq_getElem?_getD, found]
  exact lends

section Merge

variable {bindings : CheckedBindings} {workspace : ReadWriteOf .f32} {output : WriteOf .bf16}
  {lse : WriteOf .f32} {w o l : DeviceBuffer}

/-- Writable operands in one slot are one buffer. -/
theorem lends_same_slot {handle handle' : Write} {buffer buffer' : DeviceBuffer}
    (h : bindings.Lends (.write handle) buffer) (h' : bindings.Lends (.write handle') buffer')
    (same : handle.slot = handle'.slot) : handle.element = handle'.element ∧ buffer = buffer' := by
  have lease := Operand.borrow_write_eq_ok.mp h.borrow
  have lease' := Operand.borrow_write_eq_ok.mp h'.borrow
  simp only [Operand.handle, same] at lease lease'
  rw [lease] at lease'
  simpa using lease'

/-- A merge kernel reads the workspace that was written before and writes the results. -/
theorem accept_merge {launch : CheckedLaunch}
    (operands : launch.operands = [.read workspace.read, .write output, .write lse])
    (checks : launch.checks = []) (hw : bindings.Lends (.write workspace.write) w)
    (ho : bindings.Lends (.write output) o) (hl : bindings.Lends (.write lse) l)
    (workspace_lse : workspace.1.slot ≠ lse.1.slot) (output_lse : output.1.slot ≠ lse.1.slot)
    (requires : launch.requires (operandsOf [w, o, l]) = true) :
    launch.accept bindings = .ok () := by
  have workspace_output : workspace.1.slot ≠ output.1.slot := by
    intro same
    have types := (lends_same_slot hw ho same).1
    rw [workspace.write.2, output.2] at types
    cases types
  refine CheckedLaunch.accept_eq_ok.mpr ⟨[w, o, l], ?_, by simp [checks], requires⟩
  rw [operands, CheckedBindings.resolve_eq_ok]
  refine ⟨?_, ?_, ?_⟩
  · simp only [List.mem_cons, List.not_mem_nil, or_false, forall_eq_or_imp, forall_eq]
    exact ⟨⟨hw.set, hw.range⟩, ⟨ho.set, ho.range⟩, hl.set, hl.range⟩
  · simp only [List.map_cons, List.map_nil, List.nodup_cons, List.mem_cons, List.not_mem_nil,
      or_false, not_or, not_false_eq_true, List.nodup_nil, and_true]
    exact ⟨⟨workspace_output, workspace_lse⟩, output_lse⟩
  · exact .cons (Operand.borrow_read_of_write hw.borrow) (.cons ho.borrow (.cons hl.borrow .nil))

end Merge

/-- The merge kernel of split-K is admitted after the partials kernel. -/
theorem Bf16SingleDecodeSplitKPlan.merge_accept (plan : Bf16SingleDecodeSplitKPlan)
    (args : Bf16SingleDecodeSplitKArgs) {bindings : CheckedBindings}
    (accepted : (plan.partialLaunch args).accept bindings = .ok ()) :
    (plan.mergeLaunch args).accept bindings = .ok () := by
  obtain ⟨buffers, resolved, checks, -⟩ := CheckedLaunch.accept_eq_ok.mp accepted
  have len : ∀ operand position expected,
      .exactLen operand position expected ∈ (plan.partialLaunch args).checks →
        (operandsOf buffers position).len = expected :=
    fun _ _ _ mem => BufferCheck.exactLen_eq_ok.mp (checks _ mem)
  refine accept_merge rfl rfl (resolve_lends resolved 3 rfl) (resolve_lends resolved 4 rfl)
    (resolve_lends resolved 5 rfl)
    (CheckedBindings.resolve_slot_ne resolved (i := 3) (j := 5) rfl rfl (by decide))
    (CheckedBindings.resolve_slot_ne resolved (i := 4) (j := 5) rfl rfl (by decide)) ?_
  have workspace := len "workspace" 3 plan.spec.workspaceNumel (by simp [partialLaunch])
  have output := len "O" 4 plan.spec.decode.outputNumel (by simp [partialLaunch])
  have lse := len "LSE" 5 plan.spec.decode.lseNumel (by simp [partialLaunch])
  exact decide_eq_true ⟨plan.spec.decode.queryHeads_pos, plan.spec.partitions_pos, workspace, output,
    lse⟩

/-- The merge kernel of tiled prefill is admitted after the partial kernel. The workspace is not the
LSE buffer, because it is longer. -/
theorem Bf16RaggedPrefillPlan.merge_accept {plan : Bf16RaggedPrefillPlan}
    {args : Bf16RaggedPrefillArgs} {workspace : ReadWriteOf .f32} {bindings : CheckedBindings}
    (sized : plan.workspaceNumel =
      plan.spec.lseNumel * tiledPartitions * singleDecodePartialStateWidth)
    {buffers : List DeviceBuffer} (resolved : bindings.resolve (operands args) = .ok buffers)
    (checked : checkBuffers (operandsOf buffers) plan.checks = .ok ())
    (accepted : (plan.partialLaunch args workspace).accept bindings = .ok ()) :
    (plan.mergeLaunch args workspace).accept bindings = .ok () := by
  obtain ⟨buffers', resolved', checks', -⟩ := CheckedLaunch.accept_eq_ok.mp accepted
  have checks := checkBuffers_eq_ok.mp checked
  have output : (operandsOf buffers 5).len = plan.spec.outputNumel :=
    BufferCheck.exactLen_eq_ok.mp (checks (.exactLen "O" 5 _) (by simp [Bf16RaggedPrefillPlan.checks]))
  have lse : (operandsOf buffers 6).len = plan.spec.lseNumel :=
    BufferCheck.exactLen_eq_ok.mp
      (checks (.exactLen "LSE" 6 _) (by simp [Bf16RaggedPrefillPlan.checks]))
  have space : (operandsOf buffers' 5).len = plan.workspaceNumel :=
    BufferCheck.exactLen_eq_ok.mp (checks' (.exactLen "workspace" 5 _) (by simp [partialLaunch]))
  have lendsWorkspace := resolve_lends resolved' 5 (show _ = some (.write workspace.write) from rfl)
  have lendsLse := resolve_lends resolved 6 (show _ = some (.write args.lse) from rfl)
  refine accept_merge rfl rfl lendsWorkspace (resolve_lends resolved 5 rfl) lendsLse ?_
    (CheckedBindings.resolve_slot_ne resolved (i := 5) (j := 6) rfl rfl (by decide)) ?_
  · intro same
    have longer := congrArg DeviceBuffer.len (lends_same_slot lendsWorkspace lendsLse same).2
    have rows : 0 < plan.spec.lseNumel := Nat.mul_pos plan.spec.qo_pos plan.spec.queryHeads_pos
    have width : singleDecodePartialStateWidth = 130 := rfl
    rw [space, lse, sized, tiledPartitions, width] at longer
    omega
  · rw [sized] at space
    exact decide_eq_true ⟨plan.spec.qo_pos, plan.spec.queryHeads_pos, space, output, lse⟩

/-! ## The operators -/

section Operators

variable {s : EnqueueState}

theorem requireCommandCapacity_run (additional : Nat) :
    requireCommandCapacity additional s =
      ofExcept (ofCommand (s.scope.requireCommandCapacity additional)) s := rfl

/-- The second of two kernels for which there is room. -/
theorem CheckedLaunch.admit_second {launch launch' : CheckedLaunch}
    (room : s.scope.requireCommandCapacity 2 = .ok ())
    (implied : launch.accept s.scope.bindings = .ok () → launch'.accept s.scope.bindings = .ok ())
    (admitted : launch.admission s.scope = .ok ()) :
    launch'.admission (s.submit (.kernel launch.function)).scope = .ok () := by
  obtain ⟨healthy, capacity⟩ := requireCommandCapacity_eq_ok.mp room
  obtain ⟨-, -, accepted⟩ := CheckedLaunch.admit_eq_ok.mp admitted
  exact CheckedLaunch.admit_eq_ok.mpr ⟨healthy, capacity, implied accepted⟩

theorem Bf16SingleDecodeSplitKPlan.enqueued (plan : Bf16SingleDecodeSplitKPlan)
    (args : Bf16SingleDecodeSplitKArgs) (first second : Option DriverError) :
    Enqueued s (plan.enqueueInto args first second s) := by
  rw [Bf16SingleDecodeSplitKPlan.enqueueInto, bind_run, requireCommandCapacity_run, ofExcept_run]
  cases room : s.scope.requireCommandCapacity 2 with
  | error error => exact .refused (requireCommandCapacity_avoids s.scope 2 error room)
  | ok _ =>
    exact enqueuePair_enqueued _ _ first second
      (CheckedLaunch.admit_second room (plan.merge_accept args))

theorem Bf16RaggedPrefillPlan.tiled_enqueued {plan : Bf16RaggedPrefillPlan}
    (sized : plan.workspaceNumel =
      plan.spec.lseNumel * tiledPartitions * singleDecodePartialStateWidth)
    (args : Bf16RaggedPrefillArgs) (first second : Option DriverError) :
    Enqueued s (plan.enqueueTiledGqa4 args first second s) := by
  unfold Bf16RaggedPrefillPlan.enqueueTiledGqa4
  cases args.workspace with
  | none => exact .refused rfl
  | some workspace =>
    dsimp only
    rw [bind_run, requireCommandCapacity_run, ofExcept_run]
    cases room : s.scope.requireCommandCapacity 2 with
    | error error => exact .refused (requireCommandCapacity_avoids s.scope 2 error room)
    | ok _ =>
      dsimp only [ofCommand, Except.mapError]
      rw [bind_run, resolve_run, ofExcept_run, CommandScope.resolve]
      cases resolved : s.scope.bindings.resolve (operands args) with
      | error error => exact .refused (resolve_avoids s.scope.bindings _ error resolved)
      | ok buffers =>
        dsimp only [ofCommand, Except.mapError]
        rw [bind_run, ofExcept_run]
        cases checked : checkBuffers (operandsOf buffers) plan.checks with
        | error error => exact .refuse (checkBuffers_avoids _ _) checked
        | ok _ =>
          exact enqueuePair_enqueued _ _ first second
            (CheckedLaunch.admit_second room (Bf16RaggedPrefillPlan.merge_accept sized resolved checked))

theorem Bf16RaggedPrefillPlan.enqueued {plan : Bf16RaggedPrefillPlan}
    (planned : planBf16Ragged plan.spec = .ok plan) (args : Bf16RaggedPrefillArgs)
    (first second : Option DriverError) : Enqueued s (plan.enqueueInto args first second s) := by
  obtain ⟨algorithm, -, sized⟩ := planBf16Ragged_eq_ok planned
  unfold Bf16RaggedPrefillPlan.enqueueInto
  cases chosen : plan.algorithm with
  | tiledGqa4 =>
    exact Bf16RaggedPrefillPlan.tiled_enqueued (sized (algorithm ▸ chosen)) args first second
  | direct => exact enqueueKernel_enqueued _ first
  | tokenParallel8 => exact enqueueKernel_enqueued _ first
  | tokenParallel16 => exact enqueueKernel_enqueued _ first

theorem Bf16GemmPlan.validateResolved_avoids (plan : Bf16GemmPlan) (stream : CudaStream)
    (stickyStatus : Int) (buffers : Nat → DeviceBuffer) :
    Avoids EnqueueError.isDriver (plan.validateResolved stream stickyStatus buffers) := by
  refine (checkBuffers_avoids buffers _).bind fun _ => ?_
  split_ifs
  · exact avoids_error rfl
  · refine (checkBuffers_avoids buffers _).bind fun _ => ?_
    exact avoids_error rfl
  · refine (checkBuffers_avoids buffers _).bind fun _ => ?_
    exact avoids_error rfl
  · refine (checkBuffers_avoids buffers _).bind fun _ => ?_
    exact avoids_ok ()

/-- The matrix product and its record. -/
theorem Bf16GemmPlan.submit_enqueued (plan : Bf16GemmPlan) {permit : CommandPermit}
    (prepared : s.scope.prepareCommand = .ok permit) (matmul : Option Int) :
    Enqueued s (plan.submit permit matmul s) := by
  obtain ⟨healthy, capacity, -⟩ := prepareCommand_eq_ok.mp prepared
  have room : s.scope.Room [.external plan.inner] := ⟨healthy, capacity⟩
  cases matmul with
  | none =>
    have launched : plan.submit permit none s =
        (record (·.recordSubmission permit (.external plan.inner)) : Enqueue Unit)
          (s.launch (.external plan.inner)) := rfl
    rw [launched]
    by_cases retained : s.scope.queue.retainedResources.length = s.scope.submitted
    · rw [submission_recorded s prepared retained]
      exact .done [.external plan.inner] (by simp) room
    · rw [record_aborts _ _ (recordSubmission_none retained permit (.external plan.inner))]
      exact .aborted retained
  | some status =>
    have launched : plan.submit permit (some status) s = (do
        record (·.recordFailedSubmission permit (.external plan.inner)
          (.external ⟨"cuBLASLt", status⟩))
        throw (.error (.cublasLt status)) : Enqueue Unit) (s.launch (.external plan.inner)) := rfl
    rw [launched, bind_run]
    by_cases retained : s.scope.queue.retainedResources.length = s.scope.submitted
    · rw [failedSubmission_recorded s prepared retained]
      exact .failed [.external plan.inner] _ rfl room
    · rw [record_aborts _ _ (recordFailedSubmission_none retained permit
        (.external plan.inner) (.external ⟨"cuBLASLt", status⟩))]
      exact .aborted retained

theorem Bf16GemmPlan.enqueued (plan : Bf16GemmPlan) (args : Bf16GemmArgs)
    (bind : Option DriverError) (stickyStatus : Int) (matmul : Option Int) :
    Enqueued s (plan.enqueueInto args bind stickyStatus matmul s) := by
  rw [Bf16GemmPlan.enqueueInto, bind_run, prepareCommand_run, ofExcept_run]
  cases prepared : s.scope.prepareCommand with
  | error error => exact .refused (prepareCommand_avoids s.scope error prepared)
  | ok permit =>
    obtain ⟨healthy, capacity, -⟩ := prepareCommand_eq_ok.mp prepared
    have room : s.scope.Room [.external plan.inner] := ⟨healthy, capacity⟩
    cases bind with
    | some error =>
      exact .failed [] (.driver error) rfl
        ⟨healthy, (Nat.le_succ _).trans capacity⟩
    | none =>
      dsimp only [ofCommand, Except.mapError]
      rw [bind_run, resolve_run, ofExcept_run, CommandScope.resolve]
      cases resolved : s.scope.bindings.resolve (operands args) with
      | error error => exact .refused (resolve_avoids s.scope.bindings _ error resolved)
      | ok buffers =>
        dsimp only [ofCommand, Except.mapError]
        show Enqueued s ((ofExcept (plan.validateResolved s.scope.queue.stream stickyStatus
          (operandsOf buffers)) >>= fun _ => plan.submit permit matmul) s)
        rw [bind_run, ofExcept_run]
        cases validated : plan.validateResolved s.scope.queue.stream stickyStatus
            (operandsOf buffers) with
        | error error =>
          exact .refused (plan.validateResolved_avoids s.scope.queue.stream stickyStatus
            (operandsOf buffers) error validated)
        | ok _ => exact plan.submit_enqueued prepared matmul

/-- Every operator's call does one of the four things, in every state. -/
theorem OperatorCall.enqueueInto_enqueued (call : OperatorCall) (answers : Answers) :
    Enqueued s (call.enqueueInto answers s) := by
  cases call with
  | rmsNormF32 plan args => exact enqueueKernel_enqueued _ answers.first
  | rmsNormF16 plan args => exact enqueueKernel_enqueued _ answers.first
  | rmsNormBf16 plan args => exact enqueueKernel_enqueued _ answers.first
  | ropePosIds plan args => exact enqueueKernel_enqueued _ answers.first
  | pagedAppend plan args => exact enqueueKernel_enqueued _ answers.first
  | pagedAppendTokens plan args => exact enqueueKernel_enqueued _ answers.first
  | singleDecode plan args => exact enqueueKernel_enqueued _ answers.first
  | pagedBatchDecode plan args => exact enqueueKernel_enqueued _ answers.first
  | splitK plan args => exact plan.enqueued args answers.first answers.second
  | pagedPrefill plan args => exact enqueueKernel_enqueued _ answers.first
  | raggedPrefill plan planned args =>
    exact Bf16RaggedPrefillPlan.enqueued planned args answers.first answers.second
  | gemm plan args => exact plan.enqueued args answers.bind answers.stickyStatus answers.matmul

end Operators

/-! ## Atomicity -/

/-- A call that fails with an error of its own changes nothing; one that fails with an error of the
driver or of an external library leaves the scope and its queue poisoned. -/
theorem enqueue_atomic (call : OperatorCall) (answers : Answers) {s s' : EnqueueState}
    {error : EnqueueError} (failed : call.enqueueInto answers s = .error (.error error) s') :
    (error.isDriver = false → s' = s) ∧
      (error.isDriver = true →
        s'.scope.submissionError.isSome = true ∧ s'.scope.queue.poisoned = true) := by
  have outcome := call.enqueueInto_enqueued answers (s := s)
  rw [failed] at outcome
  cases outcome with
  | refused recoverable => exact ⟨fun _ => rfl, fun driver => by simp [recoverable] at driver⟩
  | failed _ _ driver room =>
    exact ⟨fun recoverable => by simp [driver] at recoverable, fun _ => ⟨rfl, rfl⟩⟩

/-- No call of the driver or the library fails. -/
def noFailures : Answers := ⟨none, none, none, 0, none⟩

/-- A split-K decode over one token, in a queue for one command. -/
def oneTokenSplitK : OperatorCall :=
  .splitK ⟨⟨⟨1, 1, 1, Nat.one_pos, Nat.one_pos, Nat.one_pos, rfl, oneToken_fits, oneToken_fits,
      by decide⟩, 1, Nat.one_pos, by decide, by decide⟩⟩
    ⟨⟨⟨⟨2, 0, .bf16⟩⟩, rfl⟩, ⟨⟨⟨2, 1, .bf16⟩⟩, rfl⟩, ⟨⟨⟨2, 2, .bf16⟩⟩, rfl⟩, ⟨⟨⟨2, 3, .f32⟩⟩, rfl⟩,
      ⟨⟨⟨2, 4, .bf16⟩⟩, rfl⟩, ⟨⟨⟨2, 5, .f32⟩⟩, rfl⟩⟩

def oneCommandQueue : CommandQueue := ⟨1, ⟨3, ⟨7, 0⟩⟩, ⟨0⟩, [], 1, false, by decide⟩

/-- Both commands of a two-kernel plan are refused together. -/
theorem enqueue_atomic_splitK :
    ∃ s', oneTokenSplitK.enqueueInto noFailures
        ⟨⟨oneCommandQueue, ⟨1, 2, ⟨3, ⟨7, 0⟩⟩, [], 6⟩, 3, 0, none⟩, ⟨[], [], [], []⟩⟩ =
        .error (.error (.command (.commandCapacityExceeded 1))) s' ∧
      s' = ⟨⟨oneCommandQueue, ⟨1, 2, ⟨3, ⟨7, 0⟩⟩, [], 6⟩, 3, 0, none⟩, ⟨[], [], [], []⟩⟩ :=
  ⟨_, rfl, (enqueue_atomic oneTokenSplitK noFailures rfl).1 rfl⟩

/-! ## Accounting -/

namespace EnqueueState

variable {s : EnqueueState}

/-- The state after a call whose error, if any, the caller ignores. `none` is an abort. -/
def call (s : EnqueueState) (action : OperatorCall × Answers) : Option EnqueueState :=
  match action.1.enqueueInto action.2 s with
  | .ok _ s' => some s'
  | .error (.error _) s' => some s'
  | .error .abort _ => none

/-- The commands of `s'` that were launched after `s`, all of them by the scope of `s`. -/
structure Launched (s s' : EnqueueState) (commands : List Command) : Prop where
  log : s'.device.log = s.device.log ++ commands
  pending : s'.device.pending = s.device.pending ++ commands
  releases : s'.device.releases = s.device.releases
  rerecords : s'.device.rerecords = s.device.rerecords
  retained : s'.scope.queue.retainedResources =
    s.scope.queue.retainedResources ++ commands.map (·.resource)
  submitted : s'.scope.submitted = s.scope.submitted + commands.length
  own : ∀ command ∈ commands, ∃ serial, s.device.log.length ≤ serial ∧
    serial < s'.device.log.length ∧ command = s.scope.command serial command.resource
  queue : s'.scope.queue.id = s.scope.queue.id
  stream : s'.scope.queue.stream = s.scope.queue.stream
  event : s'.scope.queue.completionEvent = s.scope.queue.completionEvent
  maxCommands : s'.scope.queue.maxCommands = s.scope.queue.maxCommands
  scope : s'.scope.scopeId = s.scope.scopeId
  bindings : s'.scope.bindings = s.scope.bindings

theorem Launched.refl (s : EnqueueState) : Launched s s [] :=
  ⟨by simp, by simp, rfl, rfl, by simp, rfl, nofun, rfl, rfl, rfl, rfl, rfl, rfl⟩

theorem Launched.trans {s₁ s₂ s₃ : EnqueueState} {commands commands' : List Command}
    (h : Launched s₁ s₂ commands) (h' : Launched s₂ s₃ commands') :
    Launched s₁ s₃ (commands ++ commands') where
  log := by rw [h'.log, h.log, List.append_assoc]
  pending := by rw [h'.pending, h.pending, List.append_assoc]
  releases := h'.releases.trans h.releases
  rerecords := h'.rerecords.trans h.rerecords
  retained := by rw [h'.retained, h.retained, List.map_append, List.append_assoc]
  submitted := by rw [h'.submitted, h.submitted, List.length_append, Nat.add_assoc]
  own command mem := by
    have longer : s₂.device.log.length ≤ s₃.device.log.length := by
      rw [h'.log, List.length_append]
      exact Nat.le_add_right _ _
    have longer' : s₁.device.log.length ≤ s₂.device.log.length := by
      rw [h.log, List.length_append]
      exact Nat.le_add_right _ _
    rcases List.mem_append.mp mem with mem | mem
    · obtain ⟨serial, le, lt, same⟩ := h.own command mem
      exact ⟨serial, le, lt.trans_le longer, same⟩
    · obtain ⟨serial, le, lt, same⟩ := h'.own command mem
      refine ⟨serial, longer'.trans le, lt, same.trans ?_⟩
      rw [CommandScope.command, h.stream, h.queue, h.scope, h.bindings]
      rfl
  queue := h'.queue.trans h.queue
  stream := h'.stream.trans h.stream
  event := h'.event.trans h.event
  maxCommands := h'.maxCommands.trans h.maxCommands
  scope := h'.scope.trans h.scope
  bindings := h'.bindings.trans h.bindings

theorem submit_launched (s : EnqueueState) (resource : RetainedResource) :
    Launched s (s.submit resource) [s.scope.command s.device.log.length resource] where
  log := rfl
  pending := rfl
  releases := rfl
  rerecords := rfl
  retained := rfl
  submitted := rfl
  own command mem := by
    obtain rfl := List.mem_singleton.mp mem
    refine ⟨s.device.log.length, le_rfl, ?_, rfl⟩
    simp [submit, launch, Device.launch]
  queue := rfl
  stream := rfl
  event := rfl
  maxCommands := rfl
  scope := rfl
  bindings := rfl

theorem submitAll_launched (resources : List RetainedResource) :
    ∀ s : EnqueueState, ∃ commands, Launched s (s.submitAll resources) commands ∧
      commands.length = resources.length := by
  induction resources with
  | nil => exact fun s => ⟨[], .refl s, rfl⟩
  | cons resource resources ih =>
    intro s
    obtain ⟨commands, launched, length⟩ := ih (s.submit resource)
    exact ⟨_, (s.submit_launched resource).trans launched, by simp [length]⟩

theorem Launched.fail {s' : EnqueueState} {commands : List Command}
    (h : Launched s s' commands) (error : SubmissionError) : Launched s (s'.fail error) commands :=
  ⟨h.log, h.pending, h.releases, h.rerecords, h.retained, h.submitted, h.own, h.queue, h.stream, h.event,
    h.maxCommands, h.scope, h.bindings⟩

/-- Launches within the room of a scope keep the books. -/
theorem Launched.accounted {s' : EnqueueState} {commands : List Command}
    (h : Launched s s' commands) (acc : s.scope.Accounted) {resources : List RetainedResource}
    (length : commands.length = resources.length) (room : s.scope.Room resources) :
    s'.scope.Accounted where
  retained := by
    rw [h.retained, h.submitted, List.length_append, List.length_map, acc.retained]
  capacity := by
    rw [h.submitted, h.maxCommands, length]
    exact room.capacity

end EnqueueState

/-- Three buffers of one float each, and a normalization over them. -/
def threeFloats : CheckedBindings :=
  ⟨1, 2, ⟨3, ⟨7, 0⟩⟩, [eraseRead ⟨1, .f32, ⟨7, 0⟩, 1, 4096⟩, eraseRead ⟨2, .f32, ⟨7, 0⟩, 1, 8192⟩,
    eraseReadWrite ⟨3, .f32, ⟨7, 0⟩, 1, 12288⟩], 3⟩

def oneFloatRmsNorm (setId : Nat) : OperatorCall :=
  .rmsNormF32 ⟨⟨1, 1, f32One, .f32, Nat.one_pos, Nat.one_pos, f32One_positive, by decide⟩, rfl⟩
    ⟨⟨⟨⟨setId, 0, .f32⟩⟩, rfl⟩, ⟨⟨⟨setId, 1, .f32⟩⟩, rfl⟩, ⟨⟨⟨setId, 2, .f32⟩⟩, rfl⟩⟩

end LoomKernels
