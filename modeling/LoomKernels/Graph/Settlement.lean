import LoomKernels.Graph.Exec

/-!
# Settlement of replays

`ExecInv` is what holds of an executable between two operations: a pending replay of it is flagged, runs on
its stream, and is covered by its event unless the record failed. From it follows what every operation
does: a settlement leaves no replay of the graph pending, a launch adds one when there was none, and what
is destroyed or handed back is of no pending replay's use.
-/

namespace LoomKernels

/-! ## Invariants -/

/-- An executable of the captured scope `id`, between two operations. -/
structure ExecInv (d : Device) (id : Nat) (exec : GraphExec) : Prop where
  graph : exec.graph.scopeId = id
  own : ∀ c ∈ d.pending, c.scopeId = id → exec.inFlight = true ∧ c.stream.Same exec.stream ∧
    (exec.recordError = none → c.serial < exec.completionEvent.recorded)
  healthy : exec.inFlight = true → exec.poisoned = false

/-- No two pending replays are of one graph. -/
def Device.Single (d : Device) : Prop := d.pending.Pairwise fun c c' => c.scopeId ≠ c'.scopeId

/-- What an operation on a graph may do to the device. -/
structure Served (id : Nat) (d d' : Device) : Prop where
  pending : ∀ c ∈ d'.pending, c ∈ d.pending ∨ c.scopeId = id
  single : d.Single → d'.Single
  releases : ∀ release ∈ d'.releases, release ∈ d.releases ∨ release.Safe

section Served

variable {id : Nat} {d d' d'' : Device}

theorem Served.refl (id : Nat) (d : Device) : Served id d d :=
  ⟨fun _ => .inl, fun single => single, fun _ => .inl⟩

theorem Served.trans (h : Served id d d') (h' : Served id d' d'') : Served id d d'' where
  pending c mem := (h'.pending c mem).elim (h.pending c) .inr
  single single := h'.single (h.single single)
  releases release mem := (h'.releases release mem).elim (h.releases release) .inr

theorem Device.Quieter.served (quieter : d.Quieter d') : Served id d d' where
  pending c mem := .inl (quieter.pending c mem)
  single single := single.sublist quieter.kept
  releases _ mem := .inl (quieter.releases ▸ mem)

/-- A part of a graph is released when no replay of the graph is pending. -/
theorem Served.release (free : d.Free (·.scopeId = id)) (part : GraphPart) :
    Served id d (d.release (.graph id part)) where
  pending _ := .inl
  single single := single
  releases release mem := by
    rcases List.mem_append.mp mem with mem | mem
    · exact .inl mem
    · rw [List.mem_singleton.mp mem]
      exact .inr free

/-- A replay is launched when none is pending. -/
theorem Served.launch (free : d.Free (·.scopeId = id)) {c : Command} (own : c.scopeId = id) :
    Served id d (d.launch c) where
  pending c' mem := by
    rcases List.mem_append.mp mem with mem | mem
    · exact .inl mem
    · exact .inr (List.mem_singleton.mp mem ▸ own)
  single single := by
    refine List.pairwise_append.mpr ⟨single, List.pairwise_singleton _ _, fun c' mem c'' new same => ?_⟩
    rw [List.mem_singleton.mp new] at same
    exact free c' mem (same.trans own)
  releases _ := .inl

end Served

/-! ## Operations -/

section Operations

variable {id : Nat} {d : Device} {exec : GraphExec}

/-- No replay is in flight afterwards, and the flag tells so. -/
structure Settles (id : Nat) (exec : GraphExec) (d : Device) {α : Type} (outcome : GraphOutcome α)
    (d' : Device) : Prop where
  served : Served id d d'
  log : d'.log = d.log
  free : d'.Free (·.scopeId = id)
  graph : outcome.exec.graph = exec.graph
  idle : outcome.exec.inFlight = false
  launches : outcome.exec.launches = exec.launches
  launched : outcome.launched = none

theorem GraphExec.settleStream_ends (inv : ExecInv d id exec) (answers : SyncAnswers)
    (reported : DriverError) :
    Ends (exec.settleStream answers reported) d
      (fun failure d' => d.Quieter d' ∧ d'.Free (·.scopeId = id) ∧ failure.isSome)
      (fun _ d' => d' = d) := by
  rw [GraphExec.settleStream, ends_bind]
  refine (synchronizeStreamOrAbort_ends exec.stream answers d).mono (fun error d' quiet => ?_)
    fun _ _ h => h
  refine ⟨quiet.1, fun c mem own => ?_, rfl⟩
  exact quiet.2 c mem (inv.own c (quiet.1.pending c mem) own).2.1

theorem GraphExec.settleInFlight_ends (inv : ExecInv d id exec) (answers : SyncAnswers) :
    Ends (exec.settleInFlight answers) d
      (fun settled d' => Settles id exec d settled d' ∧ settled.exec.poisoned = exec.poisoned ∧
        (settled.failure.isSome → exec.inFlight = true))
      (fun _ d' => d' = d) := by
  unfold GraphExec.settleInFlight
  split_ifs with flying
  · have stream (reported : DriverError) := exec.settleStream_ends inv answers reported
    have settled (failure : Option GraphSettlementFailure) (d' : Device) (quieter : d.Quieter d')
        (free : d'.Free (·.scopeId = id)) :
        Settles id exec d (⟨(), none, failure, { exec with
          inFlight := false, recordError := none, pollError := none }⟩ : GraphOutcome Unit) d' :=
      ⟨quieter.served, quieter.log, free, rfl, rfl, rfl, rfl⟩
    have fallback (reported : DriverError) :
        Ends (do
          let failure ← exec.settleStream answers reported
          return ⟨(), none, failure, { exec with
            inFlight := false, recordError := none, pollError := none }⟩) d
          (fun outcome d' => Settles id exec d outcome d' ∧ outcome.exec.poisoned = exec.poisoned ∧
            (outcome.failure.isSome → exec.inFlight = true)) (fun _ d' => d' = d) := by
      rw [ends_bind]
      exact (stream reported).mono (fun failure d' quiet =>
        ⟨settled failure d' quiet.1 quiet.2.1, rfl, fun _ => flying⟩) fun _ _ h => h
    cases recorded : exec.recordError with
    | some error => exact fallback error
    | none =>
      cases exec.pollError with
      | some error => exact fallback error
      | none =>
        cases answers.event with
        | some error => exact fallback error
        | none =>
          refine ⟨settled none _ (d.settle_quieter _) fun c mem own => ?_, rfl, nofun⟩
          obtain ⟨-, same, covered⟩ := inv.own c (List.mem_of_mem_filter mem) own
          exact d.settle_free _ c mem (decide_eq_true ⟨same, covered recorded⟩)
  · refine ⟨⟨.refl id d, rfl, fun c mem own => flying (inv.own c mem own).1, rfl, by simpa using flying,
      rfl, rfl⟩, rfl, nofun⟩

/-- The executable after a settlement. -/
theorem Settles.inv {α : Type} {outcome : GraphOutcome α} {d' : Device}
    (settles : Settles id exec d outcome d') (graph : exec.graph.scopeId = id) :
    ExecInv d' id outcome.exec where
  graph := by rw [settles.graph, graph]
  own c mem own := absurd own (settles.free c mem)
  healthy flying := by
    rw [settles.idle] at flying
    cases flying

theorem GraphExec.dropCompletion_ends (inv : ExecInv d id exec) (answers : SyncAnswers) :
    Ends (exec.dropCompletion answers) d
      (fun outcome d' => Settles id exec d outcome d' ∧
        (outcome.exec.poisoned = true ↔ exec.poisoned = true ∨ outcome.failure.isSome))
      (fun _ d' => d' = d) := by
  rw [GraphExec.dropCompletion, ends_bind]
  refine (exec.settleInFlight_ends inv answers).mono ?_ fun _ _ h => h
  rintro ⟨result, launched, failure, exec'⟩ d' ⟨settles, poisoned, -⟩
  cases failure with
  | none =>
    dsimp only at poisoned
    exact ⟨settles, by simp [poisoned]⟩
  | some failure =>
    exact ⟨⟨settles.served, settles.log, settles.free, settles.graph, settles.idle,
      settles.launches, settles.launched⟩, by simp⟩

theorem GraphExec.wait_ends (inv : ExecInv d id exec) (answers : SyncAnswers) :
    Ends (exec.wait answers) d
      (fun outcome d' => Settles id exec d outcome d' ∧
        (outcome.exec.poisoned = true ↔ exec.poisoned = true ∨ outcome.failure.isSome))
      (fun _ d' => d' = d) := by
  rw [GraphExec.wait, ends_bind]
  refine (exec.settleInFlight_ends inv answers).mono ?_ fun _ _ h => h
  rintro ⟨result, launched, failure, exec'⟩ d' ⟨settles, poisoned, -⟩
  cases failure with
  | none =>
    dsimp only at poisoned
    exact ⟨⟨settles.served, settles.log, settles.free, settles.graph, settles.idle,
      settles.launches, rfl⟩,
      by simp [poisoned]⟩
  | some failure =>
    exact ⟨⟨settles.served, settles.log, settles.free, settles.graph, settles.idle,
      settles.launches, rfl⟩,
      by simp⟩

theorem GraphExec.isComplete_ends (inv : ExecInv d id exec) (query : Except DriverError Bool) :
    Ends (exec.isComplete query) d
      (fun result d' => d.Quieter d' ∧ ExecInv d' id result.2 ∧ result.2.inFlight = exec.inFlight ∧
        result.2.poisoned = exec.poisoned ∧ result.2.launches = exec.launches)
      (fun _ d' => d' = d) := by
  have same : d.Quieter d ∧ ExecInv d id exec ∧ exec.inFlight = exec.inFlight ∧
      exec.poisoned = exec.poisoned ∧ exec.launches = exec.launches :=
    ⟨.refl d, inv, rfl, rfl, rfl⟩
  obtain ⟨graph, stream, completionEvent, bindings, resources, commands, launches, inFlight,
    recordError, pollError, poisoned⟩ := exec
  unfold GraphExec.isComplete
  cases recordError with
  | some error => exact same
  | none =>
    cases pollError with
    | some error => exact same
    | none =>
      cases query with
      | error error => exact ⟨.refl d, ⟨inv.graph, inv.own, inv.healthy⟩, rfl, rfl, rfl⟩
      | ok complete =>
        cases complete with
        | false => exact same
        | true =>
          exact ⟨d.settle_quieter _,
            ⟨inv.graph, fun c mem => inv.own c (List.mem_of_mem_filter mem), inv.healthy⟩, rfl, rfl,
            rfl⟩

/-- What an operation does that may launch a replay. Nothing changes when one is in flight, or when no
raw launch is attempted. -/
structure Replays (id : Nat) (exec : GraphExec) (d : Device) {α : Type} (outcome : GraphOutcome α)
    (d' : Device) : Prop where
  served : Served id d d'
  inv : ExecInv d' id outcome.exec
  poisoned : outcome.exec.poisoned = true ↔ exec.poisoned = true ∨ outcome.failure.isSome
  launches : outcome.launched = none ∧ outcome.exec.launches = exec.launches ∨
    outcome.launched = some (exec.launches + 1) ∧ outcome.exec.launches = exec.launches + 1
  refused : exec.inFlight = true → outcome.exec = exec
  unchanged : d'.log = d.log → outcome.exec = exec ∧ d' = d

theorem Replays.refuse {α : Type} (inv : ExecInv d id exec) (result : α) :
    Replays id exec d ⟨result, none, none, exec⟩ d :=
  ⟨.refl id d, inv, by simp, .inl ⟨rfl, rfl⟩, fun _ => rfl, fun _ => ⟨rfl, rfl⟩⟩

/-- What a launch tells by its result. -/
def Tells (exec : GraphExec) (d : Device) (outcome : GraphOutcome (Except GraphError Nat))
    (d' : Device) : Prop :=
  match outcome.result with
  | .ok index => outcome.launched = some index ∧ outcome.failure = none ∧
    outcome.exec.inFlight = true ∧ d'.log ≠ d.log
  | .error _ => outcome.launched = none ∧ (outcome.exec.inFlight = true → exec.inFlight = true)

theorem GraphExec.launch_ends (inv : ExecInv d id exec) (answers : LaunchAnswers) :
    Ends (exec.launch answers) d
      (fun outcome d' => Replays id exec d outcome d' ∧ Tells exec d outcome d')
      (fun _ d' => Served id d d') := by
  have refuse (error : GraphError) :
      Replays id exec d (⟨.error error, none, none, exec⟩ : GraphOutcome (Except GraphError Nat)) d ∧
        Tells exec d ⟨.error error, none, none, exec⟩ d := ⟨.refuse inv _, rfl, fun flies => flies⟩
  unfold GraphExec.launch
  split_ifs with poisoned flying exhausted
  · exact refuse _
  · exact refuse _
  · cases answers.bind with
    | some error => exact refuse _
    | none =>
      have healthy : exec.poisoned = false := by simpa using poisoned
      have free : d.Free (·.scopeId = id) := fun c mem own => flying (inv.own c mem own).1
      have served : Served id d (d.launch (exec.replay d.log.length)) := .launch free inv.graph
      have grown : d.log ++ [exec.replay d.log.length] ≠ d.log := by simp
      dsimp only
      rw [ends_bind, ends_modify]
      cases answers.launch with
      | some error =>
        dsimp only
        rw [ends_bind]
        refine (synchronizeStreamOrAbort_ends exec.stream answers.sync _).mono
          (fun synchronizeError d' quiet => ?_) fun _ d' same => same ▸ served
        have quieter := quiet.1
        have settled : d'.Free (·.scopeId = id) := by
          intro c mem own
          rcases List.mem_append.mp (quieter.pending c mem) with old | new
          · exact free c old own
          · refine quiet.2 c mem ?_
            rw [List.mem_singleton.mp new]
            exact .refl _
        exact ⟨⟨served.trans quieter.served, ⟨inv.graph, fun c mem own => absurd own (settled c mem),
          nofun⟩, by simp, .inl ⟨rfl, rfl⟩, fun flies => absurd flies flying,
          fun same => absurd (quieter.log.symm.trans same) grown⟩, rfl, nofun⟩
      | none =>
        dsimp only
        rw [ends_bind, ends_modify, ends_bind]
        have replays (event : CudaEvent)
            (covers : answers.record = none → event = ⟨(d.log ++ [exec.replay d.log.length]).length⟩) :
            Replays id exec d (⟨.ok (exec.launches + 1), some (exec.launches + 1), none,
              { exec with
                launches := exec.launches + 1
                completionEvent := event
                inFlight := true
                recordError := answers.record
                pollError := none }⟩ : GraphOutcome (Except GraphError Nat))
              ((d.launch (exec.replay d.log.length)).record exec.completionEvent exec.stream) := by
          refine ⟨⟨served.pending, served.single, served.releases⟩,
            ⟨inv.graph, fun c mem own => ⟨rfl, ?_⟩, fun _ => healthy⟩, by simp, .inr ⟨rfl, rfl⟩,
            fun flies => absurd flies flying, fun same => absurd same grown⟩
          rcases List.mem_append.mp mem with old | new
          · exact absurd own (free c old)
          · rw [List.mem_singleton.mp new]
            refine ⟨.refl _, fun recorded => ?_⟩
            rw [covers recorded, List.length_append]
            exact Nat.lt_succ_self _
        cases recorded : answers.record with
        | none =>
          rw [recorded] at replays
          exact ⟨replays _ fun _ => rfl, rfl, rfl, rfl, grown⟩
        | some error =>
          rw [recorded] at replays
          exact ⟨replays _ nofun, rfl, rfl, rfl, grown⟩
  · exact refuse _

/-- A launch, settled at once. -/
theorem Replays.settle {α β : Type} {launched : GraphOutcome α} {outcome : GraphOutcome β}
    {d₁ d₂ : Device} {index : Nat} (replays : Replays id exec d launched d₁)
    (accepted : launched.launched = some index) (clean : launched.failure = none)
    (grown : d₁.log ≠ d.log) (settles : Settles id launched.exec d₁ outcome d₂)
    (poisoned : outcome.exec.poisoned = true ↔
      launched.exec.poisoned = true ∨ outcome.failure.isSome) {γ : Type} (result : γ) :
    Replays id exec d ⟨result, some index, outcome.failure, outcome.exec⟩ d₂ := by
  obtain ⟨index_eq, launches⟩ : index = exec.launches + 1 ∧
      launched.exec.launches = exec.launches + 1 := by
    rcases replays.launches with ⟨none, -⟩ | ⟨some, launches⟩
    · rw [none] at accepted
      cases accepted
    · exact ⟨Option.some.inj (accepted.symm.trans some), launches⟩
  refine ⟨replays.served.trans settles.served, settles.inv replays.inv.graph, ?_, .inr ⟨?_, ?_⟩,
    fun flies => ?_, fun same => ?_⟩
  · rw [poisoned, replays.poisoned, clean]
    simp
  · rw [index_eq]
  · rw [settles.launches, launches]
  · rw [replays.refused flies] at launches
    omega
  · exact absurd (settles.log.symm.trans same) grown

theorem GraphExec.measureLaunchMs_ends (inv : ExecInv d id exec) (start stop : TimingEvent)
    (answers : MeasureAnswers) :
    Ends (exec.measureLaunchMs start stop answers) d
      (fun outcome d' => Replays id exec d outcome d' ∧
        (outcome.exec.inFlight = true → exec.inFlight = true))
      (fun _ d' => Served id d d') := by
  unfold GraphExec.measureLaunchMs
  split_ifs with foreign
  · exact ⟨.refuse inv _, fun flies => flies⟩
  · cases answers.start with
    | some error => exact ⟨.refuse inv _, fun flies => flies⟩
    | none =>
      dsimp only
      rw [ends_bind]
      refine (exec.launch_ends inv answers.launch).mono ?_ fun _ _ served => served
      rintro ⟨result, accepted, failure, exec'⟩ d₁ ⟨replays, told⟩
      cases result with
      | error error => exact ⟨replays, told.2⟩
      | ok index =>
        obtain ⟨accepted, clean, -, grown⟩ := told
        cases answers.stop with
        | some error =>
          dsimp only
          rw [ends_bind]
          refine (exec'.dropCompletion_ends replays.inv answers.sync).mono ?_
            fun _ d' same => same ▸ replays.served
          rintro dropped d₂ ⟨settles, poisoned⟩
          refine ⟨replays.settle accepted clean grown settles poisoned _, fun flies => ?_⟩
          rw [settles.idle] at flies
          cases flies
        | none =>
          dsimp only
          rw [ends_bind]
          refine (exec'.wait_ends replays.inv answers.sync).mono ?_
            fun _ d' same => same ▸ replays.served
          rintro ⟨waited, launched, late, exec''⟩ d₂ ⟨settles, poisoned⟩
          have settled (result : Except GraphError Nat) :
              Replays id exec d ⟨result, some index, late, exec''⟩ d₂ ∧
                (exec''.inFlight = true → exec.inFlight = true) := by
            refine ⟨replays.settle accepted clean grown settles poisoned result, fun flies => ?_⟩
            exact absurd (settles.idle.symm.trans flies) nofun
          cases waited with
          | error error => exact settled _
          | ok _ =>
            cases answers.elapsed with
            | error error => exact settled _
            | ok elapsed => exact settled _

/-! ## The end of a graph -/

theorem destroyHandle_ends (part : GraphPart) (answers : DestroyAnswers) :
    Ends (destroyHandle id part answers) d (fun _ d' => d' = d.release (.graph id part))
      (fun _ d' => d' = d) := by
  unfold destroyHandle
  split
  · exact rfl
  · exact rfl

/-- Parts of a graph without pending replays, released one after the other. -/
theorem Served.releases_parts (free : d.Free (·.scopeId = id)) (parts : List GraphPart) :
    Served id d (parts.foldl (fun d part => d.release (.graph id part)) d) := by
  induction parts generalizing d with
  | nil => exact .refl id d
  | cons part parts ih =>
    have first : Served id d (d.release (.graph id part)) := .release free part
    exact first.trans (ih free)

/-- What a destructor leaves behind: nothing of the graph is pending. -/
theorem GraphExec.teardown_ends (exec : GraphExec) (graph : exec.graph.scopeId = id)
    (free : d.Free (·.scopeId = id)) (answers : TeardownAnswers) :
    Ends (exec.teardown answers) d (fun _ d' => Served id d d' ∧ d'.Free (·.scopeId = id))
      (fun _ d' => Served id d d') := by
  subst graph
  rw [GraphExec.teardown, ends_bind]
  refine (destroyHandle_ends .executable answers.executable).mono ?_ fun _ d' same => same ▸ .refl _ d'
  rintro _ _ rfl
  rw [ends_bind]
  refine (destroyHandle_ends .graph answers.graph).mono ?_
    fun _ d' same => same ▸ .releases_parts free [.executable]
  rintro _ _ rfl
  exact ⟨.releases_parts free [.executable, .graph, .resources, .bindings], free⟩

theorem GraphExec.intoBindings_ends (inv : ExecInv d id exec) (answers : TeardownAnswers) :
    Ends (exec.intoBindings answers) d (fun _ d' => Served id d d' ∧ d'.Free (·.scopeId = id))
      (fun _ d' => Served id d d') := by
  rw [GraphExec.intoBindings, ends_bind]
  refine (exec.settleInFlight_ends inv answers.sync).mono ?_ fun _ d' same => same ▸ .refl id d
  rintro settled d₁ ⟨settles, -⟩
  rw [ends_bind]
  have graph : settled.exec.graph.scopeId = id := by rw [settles.graph, inv.graph]
  refine (settled.exec.teardown_ends graph settles.free answers).mono (fun _ d' ended => ?_)
    fun _ d' served => settles.served.trans served
  have ended : Served id d d' ∧ d'.Free (·.scopeId = id) :=
    ⟨settles.served.trans ended.1, ended.2⟩
  cases settled.failure <;> exact ended

theorem GraphExec.drop_ends (inv : ExecInv d id exec) (answers : TeardownAnswers) :
    Ends (exec.drop answers) d (fun _ d' => Served id d d' ∧ d'.Free (·.scopeId = id))
      (fun _ d' => Served id d d') := by
  rw [GraphExec.drop, ends_bind]
  refine (exec.settleInFlight_ends inv answers.sync).mono ?_ fun _ d' same => same ▸ .refl id d
  rintro settled d₁ ⟨settles, -⟩
  have graph : settled.exec.graph.scopeId = id := by rw [settles.graph, inv.graph]
  exact (settled.exec.teardown_ends graph settles.free answers).mono
    (fun _ d' ended => ⟨settles.served.trans ended.1, ended.2⟩)
    fun _ d' served => settles.served.trans served

theorem CapturedGraph.drop_ends (captured : CapturedGraph) (graph : captured.graph.scopeId = id)
    (free : d.Free (·.scopeId = id)) (answers : DestroyAnswers) :
    Ends (captured.drop answers) d (fun _ d' => Served id d d' ∧ d'.Free (·.scopeId = id))
      (fun _ d' => Served id d d') := by
  subst graph
  rw [CapturedGraph.drop, ends_bind]
  refine (destroyHandle_ends .graph answers).mono ?_ fun _ d' same => same ▸ .refl _ d'
  rintro _ _ rfl
  exact ⟨.releases_parts free [.graph, .resources, .bindings], free⟩

/-- A captured graph that is not instantiated is dropped. -/
theorem CapturedGraph.instantiate_ends (captured : CapturedGraph)
    (graph : captured.graph.scopeId = id) (free : d.Free (·.scopeId = id))
    (answers : InstantiateAnswers) :
    Ends (captured.instantiate answers) d
      (fun result d' => Served id d d' ∧ d'.Free (·.scopeId = id) ∧
        ∀ exec, result = .ok exec → exec.graph.scopeId = id ∧ exec.inFlight = false ∧
          exec.poisoned = false ∧ exec.launches = 0)
      (fun _ d' => Served id d d') := by
  have dropped (error : GraphError) :
      Ends (do
        captured.drop answers.graph
        return .error error : Proc (Except GraphError GraphExec)) d
        (fun result d' => Served id d d' ∧ d'.Free (·.scopeId = id) ∧
          ∀ exec, result = .ok exec → exec.graph.scopeId = id ∧ exec.inFlight = false ∧
            exec.poisoned = false ∧ exec.launches = 0)
        (fun _ d' => Served id d d') := by
    rw [ends_bind]
    exact (captured.drop_ends graph free answers.graph).mono
      (fun _ d' ended => ⟨ended.1, ended.2, nofun⟩) fun _ _ served => served
  unfold CapturedGraph.instantiate
  cases answers.event with
  | some error => exact dropped _
  | none =>
    cases answers.rawExec with
    | error error => exact dropped error
    | ok _ =>
      refine ⟨.refl id d, free, ?_⟩
      rintro exec ⟨⟩
      exact ⟨graph, rfl, rfl, rfl⟩

end Operations

end LoomKernels
