import LoomKernels.Graph.Recording

/-!
# What a captured graph owns

A capture ends what it began, exactly once, and its assertion never fails. What it owns depends on the
scope behind the `&mut` when the closure returns: a graph owns exactly what it recorded if and only if
that is the scope with which the capture began (`capture_owns`). Every other outcome destroys the raw
graph and then releases what the scope in place retains, whichever scope it is.

The closure can leave another scope there. The graph is then built from the bindings, the resources
and the stream of that scope, whose commands were not recorded and are still running
(`capture_exchanged`).
-/

namespace LoomKernels

/-! ## What is owned -/

/-- The graph consists of commands of `queue`, and holds the stream, the bindings, the resources and the
number of exactly these commands. No other command that uses them is pending: a resource is what one
command retained, not the kernel behind it, which the resources of other commands may share. -/
structure CapturedGraph.Owns (captured : CapturedGraph) (queue : CommandQueue)
    (bindings : CheckedBindings) (d : Device) : Prop where
  nonempty : captured.graph.nodes ≠ []
  queueId : ∀ c ∈ captured.graph.nodes, c.queueId = queue.id
  stream : captured.stream = queue.stream ∧ ∀ c ∈ captured.graph.nodes, c.stream = captured.stream
  bindings : captured.bindings = bindings ∧
    ∀ c ∈ captured.graph.nodes, c.setId = captured.bindings.setId
  resources : captured.resources = captured.graph.nodes.map (·.resource)
  commands : captured.commands = captured.graph.nodes.length
  outside : ∀ c ∈ d.pending, c ∉ captured.graph.nodes →
    c.queueId ≠ queue.id ∧ c.setId ≠ captured.bindings.setId

/-- What was released so far, in order. -/
def Device.released (d : Device) : List Released := d.releases.map (·.what)

/-- The capture has ended with a graph. -/
def CaptureAnswers.GivesGraph (answers : CaptureAnswers) : Prop :=
  answers.ended = none ∧ answers.null = false

instance (answers : CaptureAnswers) : Decidable answers.GivesGraph := inferInstanceAs (Decidable (_ ∧ _))

/-- What the destructor of a queue releases: the resources that a leaked scope left behind. -/
def QueueWorld.leftBehind (w : QueueWorld) (id : Nat) : List Released :=
  match w.slots id with
  | .idle queue => if queue.retainedResources = [] then [] else [.resources id]
  | _ => []

/-- What the scope in place held when the closure ended was released afterwards, behind the raw graph if
the capture gave one. This is the scope `begun` with the bindings `set`, unless another one is in place;
in that case the graph queue may still have had resources of the scope that was begun. -/
def Discarded (graphQueue set begun : Nat) (answers : CaptureAnswers) (closure s : CaptureState) :
    Prop :=
  ∃ scope, closure.world.slots closure.place = .scope scope ∧
    (closure.place = graphQueue → scope.scopeId = begun ∧ scope.bindings.setId = set) ∧
    s.world.device.released = closure.world.device.released ++
      (if answers.GivesGraph then [.graph begun .graph] else []) ++
        [.resources closure.place, .bindings scope.bindings.setId] ++
          closure.world.leftBehind graphQueue

/-- The state in which the closure is called. -/
def recordStart (w : QueueWorld) (graphQueue set : Nat) (queue : CommandQueue) : CaptureState where
  world := QueueWorld.step { w with device := w.device.settle queue.stream.context.covers }
    (.begin graphQueue set)
  place := graphQueue
  begun := 1
  ended := 0

/-- The state in which the closure ends. -/
def recordEnd (w : QueueWorld) (graphQueue set : Nat) (queue : CommandQueue)
    (actions : List RecordAction) : CaptureState :=
  run (CaptureState.record graphQueue queue.stream) (recordStart w graphQueue set queue) actions

/-! ## The steps of a capture -/

section Steps

variable {s : CaptureState} {id : Nat} {scope : CommandScope}

theorem act_ends {action : QueueAction} {Q : Unit → CaptureState → Prop}
    (done : (s.world.step action).aborted = false → Q () { s with world := s.world.step action }) :
    Ends (act action) s Q fun stop _ => stop = .abort := by
  unfold act
  rw [ends_bind, ends_modify, ends_bind, ends_get]
  dsimp only
  split_ifs with aborted
  · exact rfl
  · exact done (by simpa using aborted)

theorem onDevice_ends {α : Type} {proc : Proc α} {Q : α → CaptureState → Prop}
    (ends : Ends proc s.world.device
      (fun a device => Q a { s with world := { s.world with device } }) fun _ _ => True) :
    Ends (onDevice proc) s Q fun stop _ => stop = .abort := by
  unfold Ends at ends ⊢
  unfold onDevice
  cases result : proc s.world.device with
  | ok a d' =>
    rw [result] at ends
    exact ends
  | error _ _ => exact rfl

/-- The begin of a scope, when the process lives on. -/
theorem QueueWorld.step_begin {w : QueueWorld} {set : Nat} {queue : CommandQueue}
    {bindings : CheckedBindings} (found : w.slots id = .idle queue) (given : w.hand set = some bindings)
    (begun : queue.begin bindings w.nextId = (.ok scope, w.nextId + 1))
    (lives : (w.step (.begin id set)).aborted = false) :
    (w.step (.begin id set)).slots = Function.update w.slots id (.scope scope) := by
  unfold QueueWorld.step at lives ⊢
  split at lives
  · rename_i aborted
    rw [aborted] at lives
    cases lives
  · rename_i running
    simp only [if_neg running, found, given, QueueWorld.begin, begun]

/-- The destructor of a scope, when the process lives on. -/
theorem QueueWorld.step_dropScope {w : QueueWorld} (found : w.slots id = .scope scope)
    {answers : SyncAnswers} (lives : (w.step (.dropScope id answers)).aborted = false) :
    ∃ queue, (w.step (.dropScope id answers)).slots = Function.update w.slots id (.idle queue) ∧
      queue.id = scope.queue.id ∧ queue.retainedResources = [] ∧
      (w.step (.dropScope id answers)).device.released =
        w.device.released ++ [.resources scope.queue.id, .bindings scope.bindings.setId] := by
  unfold QueueWorld.step at lives ⊢
  split at lives
  · rename_i aborted
    rw [aborted] at lives
    cases lives
  · rename_i running
    rw [if_neg running]
    simp only [found] at lives ⊢
    have ends := scope.drop_ends answers w.device
    unfold QueueWorld.dropScope QueueWorld.proceed at lives ⊢
    unfold Ends at ends
    cases result : scope.drop answers w.device with
    | error _ d' =>
      rw [result] at lives
      cases lives
    | ok a d' =>
      obtain ⟨error, queue⟩ := a
      rw [result] at ends
      obtain ⟨d₁, quieter, -, rfl, same⟩ := ends
      obtain rfl : queue = scope.after error := same
      refine ⟨_, rfl, rfl, rfl, ?_⟩
      · simp [Device.released, Device.releaseBoth, Device.release, quieter.releases]

theorem CommandQueue.drop_released (queue : CommandQueue) (answers : SyncAnswers) (d : Device) :
    Ends (queue.drop answers) d
      (fun _ d' => d'.released = d.released ++
        if queue.retainedResources = [] then [] else [.resources queue.id]) fun _ _ => True := by
  unfold CommandQueue.drop
  split_ifs with empty
  · exact (List.append_nil _).symm
  · rw [ends_bind]
    refine (synchronizeStreamOrAbort_ends queue.stream answers d).mono (fun _ d₁ quiet => ?_)
      fun _ _ _ => trivial
    rw [ends_modify]
    simp only [Device.released, Device.release, quiet.1.releases, List.map_append, List.map_cons,
      List.map_nil]

/-- The destructor of a queue, when the process lives on. -/
theorem QueueWorld.step_dropQueue {w : QueueWorld} {answers : SyncAnswers}
    (own : ∀ queue, w.slots id = .idle queue → queue.id = id)
    (lives : (w.step (.dropQueue id answers)).aborted = false) :
    (w.step (.dropQueue id answers)).device.released = w.device.released ++ w.leftBehind id := by
  unfold QueueWorld.leftBehind
  unfold QueueWorld.step at lives ⊢
  split at lives
  · rename_i aborted
    rw [aborted] at lives
    cases lives
  · rename_i running
    rw [if_neg running]
    cases found : w.slots id with
    | idle queue =>
      simp only [found] at lives ⊢
      unfold QueueWorld.dropQueue QueueWorld.proceed at lives ⊢
      have ends := queue.drop_released answers w.device
      unfold Ends at ends
      cases result : queue.drop answers w.device with
      | error _ d' =>
        rw [result] at lives
        cases lives
      | ok _ d' =>
        rw [result, own queue found] at ends
        exact ends
    | gone | scope _ | completion _ =>
      simp only [found]
      exact (List.append_nil _).symm

/-- A scope that was dropped leaves nothing behind. -/
theorem QueueWorld.leftBehind_dropped {w w' : QueueWorld} {place : Nat} {queue : CommandQueue}
    (found : w.slots place = .scope scope)
    (slots : w'.slots = Function.update w.slots place (.idle queue))
    (empty : queue.retainedResources = []) (id : Nat) : w'.leftBehind id = w.leftBehind id := by
  unfold leftBehind
  rw [slots]
  rcases eq_or_ne id place with rfl | ne
  · rw [Function.update_self, found]
    exact if_pos empty
  · rw [Function.update_of_ne ne]

theorem QueueWorld.step_dropQueue_pending {w : QueueWorld} {answers : SyncAnswers} :
    ∀ c ∈ (w.step (.dropQueue id answers)).device.pending, c ∈ w.device.pending := by
  unfold QueueWorld.step
  split
  · exact fun _ mem => mem
  · dsimp only
    split
    · rename_i queue _
      have ends := queue.drop_ends answers w.device
      unfold QueueWorld.dropQueue QueueWorld.proceed
      unfold Ends at ends
      cases result : queue.drop answers w.device with
      | error _ d' =>
        rw [result] at ends
        obtain rfl : d' = w.device := ends
        exact fun _ mem => mem
      | ok _ d' =>
        rw [result] at ends
        rcases ends with rfl | ⟨d₁, quieter, -, rfl⟩
        · exact fun _ mem => mem
        · exact quieter.pending
    · exact fun _ mem => mem

/-- The scope in place is dropped, after the graph. -/
structure Dropped (s s' : CaptureState) (scope : CommandScope) (graph : Option RawGraph) : Prop where
  begun : s'.begun = s.begun
  ended : s'.ended = s.ended
  slot : ∃ queue, s'.world.slots = Function.update s.world.slots s.place (.idle queue) ∧
    queue.id = scope.queue.id ∧ queue.retainedResources = []
  released : s'.world.device.released = s.world.device.released ++
    graph.toList.map (fun graph => .graph graph.scopeId .graph) ++
      [.resources scope.queue.id, .bindings scope.bindings.setId]

/-- The destructor of a raw graph. -/
theorem RawGraph.drop_ends (graph : RawGraph) (answers : DestroyAnswers) (d : Device) :
    Ends (graph.drop answers) d (fun _ d' => d' = d.release (.graph graph.scopeId .graph))
      fun _ _ => True := by
  unfold RawGraph.drop destroyHandle
  split
  · exact rfl
  · exact trivial

theorem dropCommands_ends (graph : Option RawGraph) (found : s.world.slots s.place = .scope scope)
    (answers : CaptureAnswers) :
    Ends (dropCommands graph answers) s (fun _ s' => Dropped s s' scope graph)
      (fun stop _ => stop = .abort) := by
  have last (s' : CaptureState) (place : s'.place = s.place)
      (slots : s'.world.slots = s.world.slots) (begun : s'.begun = s.begun)
      (ended : s'.ended = s.ended)
      (released : s'.world.device.released = s.world.device.released ++
        graph.toList.map (fun graph => .graph graph.scopeId .graph)) :
      Ends (do act (.dropScope (← get).place answers.scope)) s'
        (fun _ s'' => Dropped s s'' scope graph) (fun stop _ => stop = .abort) := by
    rw [ends_bind, ends_get]
    refine act_ends fun lives => ?_
    have live : s'.world.slots s'.place = .scope scope := by rw [slots, place, found]
    obtain ⟨queue, after, same, empty, order⟩ := QueueWorld.step_dropScope live lives
    exact ⟨begun, ended, ⟨queue, by rw [after, place, slots], same, empty⟩, by rw [order, released]⟩
  cases graph with
  | none => exact last s rfl rfl rfl rfl (by simp)
  | some graph =>
    unfold dropCommands
    rw [ends_bind]
    refine onDevice_ends ((graph.drop_ends answers.graph s.world.device).mono (fun _ d' same => ?_)
      fun _ _ _ => trivial)
    subst same
    exact last _ rfl rfl rfl rfl (by simp [Device.released, Device.release])

theorem discard_ends {E : Type} (graph : Option RawGraph)
    (found : s.world.slots s.place = .scope scope) (answers : CaptureAnswers)
    (error : CaptureError E) :
    Ends (discard graph answers error) s
      (fun result s' => result = .error error ∧ Dropped s s' scope graph)
      (fun stop _ => stop = .abort) := by
  unfold discard
  rw [ends_bind]
  exact (dropCommands_ends graph found answers).mono (fun _ _ dropped => ⟨rfl, dropped⟩) fun _ _ h => h

/-- The end of a capture takes what was recorded. -/
theorem endCapture_ends (stream : CudaStream) (scopeId start : Nat) (answers : CaptureAnswers) :
    Ends (endCapture stream scopeId start answers) s
      (fun result s' => s' = { s with
          world := { s.world with
            device := s.world.device.settle fun c => stream.covers c && decide (start ≤ c.serial) }
          ended := s.ended + 1 } ∧
        if answers.GivesGraph then
          result = .ok ⟨scopeId, recorded stream start s.world.device.log⟩
        else ∃ error, result = .error error)
      (fun stop _ => stop = .abort) := by
  obtain ⟨readiness, bindBegin, begin, bindEnd, ended, null, capturing, graph, scope, queue⟩ := answers
  cases bindEnd with
  | some error => exact rfl
  | none =>
    cases ended with
    | none =>
      cases null with
      | true => exact ⟨rfl, .captureInvalidated, rfl⟩
      | false => exact ⟨rfl, rfl⟩
    | some error =>
      cases capturing with
      | true => exact rfl
      | false => exact ⟨rfl, .driver "capture end" error, rfl⟩

theorem finishGraph_ends {E : Type} (graph : RawGraph)
    (found : s.world.slots s.place = .scope scope) (answers : CaptureAnswers) :
    Ends (finishGraph (E := E) graph answers) s
      (fun result s' =>
        match result with
        | .error _ => Dropped s s' scope (some graph)
        | .ok captured => scope.submissionError = none ∧ 0 < scope.submitted ∧
          captured = ⟨graph, scope.queue.stream, scope.bindings, scope.queue.retainedResources,
            scope.submitted⟩ ∧
          s' = { s with world := { s.world with
            slots := Function.update s.world.slots s.place
              (.idle { scope.queue with retainedResources := [] }) } })
      (fun stop _ => stop = .abort) := by
  have here : s.inPlace = some scope := by rw [CaptureState.inPlace, found]
  unfold finishGraph
  rw [ends_bind, ends_get]
  dsimp only
  rw [here]
  dsimp only
  cases healthy : scope.submissionError with
  | some error =>
    refine (discard_ends (some graph) found answers _).mono ?_ fun _ _ h => h
    rintro _ s' ⟨rfl, dropped⟩
    exact dropped
  | none =>
    dsimp only
    split_ifs with empty
    · refine (discard_ends (some graph) found answers _).mono ?_ fun _ _ h => h
      rintro _ s' ⟨rfl, dropped⟩
      exact dropped
    · have some := Nat.pos_of_ne_zero empty
      rw [CommandScope.finishCapture, if_pos ⟨healthy, some⟩]
      exact ⟨rfl, some, rfl, rfl⟩

/-- What a capture releases behind the closure `c` when it gives no graph. -/
def releasedAfter (scopeId : Nat) (answers : CaptureAnswers) (scope : CommandScope) : List Released :=
  (if answers.GivesGraph then [.graph scopeId .graph] else []) ++
    [.resources scope.queue.id, .bindings scope.bindings.setId]

/-- The closure left the state `c` with `scope` in place, and the capture then failed. -/
structure Failed (c s : CaptureState) (scopeId : Nat) (answers : CaptureAnswers)
    (scope : CommandScope) : Prop where
  begun : s.begun = c.begun
  ended : s.ended = c.ended + 1
  slot : ∃ queue, s.world.slots = Function.update c.world.slots c.place (.idle queue) ∧
    queue.id = scope.queue.id ∧ queue.retainedResources = []
  released : s.world.device.released =
    c.world.device.released ++ releasedAfter scopeId answers scope

/-- Then the graph queue is gone. -/
structure Closed (c s : CaptureState) (graphQueue scopeId : Nat) (answers : CaptureAnswers)
    (scope : CommandScope) : Prop where
  begun : s.begun = c.begun
  ended : s.ended = c.ended + 1
  released : s.world.device.released = c.world.device.released ++
    releasedAfter scopeId answers scope ++ c.world.leftBehind graphQueue

/-- The closure left the state `c` with `scope` in place, and the capture gave a graph. -/
structure Taken (c s : CaptureState) (scopeId start : Nat) (stream : CudaStream)
    (scope : CommandScope) (captured : CapturedGraph) : Prop where
  begun : s.begun = c.begun
  ended : s.ended = c.ended + 1
  healthy : scope.submissionError = none
  submitted : 0 < scope.submitted
  captured : captured = ⟨⟨scopeId, recorded stream start c.world.device.log⟩, scope.queue.stream,
    scope.bindings, scope.queue.retainedResources, scope.submitted⟩
  pending : ∀ command ∈ s.world.device.pending, command ∈ c.world.device.pending ∧
    ¬ (stream.covers command ∧ start ≤ command.serial)

variable {c : CaptureState} {graphQueue scopeId start : Nat} {stream : CudaStream}
  {answers : CaptureAnswers}

theorem Failed.dropQueue (failed : Failed c s scopeId answers scope)
    (found : c.world.slots c.place = .scope scope) (inv : QueueInv c.world) :
    Ends (act (.dropQueue graphQueue answers.queue)) s
      (fun _ s' => Closed c s' graphQueue scopeId answers scope) (fun stop _ => stop = .abort) := by
  refine act_ends fun lives => ⟨failed.begun, failed.ended, ?_⟩
  obtain ⟨queue, slots, same, empty⟩ := failed.slot
  have own (queue' : CommandQueue) (idle : s.world.slots graphQueue = .idle queue') :
      queue'.id = graphQueue := by
    rw [slots] at idle
    rcases eq_or_ne graphQueue c.place with rfl | ne
    · rw [Function.update_self] at idle
      obtain rfl := Slot.idle.inj idle
      exact same.trans (inv.id_eq scope.queue (by rw [found]; rfl))
    · rw [Function.update_of_ne ne] at idle
      exact inv.id_eq queue' (by rw [idle]; rfl)
  dsimp only
  rw [QueueWorld.step_dropQueue own lives, failed.released,
    QueueWorld.leftBehind_dropped found slots empty]

theorem Taken.dropQueue {captured : CapturedGraph}
    (taken : Taken c s scopeId start stream scope captured) :
    Ends (act (.dropQueue graphQueue answers.queue)) s
      (fun _ s' => Taken c s' scopeId start stream scope captured) (fun stop _ => stop = .abort) :=
  act_ends fun _ => ⟨taken.begun, taken.ended, taken.healthy, taken.submitted, taken.captured,
    fun command mem => taken.pending command (QueueWorld.step_dropQueue_pending command mem)⟩

theorem recordGraph_ends {E : Type} (recording : Recording E)
    (closure : run (CaptureState.record graphQueue stream) s recording.actions = c)
    (found : c.world.slots c.place = .scope scope) (inv : QueueInv c.world) :
    Ends (recordGraph graphQueue stream scopeId start recording answers) s
      (fun result s' =>
        match result with
        | .error _ => Failed c s' scopeId answers scope
        | .ok captured => recording.ending = .returned (.ok ()) ∧ answers.GivesGraph ∧
          Taken c s' scopeId start stream scope captured)
      (fun stop s' => stop = .abort ∨ stop = .panic ∧ recording.ending = .panicked ∧
        Closed c s' graphQueue scopeId answers scope) := by
  unfold recordGraph
  rw [ends_bind, ends_modify, closure, ends_bind, ends_get]
  dsimp only
  split_ifs with aborted
  · exact .inl rfl
  · rw [ends_bind]
    refine (endCapture_ends stream scopeId start answers).mono ?_ fun _ _ stop => .inl stop
    rintro result e ⟨after, graph⟩
    have live : e.world.slots e.place = .scope scope := by
      rw [after]
      exact found
    have pending : ∀ command ∈ e.world.device.pending, command ∈ c.world.device.pending ∧
        ¬ (stream.covers command ∧ start ≤ command.serial) := by
      rw [after]
      intro command mem
      obtain ⟨mem, kept⟩ := List.mem_filter.mp mem
      refine ⟨mem, fun covered => ?_⟩
      simp [covered.1, covered.2] at kept
    have failed {raw : Option RawGraph} {s' : CaptureState} (dropped : Dropped e s' scope raw)
        (given : raw.toList.map (fun raw => .graph raw.scopeId .graph) =
          if answers.GivesGraph then [Released.graph scopeId .graph] else []) :
        Failed c s' scopeId answers scope := by
      obtain ⟨begun, ended, slot, released⟩ := dropped
      rw [given, List.append_assoc] at released
      rw [after] at begun ended slot released
      exact ⟨begun, ended, slot, released⟩
    -- the raw graph, when there is one
    by_cases gives : answers.GivesGraph
    · rw [if_pos gives] at graph
      have given : [Released.graph scopeId .graph] = if answers.GivesGraph then
          [Released.graph scopeId .graph] else [] := (if_pos gives).symm
      subst graph
      cases ending : recording.ending with
      | panicked =>
        dsimp only
        rw [ends_bind]
        refine (dropCommands_ends _ live answers).mono (fun _ s' dropped => ?_) fun _ _ stop => .inl stop
        rw [ends_bind]
        exact ((failed dropped given).dropQueue found inv).mono
          (fun _ s'' closed => .inr ⟨rfl, rfl, closed⟩) fun _ _ stop => .inl stop
      | returned ended =>
        cases ended with
        | error error =>
          refine (discard_ends _ live answers _).mono ?_ fun _ _ stop => .inl stop
          rintro _ s' ⟨rfl, dropped⟩
          exact failed dropped given
        | ok _ =>
          refine (finishGraph_ends _ live answers).mono (fun result s' finished => ?_)
            fun _ _ stop => .inl stop
          cases result with
          | error error => exact failed finished given
          | ok captured =>
            obtain ⟨healthy, submitted, rfl, rfl⟩ := finished
            rw [after] at pending ⊢
            exact ⟨rfl, gives, rfl, rfl, healthy, submitted, rfl, pending⟩
    · rw [if_neg gives] at graph
      obtain ⟨graphError, rfl⟩ := graph
      have given : [] = if answers.GivesGraph then [Released.graph scopeId .graph] else [] :=
        (if_neg gives).symm
      cases ending : recording.ending with
      | panicked =>
        dsimp only
        rw [ends_bind]
        refine (dropCommands_ends none live answers).mono (fun _ s' dropped => ?_)
          fun _ _ stop => .inl stop
        rw [ends_bind]
        exact ((failed dropped given).dropQueue found inv).mono
          (fun _ s'' closed => .inr ⟨rfl, rfl, closed⟩) fun _ _ stop => .inl stop
      | returned ended =>
        cases ended <;>
        · refine (discard_ends none live answers _).mono ?_ fun _ _ stop => .inl stop
          rintro _ s' ⟨rfl, dropped⟩
          exact failed dropped given

end Steps

/-! ## The whole capture -/

section Whole

variable {w : QueueWorld} {graphQueue set : Nat} {queue : CommandQueue} {bindings : CheckedBindings}

/-- The scope with which a capture begins, while the closure runs. -/
theorem recordEnd_inv (inv : QueueInv w) (found : w.slots graphQueue = .idle queue)
    (hidden : ∀ id ≠ graphQueue, ∀ other, (w.slots id).queue = some other →
      ¬ other.stream.Same queue.stream)
    (empty : queue.retainedResources = []) {scopeId : Nat}
    (slots : (recordStart w graphQueue set queue).world.slots =
      Function.update w.slots graphQueue (.scope ⟨queue, bindings, scopeId, 0, none⟩))
    (actions : List RecordAction) :
    RecordInv graphQueue (recordStart w graphQueue set queue).world.device.log.length
      ⟨queue, bindings, scopeId, 0, none⟩ (recordEnd w graphQueue set queue actions) := by
  have world : QueueInv (recordStart w graphQueue set queue).world :=
    (inv.quieter queue.stream.context.covers).step (.begin graphQueue set)
  have opened : (recordStart w graphQueue set queue).world.slots graphQueue =
      .scope ⟨queue, bindings, scopeId, 0, none⟩ := by
    rw [slots, Function.update_self]
  have start : RecordInv graphQueue (recordStart w graphQueue set queue).world.device.log.length
      ⟨queue, bindings, scopeId, 0, none⟩ (recordStart w graphQueue set queue) := by
    refine ⟨world, ⟨_, opened⟩, fun id ne other mine => ?_, le_rfl, fun scope live => ?_⟩
    · rw [slots, Function.update_of_ne ne] at mine
      exact hidden id ne other mine
    · obtain rfl := Slot.scope.inj (opened.symm.trans live)
      have none : recorded queue.stream (recordStart w graphQueue set queue).world.device.log.length
          (recordStart w graphQueue set queue).world.device.log = [] := by
        rw [recorded, List.drop_length, List.filter_nil]
      refine ⟨rfl, rfl, rfl, ?_, ?_, fun c mem => ?_, fun c mem uses => ?_⟩
      · rw [none, empty]
        rfl
      · rw [none]
        rfl
      · rw [none] at mem
        cases mem
      · exact absurd ((world.live opened).own c mem uses).2 (lt_irrefl 0)
  have queueId : queue.id = graphQueue := (inv.queueId graphQueue queue (by rw [found]; rfl)).1
  exact start.run queueId actions

/-- The closure cannot begin or end a capture. -/
theorem recordEnd_counts (actions : List RecordAction) :
    (recordEnd w graphQueue set queue actions).begun = 1 ∧
      (recordEnd w graphQueue set queue actions).ended = 0 := by
  let Counts : CaptureState → Prop := fun s => s.begun = 1 ∧ s.ended = 0
  have kept (s : CaptureState) (action : RecordAction) :
      Counts s → Counts (s.record graphQueue queue.stream action) := by
    intro counts
    unfold CaptureState.record
    cases action with
    | queue action =>
      dsimp only
      split <;> exact counts
    | exchange id =>
      dsimp only
      split <;> exact counts
  exact run_invariant (show Counts (recordStart w graphQueue set queue) from ⟨rfl, rfl⟩) kept actions

/-- The graph of a capture owns what it recorded exactly when the scope in place is its own. -/
theorem Taken.owns_iff {start : Nat} {first scope : CommandScope} {c s : CaptureState}
    {captured : CapturedGraph}
    (taken : Taken c s first.scopeId start first.queue.stream scope captured)
    (inv : RecordInv graphQueue start first c) (found : c.world.slots c.place = .scope scope) :
    captured.Owns first.queue first.bindings s.world.device ∧ ¬ c.world.Broken graphQueue ↔
      c.place = graphQueue := by
  have graph := taken.captured
  constructor
  · rintro ⟨owns, -⟩
    by_contra ne
    refine inv.hidden c.place ne scope.queue (by rw [found]; rfl) ?_
    have same := owns.stream.1
    rw [graph] at same
    exact same ▸ .refl _
  · intro here
    rw [here] at found
    have own := inv.owner scope found
    have live := inv.world.live found
    have some := taken.submitted
    rw [own.submitted] at some
    refine ⟨⟨?_, ?_, ⟨?_, ?_⟩, ⟨?_, ?_⟩, ?_, ?_, fun command mem _ => ?_⟩, fun broken => ?_⟩
    · rw [graph]
      exact List.ne_nil_of_length_pos some
    · rw [graph]
      exact fun node mem => (own.nodes node mem).2.1
    · rw [graph]
      exact own.stream
    · rw [graph]
      exact fun node mem => (own.nodes node mem).1.trans own.stream.symm
    · rw [graph]
      exact own.bindings
    · rw [graph]
      exact fun node mem => (own.nodes node mem).2.2.trans
        (congrArg CheckedBindings.setId own.bindings).symm
    · rw [graph]
      exact own.resources
    · rw [graph]
      exact own.submitted
    · obtain ⟨mem, kept⟩ := taken.pending command mem
      rw [graph]
      refine ⟨fun uses => kept (own.pending command mem (.inl uses)), fun uses =>
        kept (own.pending command mem (.inr ?_))⟩
      exact uses.trans (congrArg CheckedBindings.setId own.bindings)
    · have poisoned := live.poison.mp broken
      rw [live.failed, taken.healthy] at poisoned
      cases poisoned

/-- What a failed capture has released. -/
theorem Closed.discarded {start : Nat} {first scope : CommandScope} {c s : CaptureState}
    {answers : CaptureAnswers} (closed : Closed c s graphQueue first.scopeId answers scope)
    (inv : RecordInv graphQueue start first c) (setId : first.bindings.setId = set)
    (found : c.world.slots c.place = .scope scope) :
    Discarded graphQueue set first.scopeId answers c s := by
  have same : scope.queue.id = c.place := inv.world.id_eq scope.queue (by rw [found]; rfl)
  refine ⟨scope, found, fun here => ?_, ?_⟩
  · rw [here] at found
    have own := inv.owner scope found
    exact ⟨own.scopeId, by rw [own.bindings, setId]⟩
  · rw [closed.released, releasedAfter, same]
    simp only [List.append_assoc]

/-- The closure was called with the scope `scopeId`, at length `start` of the log, and left `c` with
`scope` in place. -/
structure Ran (c : CaptureState) (graphQueue : Nat) (queue : CommandQueue) (bindings : CheckedBindings)
    (scopeId start : Nat) (scope : CommandScope) : Prop where
  found : c.world.slots c.place = .scope scope
  inv : RecordInv graphQueue start ⟨queue, bindings, scopeId, 0, none⟩ c

theorem captureChecked_ends {E : Type} (inv : QueueInv w) (found : w.slots graphQueue = .idle queue)
    (given : w.hand set = some bindings)
    (hidden : ∀ id ≠ graphQueue, ∀ other, (w.slots id).queue = some other →
      ¬ other.stream.Same queue.stream)
    (recording : Recording E) (answers : CaptureAnswers) {c : CaptureState}
    (closure : recordEnd w graphQueue set queue recording.actions = c) :
    Ends (captureChecked graphQueue set queue bindings recording answers)
      ⟨{ w with device := w.device.settle queue.stream.context.covers }, graphQueue, 0, 0⟩
      (fun result s =>
        (∃ error, result = .error error ∧ s.begun = 0 ∧ s.ended = 0) ∨
        ∃ start scope, Ran c graphQueue queue bindings w.nextId start scope ∧
          match result with
          | .error _ => Failed c s w.nextId answers scope
          | .ok captured => recording.ending = .returned (.ok ()) ∧ answers.GivesGraph ∧
            Taken c s w.nextId start queue.stream scope captured)
      (fun stop s => stop = .abort ∨ stop = .panic ∧ recording.ending = .panicked ∧
        ∃ start scope, Ran c graphQueue queue bindings w.nextId start scope ∧
          Closed c s graphQueue w.nextId answers scope) := by
  unfold captureChecked
  split_ifs with default
  · rw [ends_bind]
    exact (act_ends fun _ => .inl ⟨_, rfl, rfl, rfl⟩).mono (fun _ _ h => h) fun _ _ stop => .inl stop
  · rw [ends_bind, ends_get, ends_bind]
    refine (act_ends fun lives => ?_).mono (fun _ _ h => h) fun _ _ stop => .inl stop
    rw [ends_bind, ends_modify]
    dsimp only
    have world : QueueInv (recordStart w graphQueue set queue).world :=
      (inv.quieter queue.stream.context.covers).step (.begin graphQueue set)
    rcases queue.begin_cases bindings w.nextId with ⟨error, queue', begun, -⟩ | ⟨-, empty, begun⟩
    · rw [begun]
      exact .inl ⟨_, rfl, rfl, rfl⟩
    · rw [begun]
      dsimp only
      have slots : (recordStart w graphQueue set queue).world.slots =
          Function.update w.slots graphQueue (.scope ⟨queue, bindings, w.nextId, 0, none⟩) :=
        QueueWorld.step_begin found given begun lives
      have opened : (recordStart w graphQueue set queue).world.slots graphQueue =
          .scope ⟨queue, bindings, w.nextId, 0, none⟩ := by
        rw [slots, Function.update_self]
      rw [ends_bind]
      have refused (error : GraphError) : Ends (discard none answers (.graph error : CaptureError E))
          ⟨(recordStart w graphQueue set queue).world, graphQueue, 0, 0⟩
          (fun result s => ∃ error, result = .error error ∧ s.begun = 0 ∧ s.ended = 0)
          (fun stop _ => stop = .abort) := by
        refine (discard_ends (s := ⟨_, graphQueue, 0, 0⟩) none opened answers _).mono ?_ fun _ _ h => h
        rintro _ s ⟨rfl, dropped⟩
        exact ⟨_, rfl, dropped.begun, dropped.ended⟩
      unfold beginCapture
      cases answers.bindBegin with
      | some error => exact (refused _).mono (fun _ _ h => .inl h) fun _ _ stop => .inl stop
      | none =>
        cases answers.begin with
        | some error => exact (refused _).mono (fun _ _ h => .inl h) fun _ _ stop => .inl stop
        | none =>
          have inv := recordEnd_inv inv found hidden empty slots recording.actions
          rw [closure] at inv
          obtain ⟨scope, placed⟩ := inv.place
          refine (recordGraph_ends recording closure placed inv.world).mono (fun result s ended =>
            .inr ⟨_, scope, ⟨placed, inv⟩, ended⟩) fun stop s ended =>
            ended.imp_right fun ⟨panic, panicked, closed⟩ =>
              ⟨panic, panicked, _, scope, ⟨placed, inv⟩, closed⟩

theorem readiness_ends {done : Command → Bool} {s : CaptureState}
    {Q : Unit → CaptureState → Prop}
    (h : Q () { s with world := { s.world with device := s.world.device.settle done } }) :
    Ends (onDevice (modify (·.settle done))) s Q fun stop _ => stop = .abort :=
  onDevice_ends h

end Whole

/-- Every capture, from every state of every run of queues, with every closure and every answer of the
driver. A capture that was begun has ended once, and the assertion never fails. A graph is only returned
when the closure returned well and the capture gave a graph, and it then owns what was recorded, without
a failure of the queue, if and only if the scope in place at the end of the closure is the one that the
capture began. Everything else that can happen destroys the raw graph before it releases what the
scope in place held, which is the scope that was begun unless the closure exchanged it. -/
theorem capture_owns {E : Type} (before : List QueueAction) {graphQueue set : Nat}
    {queue : CommandQueue} {bindings : CheckedBindings} (recording : Recording E)
    (answers : CaptureAnswers)
    (found : (run QueueWorld.step .start before).slots graphQueue = .idle queue)
    (given : (run QueueWorld.step .start before).hand set = some bindings)
    (hidden : ∀ id ≠ graphQueue, ∀ other,
      ((run QueueWorld.step .start before).slots id).queue = some other →
        ¬ other.stream.Same queue.stream)
    {closure : CaptureState}
    (ran : recordEnd (run QueueWorld.step .start before) graphQueue set queue recording.actions =
      closure) :
    Ends (capture graphQueue set queue bindings recording answers)
      ⟨run QueueWorld.step .start before, graphQueue, 0, 0⟩
      (fun result s => s.ended = s.begun ∧
        match result with
        | .ok captured => s.begun = 1 ∧ recording.ending = .returned (.ok ()) ∧ answers.GivesGraph ∧
          (captured.Owns queue bindings s.world.device ∧ ¬ closure.world.Broken graphQueue ↔
            closure.place = graphQueue)
        | .error _ => s.begun = 1 →
          Discarded graphQueue set (run QueueWorld.step .start before).nextId answers closure s)
      (fun stop s => stop ≠ .assertion ∧
        (stop = .panic → s.begun = 1 ∧ s.ended = 1 ∧ recording.ending = .panicked ∧
          Discarded graphQueue set (run QueueWorld.step .start before).nextId answers closure s)) := by
  have inv := QueueInv.run before
  have queueId : queue.id = graphQueue := (inv.queueId graphQueue queue (by rw [found]; rfl)).1
  have setId : bindings.setId = set := (inv.hand set bindings given).1
  obtain ⟨begun, notEnded⟩ : closure.begun = 1 ∧ closure.ended = 0 := by
    rw [← ran]
    exact recordEnd_counts recording.actions
  have aborts (stop : CaptureStop) (s : CaptureState) (abort : stop = .abort) : stop ≠ .assertion ∧
      (stop = .panic → s.begun = 1 ∧ s.ended = 1 ∧ recording.ending = .panicked ∧
        Discarded graphQueue set (run QueueWorld.step .start before).nextId answers closure s) := by
    subst abort
    exact ⟨nofun, nofun⟩
  unfold capture
  split_ifs with unready
  · exact aborts _ _ rfl
  · dsimp only
    rw [ends_bind]
    refine (readiness_ends ?_).mono (fun _ _ h => h) aborts
    rw [ends_bind]
    refine (captureChecked_ends inv found given hidden recording answers ran).mono
      (fun result s ended => ?_) fun stop s ended => ?_
    · rw [ends_bind]
      rcases ended with ⟨error, rfl, begun, ended⟩ | ⟨start, scope, opened, ended⟩
      · refine (act_ends fun _ => ?_).mono (fun _ _ h => h) aborts
        exact ⟨ended.trans begun.symm, fun once => absurd (begun.symm.trans once) nofun⟩
      · cases result with
        | error error =>
          refine (Failed.dropQueue ended opened.found opened.inv.world).mono (fun _ s' closed => ?_)
            aborts
          refine ⟨by rw [closed.ended, closed.begun, begun, notEnded], fun _ => ?_⟩
          exact closed.discarded opened.inv setId opened.found
        | ok captured =>
          obtain ⟨returned, gives, taken⟩ := ended
          refine (Taken.dropQueue taken).mono (fun _ s' taken => ?_) aborts
          exact ⟨by rw [taken.ended, taken.begun, begun, notEnded], taken.begun.trans begun, returned,
            gives, taken.owns_iff opened.inv opened.found⟩
    · rcases ended with abort | ⟨rfl, panicked, start, scope, opened, closed⟩
      · exact aborts stop s abort
      · refine ⟨nofun, fun _ => ⟨closed.begun.trans begun, ?_, panicked, ?_⟩⟩
        · rw [closed.ended, notEnded]
        · exact closed.discarded opened.inv setId opened.found

/-- No driver call fails. -/
def allWell : CaptureAnswers where
  readiness := none
  bindBegin := none
  begin := none
  bindEnd := none
  ended := none
  null := false
  capturing := false
  graph := ⟨none, none⟩
  scope := ⟨none, none, none⟩
  queue := ⟨none, none, none⟩

/-- A graph queue and another queue, each with a set of three floats. -/
def twoQueues : List QueueAction :=
  [.newQueue ⟨3, ⟨7, 0⟩⟩ 1 none, .newBindings 1 3, .newQueue ⟨5, ⟨7, 0⟩⟩ 1 none, .newBindings 3 3,
    .bindRead 2 ⟨1, .f32, ⟨7, 0⟩, 1, 4096⟩, .bindRead 2 ⟨2, .f32, ⟨7, 0⟩, 1, 8192⟩,
    .bindReadWrite 2 ⟨3, .f32, ⟨7, 0⟩, 1, 12288⟩, .bindRead 4 ⟨4, .f32, ⟨7, 0⟩, 1, 16384⟩,
    .bindRead 4 ⟨5, .f32, ⟨7, 0⟩, 1, 20480⟩, .bindReadWrite 4 ⟨6, .f32, ⟨7, 0⟩, 1, 24576⟩]

theorem twoQueues_hidden : ∀ id ≠ 1, ∀ other,
    ((run QueueWorld.step .start twoQueues).slots id).queue = some other →
      ¬ other.stream.Same oneCommandQueue.stream := by
  intro id ne other found
  have slots : (run QueueWorld.step .start twoQueues).slots =
      Function.update (Function.update (fun _ => .gone) 1 (.idle oneCommandQueue)) 3
        (.idle ⟨3, ⟨5, ⟨7, 0⟩⟩, ⟨0⟩, [], 1, false, by decide⟩) := rfl
  rw [slots] at found
  rcases eq_or_ne id 3 with rfl | ne'
  · rw [Function.update_self] at found
    cases found
    decide
  · rw [Function.update_of_ne ne', Function.update_of_ne ne] at found
    cases found

/-- The closure records one command. -/
def oneCommand : Recording Unit where
  actions := [.queue (.enqueue 1 (oneFloatRmsNorm 2) noFailures)]
  ending := .returned (.ok ())

theorem capture_owns_oneCommand :
    ∃ captured s,
      capture 1 2 oneCommandQueue threeFloats oneCommand allWell
        ⟨run QueueWorld.step .start twoQueues, 1, 0, 0⟩ = .ok (.ok captured) s ∧
      captured.Owns oneCommandQueue threeFloats s.world.device := by
  obtain ⟨captured, s, captures⟩ : ∃ captured s,
      capture 1 2 oneCommandQueue threeFloats oneCommand allWell
        ⟨run QueueWorld.step .start twoQueues, 1, 0, 0⟩ = .ok (.ok captured) s := ⟨_, _, rfl⟩
  have found : (run QueueWorld.step .start twoQueues).slots 1 = .idle oneCommandQueue := rfl
  have given : (run QueueWorld.step .start twoQueues).hand 2 = some threeFloats := rfl
  have ends := capture_owns twoQueues oneCommand allWell found given twoQueues_hidden rfl
  unfold Ends at ends
  rw [captures] at ends
  exact ⟨captured, s, captures, (ends.2.2.2.2.mpr rfl).1⟩

/-- The closure runs a command of the other queue, leaves the scope of that queue in place and leaks its
own. -/
def exchanging : Recording Unit where
  actions := [.queue (.begin 3 4), .queue (.enqueue 3 (oneFloatRmsNorm 4) noFailures), .exchange 3,
    .queue (.forgetScope 1)]
  ending := .returned (.ok ())

/-- The graph is empty, and it holds the bindings of a command that is running. -/
theorem capture_exchanged :
    ∃ captured s,
      capture 1 2 oneCommandQueue threeFloats exchanging allWell
        ⟨run QueueWorld.step .start twoQueues, 1, 0, 0⟩ = .ok (.ok captured) s ∧
      captured.graph.nodes = [] ∧ captured.commands = 1 ∧
      (∃ c ∈ s.world.device.pending, c ∉ captured.graph.nodes ∧ c.setId = captured.bindings.setId) ∧
      ¬ captured.Owns oneCommandQueue threeFloats s.world.device :=
  ⟨_, _, rfl, rfl, rfl, ⟨_, List.mem_cons_self, List.not_mem_nil, rfl⟩,
    fun owns => absurd owns.nonempty (not_not.mpr rfl)⟩

end LoomKernels
