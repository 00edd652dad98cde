import LoomKernels.Graph.Settlement

/-!
# Runs of graph executables

Any number of captured graphs, which are instantiated, replayed, measured, taken apart and dropped, in any
order, while every driver call may fail and completions are waited for, dropped or leaked. A captured
graph is any value, so that the runs include whatever a capture can return.

The slot of a graph holds it as it is captured, as an executable, or as an executable that a completion
borrows. `accepted`, `failed` and `leaked` tell which launch indices were handed out, which settlements
failed and which completions were leaked.
-/

namespace LoomKernels

/-! ## States and actions -/

inductive GraphSlot where
  | gone
  | captured (captured : CapturedGraph)
  | executable (exec : GraphExec)
  | replaying (exec : GraphExec) (launchIndex : Nat)

/-- `slots` is indexed by the captured scopes. -/
structure ReplayWorld where
  nextId : Nat
  device : Device
  slots : Nat → GraphSlot
  accepted : List (Nat × Nat)
  failed : List Nat
  leaked : List Nat
  aborted : Bool

inductive ReplayAction where
  | capture (captured : CapturedGraph)
  | dropCaptured (graph : Nat) (answers : DestroyAnswers)
  | instantiate (graph : Nat) (answers : InstantiateAnswers)
  | launch (graph : Nat) (answers : LaunchAnswers)
  | measure (graph : Nat) (start stop : TimingEvent) (answers : MeasureAnswers)
  | isComplete (graph : Nat) (query : Except DriverError Bool)
  | wait (graph : Nat) (answers : SyncAnswers)
  | dropCompletion (graph : Nat) (answers : SyncAnswers)
  | forgetCompletion (graph : Nat)
  | intoBindings (graph : Nat) (answers : TeardownAnswers)
  | drop (graph : Nat) (answers : TeardownAnswers)

namespace ReplayWorld

def start : ReplayWorld := ⟨1, ⟨[], [], [], []⟩, fun _ => .gone, [], [], [], false⟩

variable (w : ReplayWorld)

/-- An operation on the device that may abort. -/
def proceed {α : Type} (proc : Proc α) (next : ReplayWorld → α → ReplayWorld) : ReplayWorld :=
  match proc w.device with
  | .ok a device => next { w with device } a
  | .error _ device => { w with device, aborted := true }

/-- What an operation tells of itself. -/
def report {α : Type} (id : Nat) (outcome : GraphOutcome α) (slot : GraphSlot) : ReplayWorld :=
  { w with
    slots := Function.update w.slots id slot
    accepted := w.accepted ++ outcome.launched.toList.map fun index => (id, index)
    failed := w.failed ++ if outcome.failure.isSome then [id] else [] }

def put (id : Nat) (slot : GraphSlot) : ReplayWorld :=
  { w with slots := Function.update w.slots id slot }

/-- The graphs of a process have different scopes. -/
def capture (captured : CapturedGraph) : ReplayWorld :=
  { w with
    nextId := w.nextId + 1
    slots := Function.update w.slots w.nextId
      (.captured { captured with graph := { captured.graph with scopeId := w.nextId } }) }

/-- One action of the caller; an action on what is not there changes nothing. -/
def step (w : ReplayWorld) (action : ReplayAction) : ReplayWorld :=
  if w.aborted then w
  else
    match action with
    | .capture captured => w.capture captured
    | .dropCaptured id answers =>
      match w.slots id with
      | .captured captured => w.proceed (captured.drop answers) fun w _ => w.put id .gone
      | _ => w
    | .instantiate id answers =>
      match w.slots id with
      | .captured captured => w.proceed (captured.instantiate answers) fun w result =>
        match result with
        | .ok exec => w.put id (.executable exec)
        | .error _ => w.put id .gone
      | _ => w
    | .launch id answers =>
      match w.slots id with
      | .executable exec => w.proceed (exec.launch answers) fun w outcome =>
        match outcome.result with
        | .ok index => w.report id outcome (.replaying outcome.exec index)
        | .error _ => w.report id outcome (.executable outcome.exec)
      | _ => w
    | .measure id start stop answers =>
      match w.slots id with
      | .executable exec => w.proceed (exec.measureLaunchMs start stop answers) fun w outcome =>
        w.report id outcome (.executable outcome.exec)
      | _ => w
    | .isComplete id query =>
      match w.slots id with
      | .replaying exec index => w.proceed (exec.isComplete query) fun w (_, exec) =>
        w.put id (.replaying exec index)
      | _ => w
    | .wait id answers =>
      match w.slots id with
      | .replaying exec _ => w.proceed (exec.wait answers) fun w outcome =>
        w.report id outcome (.executable outcome.exec)
      | _ => w
    | .dropCompletion id answers =>
      match w.slots id with
      | .replaying exec _ => w.proceed (exec.dropCompletion answers) fun w outcome =>
        w.report id outcome (.executable outcome.exec)
      | _ => w
    | .forgetCompletion id =>
      match w.slots id with
      | .replaying exec _ => { w.put id (.executable exec) with leaked := w.leaked ++ [id] }
      | _ => w
    | .intoBindings id answers =>
      match w.slots id with
      | .executable exec => w.proceed (exec.intoBindings answers) fun w _ => w.put id .gone
      | _ => w
    | .drop id answers =>
      match w.slots id with
      | .executable exec => w.proceed (exec.drop answers) fun w _ => w.put id .gone
      | _ => w

/-- The launch indices that were handed out for a graph, in order. -/
def acceptedOf (id : Nat) : List Nat := (w.accepted.filter (·.1 = id)).map (·.2)

end ReplayWorld

/-! ## Invariant -/

/-- The slot of a graph: `failed` and `leaked` tell whether a settlement of it failed and whether a
completion of it was leaked. -/
def GraphSlot.Inv (d : Device) (id : Nat) (failed leaked : Prop) (accepted : List Nat) :
    GraphSlot → Prop
  | .gone => d.Free (·.scopeId = id)
  | .captured recorded => recorded.graph.scopeId = id ∧ d.Free (·.scopeId = id) ∧ ¬ failed ∧
    ¬ leaked ∧ accepted = []
  | .executable exec => ExecInv d id exec ∧ (exec.poisoned = true ↔ failed) ∧
    (exec.inFlight = true ↔ leaked) ∧ accepted = List.range' 1 exec.launches
  | .replaying exec index => ExecInv d id exec ∧ (exec.poisoned = true ↔ failed) ∧
    exec.inFlight = true ∧ ¬ leaked ∧ index = exec.launches ∧ accepted = List.range' 1 exec.launches

/-- What is said of the slots holds as long as the process lives. -/
structure ReplayInv (w : ReplayWorld) : Prop where
  single : w.device.Single
  releases : ∀ release ∈ w.device.releases, release.Safe
  drawn : ∀ c ∈ w.device.pending, c.scopeId < w.nextId
  fresh : ∀ id, w.nextId ≤ id →
    w.slots id = .gone ∧ id ∉ w.failed ∧ id ∉ w.leaked ∧ w.acceptedOf id = []
  slots : w.aborted = false → ∀ id,
    (w.slots id).Inv w.device id (id ∈ w.failed) (id ∈ w.leaked) (w.acceptedOf id)

section World

variable {w w' : ReplayWorld} {id : Nat} {slot : GraphSlot}

/-- An operation on one graph changes nothing for the others. -/
theorem GraphSlot.Inv.frame {d d' : Device} {id' : Nat} {failed leaked : Prop} {accepted : List Nat}
    (inv : slot.Inv d id' failed leaked accepted) (served : Served id d d') (ne : id' ≠ id) :
    slot.Inv d' id' failed leaked accepted := by
  have old : ∀ c ∈ d'.pending, c.scopeId = id' → c ∈ d.pending := by
    intro c mem own
    exact (served.pending c mem).resolve_right fun same => ne (own.symm.trans same)
  have free (h : d.Free (·.scopeId = id')) : d'.Free (·.scopeId = id') :=
    fun c mem own => h c (old c mem own) own
  have exec {exec : GraphExec} (h : ExecInv d id' exec) : ExecInv d' id' exec :=
    ⟨h.graph, fun c mem own => h.own c (old c mem own) own, h.healthy⟩
  cases slot with
  | gone => exact free inv
  | captured _ => exact ⟨inv.1, free inv.2.1, inv.2.2⟩
  | executable _ => exact ⟨exec inv.1, inv.2⟩
  | replaying _ _ => exact ⟨exec inv.1, inv.2⟩

theorem ReplayInv.drawn_of (inv : ReplayInv w) (id : Nat) (here : w.slots id ≠ .gone) : id < w.nextId := by
  by_contra later
  exact here (inv.fresh id (not_lt.mp later)).1

/-- What is left to show of an action on one graph is about its slot. -/
theorem ReplayInv.focus (inv : ReplayInv w) (live : w.aborted = false) (lt : id < w.nextId)
    (nextId : w'.nextId = w.nextId) (slots : w'.slots = Function.update w.slots id slot)
    (served : Served id w.device w'.device)
    (others : ∀ id' ≠ id, (id' ∈ w'.failed ↔ id' ∈ w.failed) ∧ (id' ∈ w'.leaked ↔ id' ∈ w.leaked) ∧
      w'.acceptedOf id' = w.acceptedOf id')
    (own : slot.Inv w'.device id (id ∈ w'.failed) (id ∈ w'.leaked) (w'.acceptedOf id)) :
    ReplayInv w' where
  single := served.single inv.single
  releases release mem := (served.releases release mem).elim (inv.releases release) fun safe => safe
  drawn c mem := by
    rw [nextId]
    exact (served.pending c mem).elim (inv.drawn c) fun same => same ▸ lt
  fresh id' later := by
    rw [nextId] at later
    have ne : id' ≠ id := (lt.trans_le later).ne'
    obtain ⟨failed, leaked, accepted⟩ := others id' ne
    rw [slots, Function.update_of_ne ne, failed, leaked, accepted]
    exact inv.fresh id' later
  slots _ id' := by
    rw [slots]
    rcases eq_or_ne id' id with rfl | ne
    · rwa [Function.update_self]
    · obtain ⟨failed, leaked, accepted⟩ := others id' ne
      rw [Function.update_of_ne ne, failed, leaked, accepted]
      exact (inv.slots live id').frame served ne

theorem ReplayInv.proceed (inv : ReplayInv w) (lt : id < w.nextId) {α : Type} {proc : Proc α}
    {next : ReplayWorld → α → ReplayWorld} {Q : α → Device → Prop}
    (ends : Ends proc w.device Q fun _ d' => Served id w.device d')
    (kept : ∀ a d', Q a d' → ReplayInv (next { w with device := d' } a)) :
    ReplayInv (w.proceed proc next) := by
  unfold ReplayWorld.proceed
  unfold Ends at ends
  cases result : proc w.device with
  | ok a d' =>
    rw [result] at ends
    exact kept a d' ends
  | error _ d' =>
    rw [result] at ends
    have served : Served id w.device d' := ends
    refine ⟨served.single inv.single, fun release mem => ?_, fun c mem => ?_, inv.fresh, nofun⟩
    · exact (served.releases release mem).elim (inv.releases release) fun safe => safe
    · exact (served.pending c mem).elim (inv.drawn c) fun same => same ▸ lt

theorem acceptedOf_report {α : Type} (w : ReplayWorld) (outcome : GraphOutcome α) (slot : GraphSlot)
    (id' : Nat) :
    (w.report id outcome slot).acceptedOf id' =
      w.acceptedOf id' ++ if id' = id then outcome.launched.toList else [] := by
  unfold ReplayWorld.acceptedOf ReplayWorld.report
  dsimp only
  rw [List.filter_append, List.map_append]
  cases outcome.launched with
  | none => simp
  | some index =>
    rcases eq_or_ne id' id with rfl | ne
    · simp
    · simp [ne, ne.symm]

theorem mem_failed_report {α : Type} (w : ReplayWorld) (outcome : GraphOutcome α) (slot : GraphSlot)
    (id' : Nat) :
    id' ∈ (w.report id outcome slot).failed ↔
      id' ∈ w.failed ∨ id' = id ∧ outcome.failure.isSome = true := by
  unfold ReplayWorld.report
  cases outcome.failure <;> simp

/-- An operation that reports. -/
theorem ReplayInv.report {α : Type} (inv : ReplayInv w) (live : w.aborted = false)
    (lt : id < w.nextId) {d' : Device} {outcome : GraphOutcome α} (served : Served id w.device d')
    (own : slot.Inv d' id (id ∈ w.failed ∨ outcome.failure.isSome = true) (id ∈ w.leaked)
      (w.acceptedOf id ++ outcome.launched.toList)) :
    ReplayInv (({ w with device := d' } : ReplayWorld).report id outcome slot) := by
  refine inv.focus live lt rfl rfl served (fun id' ne => ⟨?_, Iff.rfl, ?_⟩) ?_
  · rw [mem_failed_report]
    simp [ne]
  · rw [acceptedOf_report, if_neg ne, List.append_nil]
    rfl
  · rw [acceptedOf_report, if_pos rfl]
    simp only [mem_failed_report, true_and]
    exact own

/-- An operation that reports nothing. -/
theorem ReplayInv.put (inv : ReplayInv w) (live : w.aborted = false) (lt : id < w.nextId)
    {d' : Device} (served : Served id w.device d')
    (own : slot.Inv d' id (id ∈ w.failed) (id ∈ w.leaked) (w.acceptedOf id)) :
    ReplayInv (({ w with device := d' } : ReplayWorld).put id slot) :=
  inv.focus live lt rfl rfl served (fun _ _ => ⟨Iff.rfl, Iff.rfl, rfl⟩) own

/-! ### Actions -/

theorem ReplayInv.capture (inv : ReplayInv w) (captured : CapturedGraph) :
    ReplayInv (w.capture captured) where
  single := inv.single
  releases := inv.releases
  drawn c mem := (inv.drawn c mem).trans (Nat.lt_succ_self _)
  fresh id later := by
    have later : w.nextId + 1 ≤ id := later
    have ne : id ≠ w.nextId := by omega
    unfold ReplayWorld.capture
    dsimp only
    rw [Function.update_of_ne ne]
    exact inv.fresh id (by omega)
  slots live id := by
    unfold ReplayWorld.capture
    dsimp only
    rcases eq_or_ne id w.nextId with rfl | ne
    · rw [Function.update_self]
      obtain ⟨-, failed, leaked, accepted⟩ := inv.fresh w.nextId le_rfl
      exact ⟨rfl, fun c mem own => (inv.drawn c mem).ne own, failed, leaked, accepted⟩
    · rw [Function.update_of_ne ne]
      exact inv.slots live id

/-- A launch or a measurement, on an executable that nothing borrows. -/
theorem Replays.accepted {α : Type} {d d' : Device} {exec : GraphExec} {outcome : GraphOutcome α}
    (replays : Replays id exec d outcome d') {accepted : List Nat}
    (before : accepted = List.range' 1 exec.launches) :
    accepted ++ outcome.launched.toList = List.range' 1 outcome.exec.launches := by
  rcases replays.launches with ⟨none, same⟩ | ⟨some, more⟩
  · rw [none, same, before, Option.toList_none, List.append_nil]
  · rw [some, more, before, List.range'_1_concat, Nat.add_comm 1]
    rfl

/-- What is known of a graph that is there. -/
theorem ReplayInv.found (inv : ReplayInv w) (live : w.aborted = false) (found : w.slots id = slot)
    (there : slot ≠ .gone) : id < w.nextId ∧
      slot.Inv w.device id (id ∈ w.failed) (id ∈ w.leaked) (w.acceptedOf id) := by
  subst found
  exact ⟨inv.drawn_of id there, inv.slots live id⟩

section Found

variable (inv : ReplayInv w) (live : w.aborted = false)
include inv live

/-- A settlement by the completion. -/
theorem ReplayInv.settled {exec : GraphExec} {index : Nat}
    (found : w.slots id = .replaying exec index) {α : Type} {outcome : GraphOutcome α} {d' : Device}
    (settles : Settles id exec w.device outcome d')
    (poisoned : outcome.exec.poisoned = true ↔ exec.poisoned = true ∨ outcome.failure.isSome) :
    ReplayInv (({ w with device := d' } : ReplayWorld).report id outcome (.executable outcome.exec)) := by
  obtain ⟨lt, own, failed, -, kept, -, accepted⟩ := inv.found live found nofun
  refine inv.report live lt settles.served ⟨settles.inv own.graph, ?_, ?_, ?_⟩
  · rw [poisoned, failed]
  · rw [settles.idle]
    exact iff_of_false nofun kept
  · rw [settles.launched, settles.launches, accepted, Option.toList_none, List.append_nil]

/-- The end of a replay, by a completion that waits or is dropped. -/
theorem ReplayInv.ended {exec : GraphExec} {index : Nat}
    (found : w.slots id = .replaying exec index) {α : Type} {proc : Proc (GraphOutcome α)}
    (ends : ExecInv w.device id exec → Ends proc w.device
      (fun outcome d' => Settles id exec w.device outcome d' ∧
        (outcome.exec.poisoned = true ↔ exec.poisoned = true ∨ outcome.failure.isSome))
      fun _ d' => d' = w.device) :
    ReplayInv (w.proceed proc fun w outcome => w.report id outcome (.executable outcome.exec)) := by
  obtain ⟨lt, own, -⟩ := inv.found live found nofun
  refine inv.proceed lt ((ends own).mono (fun _ _ h => h) fun _ d' same => same ▸ .refl id d') ?_
  exact fun _ d' settled => inv.settled live found settled.1 settled.2

theorem ReplayInv.instantiated {captured : CapturedGraph} (found : w.slots id = .captured captured)
    (answers : InstantiateAnswers) :
    ReplayInv (w.proceed (captured.instantiate answers) fun w result =>
      match result with
      | .ok exec => w.put id (.executable exec)
      | .error _ => w.put id .gone) := by
  obtain ⟨lt, graph, free, failed, leaked, accepted⟩ := inv.found live found nofun
  refine inv.proceed lt (captured.instantiate_ends graph free answers) ?_
  rintro result d' ⟨served, free, made⟩
  cases result with
  | error error => exact inv.put live lt served free
  | ok exec =>
    obtain ⟨graph, idle, healthy, launches⟩ := made exec rfl
    refine inv.put live lt served
      ⟨⟨graph, fun c mem own => absurd own (free c mem), ?_⟩, ?_, ?_, ?_⟩
    · simp [idle]
    · simp [healthy, failed]
    · simp [idle, leaked]
    · rw [accepted, launches]
      rfl

theorem ReplayInv.launched {exec : GraphExec} (found : w.slots id = .executable exec)
    (answers : LaunchAnswers) :
    ReplayInv (w.proceed (exec.launch answers) fun w outcome =>
      match outcome.result with
      | .ok index => w.report id outcome (.replaying outcome.exec index)
      | .error _ => w.report id outcome (.executable outcome.exec)) := by
  obtain ⟨lt, own, failed, leaked, accepted⟩ := inv.found live found nofun
  refine inv.proceed lt (exec.launch_ends own answers) ?_
  rintro ⟨result, launched, failure, exec'⟩ d' ⟨replays, told⟩
  have grown := replays.accepted accepted
  have poisoned := replays.poisoned
  rw [failed] at poisoned
  cases result with
  | error error =>
    refine inv.report live lt replays.served ⟨replays.inv, poisoned, ?_, grown⟩
    refine ⟨fun flies => leaked.mp (told.2 flies), fun lost => ?_⟩
    rw [replays.refused (leaked.mpr lost)]
    exact leaked.mpr lost
  | ok index =>
    obtain ⟨some, -, flies, growing⟩ := told
    have index_eq : index = exec'.launches := by
      rcases replays.launches with ⟨none, -⟩ | ⟨some', more⟩
      · cases some.symm.trans none
      · exact (Option.some.inj (some.symm.trans some')).trans more.symm
    have kept : ¬ id ∈ w.leaked := by
      intro lost
      have same := replays.refused (leaked.mpr lost)
      rcases replays.launches with ⟨none, -⟩ | ⟨-, more⟩
      · cases some.symm.trans none
      · rw [same] at more
        omega
    exact inv.report live lt replays.served
      ⟨replays.inv, poisoned, flies, kept, index_eq, grown⟩

theorem ReplayInv.measured {exec : GraphExec} (found : w.slots id = .executable exec)
    (start stop : TimingEvent) (answers : MeasureAnswers) :
    ReplayInv (w.proceed (exec.measureLaunchMs start stop answers) fun w outcome =>
      w.report id outcome (.executable outcome.exec)) := by
  obtain ⟨lt, own, failed, leaked, accepted⟩ := inv.found live found nofun
  refine inv.proceed lt (exec.measureLaunchMs_ends own start stop answers) ?_
  rintro outcome d' ⟨replays, flying⟩
  have poisoned := replays.poisoned
  rw [failed] at poisoned
  refine inv.report live lt replays.served
    ⟨replays.inv, poisoned, ⟨fun flies => leaked.mp (flying flies), fun lost => ?_⟩,
      replays.accepted accepted⟩
  rw [replays.refused (leaked.mpr lost)]
  exact leaked.mpr lost

theorem ReplayInv.queried {exec : GraphExec} {index : Nat}
    (found : w.slots id = .replaying exec index) (query : Except DriverError Bool) :
    ReplayInv (w.proceed (exec.isComplete query) fun w (_, exec) =>
      w.put id (.replaying exec index)) := by
  obtain ⟨lt, own, failed, flies, kept, index_eq, accepted⟩ := inv.found live found nofun
  refine inv.proceed lt ((exec.isComplete_ends own query).mono (fun _ _ h => h)
    fun _ d' same => same ▸ .refl id d') ?_
  rintro ⟨result, exec'⟩ d' ⟨quieter, after, inFlight, poisoned, launches⟩
  refine inv.put live lt quieter.served
    ⟨after, by rw [poisoned, failed], inFlight.trans flies, kept, ?_, ?_⟩
  · rw [index_eq, launches]
  · rw [accepted, launches]

theorem ReplayInv.forgotten {exec : GraphExec} {index : Nat}
    (found : w.slots id = .replaying exec index) :
    ReplayInv { w.put id (.executable exec) with leaked := w.leaked ++ [id] } := by
  obtain ⟨lt, own, failed, flies, -, -, accepted⟩ := inv.found live found nofun
  refine inv.focus live lt rfl rfl (.refl id _) (fun id' ne => ⟨Iff.rfl, ?_, rfl⟩)
    ⟨own, failed, iff_of_true flies ?_, accepted⟩
  · simp [ne]
  · simp

end Found

theorem ReplayInv.step (inv : ReplayInv w) (action : ReplayAction) : ReplayInv (w.step action) := by
  unfold ReplayWorld.step
  split
  · exact inv
  · rename_i running
    have live : w.aborted = false := by simpa using running
    cases action with
    | capture captured => exact inv.capture captured
    | dropCaptured id answers =>
      dsimp only
      split
      · rename_i captured found
        obtain ⟨lt, graph, free, -⟩ := inv.found live found nofun
        exact inv.proceed lt (captured.drop_ends graph free answers) fun _ d' ended =>
          inv.put live lt ended.1 ended.2
      · exact inv
    | instantiate id answers =>
      dsimp only
      split
      · rename_i found
        exact inv.instantiated live found answers
      · exact inv
    | launch id answers =>
      dsimp only
      split
      · rename_i found
        exact inv.launched live found answers
      · exact inv
    | measure id start stop answers =>
      dsimp only
      split
      · rename_i found
        exact inv.measured live found start stop answers
      · exact inv
    | isComplete id query =>
      dsimp only
      split
      · rename_i found
        exact inv.queried live found query
      · exact inv
    | wait id answers =>
      dsimp only
      split
      · rename_i exec index found
        exact inv.ended live found fun own => exec.wait_ends own answers
      · exact inv
    | dropCompletion id answers =>
      dsimp only
      split
      · rename_i exec index found
        exact inv.ended live found fun own => exec.dropCompletion_ends own answers
      · exact inv
    | forgetCompletion id =>
      dsimp only
      split
      · rename_i found
        exact inv.forgotten live found
      · exact inv
    | intoBindings id answers =>
      dsimp only
      split
      · rename_i exec found
        obtain ⟨lt, own, -⟩ := inv.found live found nofun
        exact inv.proceed lt (exec.intoBindings_ends own answers) fun _ d' ended =>
          inv.put live lt ended.1 ended.2
      · exact inv
    | drop id answers =>
      dsimp only
      split
      · rename_i exec found
        obtain ⟨lt, own, -⟩ := inv.found live found nofun
        exact inv.proceed lt (exec.drop_ends own answers) fun _ d' ended =>
          inv.put live lt ended.1 ended.2
      · exact inv

theorem ReplayInv.start : ReplayInv .start where
  single := List.Pairwise.nil
  releases := nofun
  drawn := nofun
  fresh _ _ := ⟨rfl, List.not_mem_nil, List.not_mem_nil, rfl⟩
  slots _ _ := nofun

theorem ReplayInv.run (actions : List ReplayAction) : ReplayInv (run ReplayWorld.step .start actions) :=
  run_invariant .start (fun _ action inv => inv.step action) actions

end World

/-! ## The lifecycle -/

theorem GraphExec.launch_poisoned {exec : GraphExec} (poisoned : exec.poisoned = true)
    (answers : LaunchAnswers) (d : Device) :
    exec.launch answers d = .ok ⟨.error .executionPoisoned, none, none, exec⟩ d := by
  rw [GraphExec.launch, if_pos poisoned]
  rfl

theorem GraphExec.launch_inFlight {exec : GraphExec} (healthy : exec.poisoned = false)
    (flying : exec.inFlight = true) (answers : LaunchAnswers) (d : Device) :
    exec.launch answers d = .ok ⟨.error .replayInFlight, none, none, exec⟩ d := by
  rw [GraphExec.launch, if_neg (by simp [healthy]), if_pos flying]
  rfl

/-- In every run, with every outcome of every driver call: no two replays of a graph are pending
together, and whatever is released of a graph is of no pending replay's use. As long as the process
lives, an executable refuses every launch once a settlement of it failed, reports a replay in flight as
long as it has a leaked completion, and has handed out the launch indices from one to its count; an
attempt that makes no raw launch changes nothing; and of a graph that is gone no replay is pending. -/
theorem replay_lifecycle (actions : List ReplayAction) :
    (run ReplayWorld.step .start actions).device.Single ∧
      (∀ release ∈ (run ReplayWorld.step .start actions).device.releases, release.Safe) ∧
      ((run ReplayWorld.step .start actions).aborted = false → ∀ id,
        match (run ReplayWorld.step .start actions).slots id with
        | .gone => (run ReplayWorld.step .start actions).device.Free (·.scopeId = id)
        | .captured _ => (run ReplayWorld.step .start actions).acceptedOf id = []
        | .executable exec =>
          (id ∈ (run ReplayWorld.step .start actions).failed → ∀ answers d,
            exec.launch answers d = .ok ⟨.error .executionPoisoned, none, none, exec⟩ d) ∧
          (id ∈ (run ReplayWorld.step .start actions).leaked → ∀ answers d,
            exec.launch answers d = .ok ⟨.error .replayInFlight, none, none, exec⟩ d) ∧
          (run ReplayWorld.step .start actions).acceptedOf id = List.range' 1 exec.launches ∧
          (∀ answers, Ends (exec.launch answers) (run ReplayWorld.step .start actions).device
            (fun outcome d => d.log = (run ReplayWorld.step .start actions).device.log →
              outcome.exec = exec ∧ d = (run ReplayWorld.step .start actions).device)
            fun _ _ => True) ∧
          ∀ start stop answers, Ends (exec.measureLaunchMs start stop answers)
            (run ReplayWorld.step .start actions).device
            (fun outcome d => d.log = (run ReplayWorld.step .start actions).device.log →
              outcome.exec = exec ∧ d = (run ReplayWorld.step .start actions).device)
            fun _ _ => True
        | .replaying exec index => index = exec.launches ∧
          (run ReplayWorld.step .start actions).acceptedOf id = List.range' 1 exec.launches) := by
  have inv := ReplayInv.run actions
  refine ⟨inv.single, inv.releases, fun live id => ?_⟩
  have slot := inv.slots live id
  split
  · rename_i found
    rw [found] at slot
    exact slot
  · rename_i captured found
    rw [found] at slot
    exact slot.2.2.2.2
  · rename_i exec found
    rw [found] at slot
    obtain ⟨own, failed, leaked, accepted⟩ := slot
    refine ⟨fun late answers d => exec.launch_poisoned (failed.mpr late) answers d,
      fun lost answers d => ?_, accepted, fun answers => ?_, fun start stop answers => ?_⟩
    · exact exec.launch_inFlight (own.healthy (leaked.mpr lost)) (leaked.mpr lost) answers d
    · exact (exec.launch_ends own answers).mono (fun _ _ replays => replays.1.unchanged)
        fun _ _ _ => trivial
    · exact (exec.measureLaunchMs_ends own start stop answers).mono
        (fun _ _ replays => replays.1.unchanged) fun _ _ _ => trivial
  · rename_i exec index found
    rw [found] at slot
    exact slot.2.2.2.2

/-- A captured graph is instantiated and launched, and the completion is leaked. -/
def leakedReplay : List ReplayAction :=
  [.capture ⟨⟨5, []⟩, ⟨3, ⟨7, 0⟩⟩, threeFloats, [.kernel "rms_norm_f32"], 1⟩,
    .instantiate 1 ⟨none, none, none, false, ⟨none, none⟩⟩,
    .launch 1 ⟨none, none, none, ⟨none, none, none⟩⟩, .forgetCompletion 1]

/-- The next launch finds the replay in flight. -/
theorem replay_lifecycle_leaked :
    ∃ exec, (run ReplayWorld.step .start leakedReplay).slots 1 = .executable exec ∧
      ∀ answers d, exec.launch answers d = .ok ⟨.error .replayInFlight, none, none, exec⟩ d := by
  obtain ⟨exec, found⟩ : ∃ exec,
      (run ReplayWorld.step .start leakedReplay).slots 1 = .executable exec := ⟨_, rfl⟩
  have lifecycle := (replay_lifecycle leakedReplay).2.2 rfl 1
  rw [found] at lifecycle
  exact ⟨exec, found, lifecycle.2.1 (by decide)⟩

end LoomKernels
