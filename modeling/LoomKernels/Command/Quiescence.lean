import LoomKernels.Command.Lifecycle

/-!
# Quiescence

What may be pending for whom, in every state of every run. `SlotInv` is the invariant of one queue with
what borrows it: every pending command of it runs on its stream and is still paid for by a retained
resource, and a completion whose record went well fences all of them. It also says which pending commands
the queue's event may cover, and what the poison of the queue knows about its events.

An operation on one queue and one set of bindings changes nothing for the others (`QueueInv.focus`). So
the invariant is kept by every action, and every release in every run is of resources and bindings that
no pending command uses (`releases_quiescent`).
-/

namespace LoomKernels

/-! ## One queue -/

section SlotInv

/-- A queue that nothing borrows. -/
structure IdleInv (d : Device) (broken : Prop) (queue : CommandQueue) : Prop where
  own : ∀ c ∈ d.pending, c.queueId = queue.id →
    c.stream.Same queue.stream ∧ queue.retainedResources ≠ []
  recorded : queue.completionEvent.recorded ≤ d.log.length
  uncovered : queue.poisoned = false → queue.retainedResources = [] →
    d.Free (queue.completionEvent.covers queue.stream ·)
  poison : broken ↔ queue.poisoned = true ∨ queue.retainedResources ≠ []

/-- A queue with an open scope. -/
structure ScopeInv (d : Device) (broken : Prop) (scope : CommandScope) : Prop where
  accounted : scope.Accounted
  own : ∀ c ∈ d.pending, c.queueId = scope.queue.id ∨ c.setId = scope.bindings.setId →
    c.stream.Same scope.queue.stream ∧ 0 < scope.submitted
  recorded : scope.queue.completionEvent.recorded ≤ d.log.length
  uncovered : d.Free (scope.queue.completionEvent.covers scope.queue.stream ·)
  failed : scope.queue.poisoned = scope.submissionError.isSome
  poison : broken ↔ scope.queue.poisoned = true

/-- A queue with a completion. -/
structure CompletionInv (d : Device) (broken : Prop) (completion : CommandCompletion) : Prop where
  accounted : completion.queue.retainedResources.length = completion.submitted
  own : ∀ c ∈ d.pending, c.queueId = completion.queue.id ∨ c.setId = completion.bindings.setId →
    c.stream.Same completion.queue.stream ∧ 0 < completion.submitted ∧
      (completion.submissionError = none → completion.recordError = none →
        c.serial < completion.queue.completionEvent.recorded)
  recorded : completion.queue.completionEvent.recorded ≤ d.log.length
  uncovered : completion.submitted = 0 →
    d.Free (completion.queue.completionEvent.covers completion.queue.stream ·)
  failed : completion.queue.poisoned = completion.submissionError.isSome
  late : completion.recordError.isSome ∨ completion.pollError.isSome → 0 < completion.submitted
  poison : broken ↔ completion.queue.poisoned = true ∨ completion.recordError.isSome ∨
    completion.pollError.isSome

def SlotInv (d : Device) (broken : Prop) : Slot → Prop
  | .gone => True
  | .idle queue => IdleInv d broken queue
  | .scope scope => ScopeInv d broken scope
  | .completion completion => CompletionInv d broken completion

/-- The queue of a slot. -/
def Slot.queue : Slot → Option CommandQueue
  | .gone => none
  | .idle queue => some queue
  | .scope live => some live.queue
  | .completion fence => some fence.queue

/-- The bindings that a scope or completion holds. -/
def Slot.bindings : Slot → Option CheckedBindings
  | .gone => none
  | .idle _ => none
  | .scope live => some live.bindings
  | .completion fence => some fence.bindings

/-- The command was submitted by this queue or uses these bindings. -/
def Slot.Concerns (slot : Slot) (c : Command) : Prop :=
  (∃ queue, slot.queue = some queue ∧ c.queueId = queue.id) ∨
    ∃ bindings, slot.bindings = some bindings ∧ c.setId = bindings.setId

variable {d d' : Device} {broken : Prop}

/-- New work of others changes nothing for a queue, and neither does work that is over. -/
theorem SlotInv.frame {slot : Slot} (inv : SlotInv d broken slot)
    (log : d.log.length ≤ d'.log.length)
    (pending : ∀ c ∈ d'.pending, c ∈ d.pending ∨ ¬ slot.Concerns c ∧ d.log.length ≤ c.serial) :
    SlotInv d' broken slot := by
  have free : ∀ (event : CudaEvent) (stream : CudaStream), event.recorded ≤ d.log.length →
      d.Free (event.covers stream ·) → d'.Free (event.covers stream ·) := by
    intro event stream recorded uncovered c mem covered
    rcases pending c mem with old | ⟨-, new⟩
    · exact uncovered c old covered
    · have := (of_decide_eq_true covered).2
      omega
  cases slot with
  | gone => trivial
  | idle queue =>
    have inv : IdleInv d broken queue := inv
    refine ⟨fun c mem own => ?_, inv.recorded.trans log, fun healthy empty =>
      free _ _ inv.recorded (inv.uncovered healthy empty), inv.poison⟩
    rcases pending c mem with old | ⟨other, -⟩
    · exact inv.own c old own
    · exact absurd (.inl ⟨queue, rfl, own⟩) other
  | scope scope =>
    have inv : ScopeInv d broken scope := inv
    refine ⟨inv.accounted, fun c mem own => ?_, inv.recorded.trans log,
      free _ _ inv.recorded inv.uncovered, inv.failed, inv.poison⟩
    rcases pending c mem with old | ⟨other, -⟩
    · exact inv.own c old own
    · exact absurd (own.imp (fun own => ⟨_, rfl, own⟩) fun own => ⟨_, rfl, own⟩) other
  | completion completion =>
    have inv : CompletionInv d broken completion := inv
    refine ⟨inv.accounted, fun c mem own => ?_, inv.recorded.trans log,
      fun none => free _ _ inv.recorded (inv.uncovered none), inv.failed, inv.late, inv.poison⟩
    rcases pending c mem with old | ⟨other, -⟩
    · exact inv.own c old own
    · exact absurd (own.imp (fun own => ⟨_, rfl, own⟩) fun own => ⟨_, rfl, own⟩) other

/-- Nothing new is pending. -/
theorem SlotInv.quieter {slot : Slot} (inv : SlotInv d broken slot)
    (log : d.log.length ≤ d'.log.length) (pending : ∀ c ∈ d'.pending, c ∈ d.pending) :
    SlotInv d' broken slot :=
  inv.frame log fun c mem => .inl (pending c mem)

/-! ### Operations on it -/

theorem IdleInv.begin {queue : CommandQueue} (inv : IdleInv d broken queue)
    (healthy : queue.poisoned = false) (empty : queue.retainedResources = [])
    {bindings : CheckedBindings} (unused : d.Free (·.setId = bindings.setId)) (scopeId : Nat) :
    ScopeInv d broken ⟨queue, bindings, scopeId, 0, none⟩ where
  accounted := ⟨by simp [empty], Nat.zero_le _⟩
  own c mem own := by
    rcases own with own | own
    · exact absurd empty (inv.own c mem own).2
    · exact absurd own (unused c mem)
  recorded := inv.recorded
  uncovered := inv.uncovered healthy empty
  failed := healthy
  poison := by simp [inv.poison, healthy, empty]

/-- A queue that is left over when a scope or completion is leaked. -/
theorem IdleInv.poisoned {queue : CommandQueue} (inv : IdleInv d broken queue)
    (leftover : queue.retainedResources ≠ []) : IdleInv d broken { queue with poisoned := true } where
  own := inv.own
  recorded := inv.recorded
  uncovered := nofun
  poison := by simp [inv.poison, leftover]

theorem ScopeInv.enqueue {scope : CommandScope} (inv : ScopeInv d broken scope) {s : EnqueueState}
    {commands : List Command} (launched : EnqueueState.Launched ⟨scope, d⟩ s commands)
    (acc : s.scope.Accounted) {broken' : Prop}
    (failed : s.scope.queue.poisoned = s.scope.submissionError.isSome)
    (poison : broken' ↔ s.scope.queue.poisoned = true) : ScopeInv s.device broken' s.scope where
  accounted := acc
  own c mem own := by
    rw [launched.stream, launched.submitted]
    rw [launched.pending] at mem
    rw [launched.queue, launched.bindings] at own
    rcases List.mem_append.mp mem with mem | mem
    · have := inv.own c mem own
      exact ⟨this.1, Nat.lt_add_right _ this.2⟩
    · obtain ⟨serial, -, -, same⟩ := launched.own c mem
      have stream : c.stream = scope.queue.stream := congrArg Command.stream same
      have some := List.length_pos_of_mem mem
      exact ⟨stream ▸ .refl _, Nat.add_pos_right _ some⟩
  recorded := by
    rw [launched.event, launched.log, List.length_append]
    exact Nat.le_add_right_of_le inv.recorded
  uncovered c mem covered := by
    rw [launched.event, launched.stream] at covered
    rw [launched.pending] at mem
    rcases List.mem_append.mp mem with mem | mem
    · exact inv.uncovered c mem covered
    · obtain ⟨serial, le, -, same⟩ := launched.own c mem
      have before := (of_decide_eq_true covered).2
      have recorded := inv.recorded
      rw [same] at before
      simp only [CommandScope.command] at before le
      omega
  failed := failed
  poison := poison

theorem ScopeInv.forget {scope : CommandScope} (inv : ScopeInv d broken scope) :
    IdleInv d (broken ∨ 0 < scope.submitted) scope.queue := by
  have leftover : 0 < scope.submitted ↔ scope.queue.retainedResources ≠ [] := by
    rw [← inv.accounted.retained, List.length_pos_iff]
  refine ⟨fun c mem own => ?_, inv.recorded, fun _ _ => inv.uncovered, ?_⟩
  · have := inv.own c mem (.inl own)
    exact ⟨this.1, leftover.mp this.2⟩
  · rw [inv.poison, leftover]

theorem CompletionInv.forget {completion : CommandCompletion}
    (inv : CompletionInv d broken completion) :
    IdleInv d (broken ∨ 0 < completion.submitted) completion.queue := by
  have leftover : 0 < completion.submitted ↔ completion.queue.retainedResources ≠ [] := by
    rw [← inv.accounted, List.length_pos_iff]
  refine ⟨fun c mem own => ?_, inv.recorded, fun _ empty => inv.uncovered ?_, ?_⟩
  · have := inv.own c mem (.inl own)
    exact ⟨this.1, leftover.mp this.2.1⟩
  · rw [← inv.accounted, empty]
    rfl
  · have late := inv.late
    rw [inv.poison, ← leftover]
    tauto

/-- After a settlement nothing is pending for the queue or the bindings of a completion. -/
theorem CompletionInv.free {completion : CommandCompletion} (inv : CompletionInv d broken completion)
    {failure : Option SettlementFailure} (settled : Settled completion failure d d') :
    d'.Free fun c => c.queueId = completion.queue.id ∨ c.setId = completion.bindings.setId := by
  intro c mem own
  obtain ⟨same, submitted, fenced⟩ := inv.own c (settled.quieter.pending c mem) own
  cases failure with
  | none =>
    obtain ⟨submission, record, -, free⟩ := settled.event submitted rfl
    exact free c mem (decide_eq_true ⟨same, fenced submission record⟩)
  | some failure => exact settled.stream submitted rfl c mem same

theorem CompletionInv.settled {completion : CommandCompletion}
    (inv : CompletionInv d broken completion) {failure : Option SettlementFailure}
    (settled : Settled completion failure d d') :
    IdleInv d' (broken ∨ failure.isSome) (completion.after failure) := by
  have free := inv.free settled
  have recorded : completion.queue.completionEvent.recorded ≤ d'.log.length := by
    rw [settled.quieter.log]
    exact inv.recorded
  cases failure with
  | some failure =>
    exact ⟨fun c mem own => absurd (.inl own) (free c mem), recorded, nofun,
      by simp [CommandCompletion.after]⟩
  | none =>
    -- no error was stored, so that the queue is not poisoned
    have healthy : completion.submissionError = none ∧ completion.recordError = none ∧
        completion.pollError = none := by
      rcases Nat.eq_zero_or_pos completion.submitted with empty | submitted
      · have stored := (settled.empty empty).2
        have late := mt inv.late empty.not_gt
        simp only [not_or, Bool.not_eq_true, Option.isSome_eq_false_iff, Option.isNone_iff_eq_none]
          at late
        exact ⟨by simpa using stored.symm, late⟩
      · obtain ⟨submission, record, poll, -⟩ := settled.event submitted rfl
        exact ⟨submission, record, poll⟩
    obtain ⟨submission, record, poll⟩ := healthy
    have failed := inv.failed
    rw [submission] at failed
    refine ⟨fun c mem own => absurd (.inl own) (free c mem), recorded, fun _ _ => ?_, ?_⟩
    · rcases Nat.eq_zero_or_pos completion.submitted with empty | submitted
      · rw [(settled.empty empty).1]
        exact inv.uncovered empty
      · exact (settled.event submitted rfl).2.2.2
    · rw [inv.poison, failed, record, poll]
      simp [CommandCompletion.after, failed]

/-- After its destructor nothing is pending for the queue or the bindings of a scope. -/
theorem ScopeInv.free {scope : CommandScope} (inv : ScopeInv d broken scope) (quieter : d.Quieter d')
    (synchronized : 0 < scope.submitted → d'.Free (·.stream.Same scope.queue.stream)) :
    d'.Free fun c => c.queueId = scope.queue.id ∨ c.setId = scope.bindings.setId := by
  intro c mem own
  obtain ⟨same, submitted⟩ := inv.own c (quieter.pending c mem) own
  exact synchronized submitted c mem same

theorem ScopeInv.dropped {scope : CommandScope} (inv : ScopeInv d broken scope)
    (quieter : d.Quieter d')
    (synchronized : 0 < scope.submitted → d'.Free (·.stream.Same scope.queue.stream))
    (error : Option DriverError) : IdleInv d' (broken ∨ error.isSome) (scope.after error) := by
  have free := inv.free quieter synchronized
  refine ⟨fun c mem own => absurd (.inl own) (free c mem), ?_, fun _ _ c mem => ?_, ?_⟩
  · rw [quieter.log]
    exact inv.recorded
  · exact inv.uncovered c (quieter.pending c mem)
  · rw [inv.poison, inv.failed, CommandScope.after, inv.failed]
    cases scope.submissionError <;> cases error <;> simp

theorem IdleInv.free {queue : CommandQueue} (inv : IdleInv d broken queue) (quieter : d.Quieter d')
    (synchronized : d'.Free (·.stream.Same queue.stream)) : d'.Free (·.queueId = queue.id) :=
  fun c mem own => synchronized c mem (inv.own c (quieter.pending c mem) own).1

/-- A finish records the event over what it has not covered before, or fails to. -/
theorem ScopeInv.finish {scope : CommandScope} (inv : ScopeInv d broken scope)
    (serials : ∀ c ∈ d.pending, c.serial < d.log.length) (record : Option DriverError) :
    Ends (scope.finish record) d
      (fun completion d' => CompletionInv d' (broken ∨ completion.recordError.isSome) completion ∧
        completion.queue.id = scope.queue.id ∧ completion.bindings = scope.bindings ∧
        d'.log = d.log ∧ d'.pending = d.pending ∧ d'.releases = d.releases ∧
        ∀ covered ∈ d'.rerecords, covered ∈ d.rerecords ∨ covered = [])
      (fun _ _ => False) := by
  unfold CommandScope.finish
  split_ifs with settled
  · refine ⟨⟨inv.accounted.retained, fun c mem own => ?_, inv.recorded, fun _ => inv.uncovered,
      inv.failed, by simp, by simp [inv.poison]⟩, rfl, rfl, rfl, rfl, rfl, fun _ => .inl⟩
    have := inv.own c mem own
    refine ⟨this.1, this.2, fun healthy _ => ?_⟩
    rcases settled with empty | failed
    · exact absurd empty this.2.ne'
    · have healthy : scope.submissionError = none := healthy
      simp [healthy] at failed
  · rw [not_or] at settled
    obtain ⟨some, healthy⟩ := settled
    have submitted := Nat.pos_of_ne_zero some
    have rerecorded : ∀ covered ∈ (d.record scope.queue.completionEvent scope.queue.stream).rerecords,
        covered ∈ d.rerecords ∨ covered = [] := by
      intro covered mem
      rcases List.mem_append.mp mem with mem | mem
      · exact .inl mem
      · rw [List.mem_singleton.mp mem, List.filter_eq_nil_iff]
        exact .inr inv.uncovered
    cases record with
    | none =>
      refine ⟨⟨inv.accounted.retained, fun c mem own => ?_, le_rfl, fun empty => absurd empty some,
        inv.failed, by simp, by simp [inv.poison]⟩, rfl, rfl, rfl, rfl, rfl, rerecorded⟩
      have := inv.own c mem own
      exact ⟨this.1, this.2, fun _ _ => serials c mem⟩
    | some error =>
      refine ⟨⟨inv.accounted.retained, fun c mem own => ?_, inv.recorded,
        fun empty => absurd empty some, inv.failed, fun _ => submitted, by simp⟩, rfl, rfl, rfl,
        rfl, rfl, rerecorded⟩
      have := inv.own c mem own
      exact ⟨this.1, this.2, fun _ recorded => by simp at recorded⟩

theorem CompletionInv.isComplete {completion : CommandCompletion}
    (inv : CompletionInv d broken completion) (query : Except DriverError Bool) :
    Ends (completion.isComplete query) d
      (fun result d' => d.Quieter d' ∧ result.2.queue = completion.queue ∧
        result.2.bindings = completion.bindings ∧
        CompletionInv d' (broken ∨ result.2.pollError.isSome) result.2)
      (fun _ _ => False) := by
  have known : broken ∨ completion.pollError.isSome ↔ broken := by
    rw [or_iff_left_iff_imp, inv.poison]
    exact fun poll => .inr (.inr poll)
  have same : CompletionInv d (broken ∨ completion.pollError.isSome) completion := by rwa [known]
  obtain ⟨queue, bindings, submitted, submissionError, recordError, pollError⟩ := completion
  unfold CommandCompletion.isComplete
  cases submissionError with
  | some error => exact ⟨.refl d, rfl, rfl, same⟩
  | none =>
    cases recordError with
    | some error => exact ⟨.refl d, rfl, rfl, same⟩
    | none =>
      cases pollError with
      | some error => exact ⟨.refl d, rfl, rfl, same⟩
      | none =>
        dsimp only
        split_ifs with empty
        · exact ⟨.refl d, rfl, rfl, same⟩
        · cases query with
          | error error =>
            exact ⟨.refl d, rfl, rfl, inv.accounted, inv.own, inv.recorded, inv.uncovered, inv.failed,
              fun _ => Nat.pos_of_ne_zero empty, by simp⟩
          | ok complete =>
            cases complete with
            | false => exact ⟨.refl d, rfl, rfl, same⟩
            | true =>
              have quieter := d.settle_quieter (queue.completionEvent.covers queue.stream)
              exact ⟨quieter, rfl, rfl, SlotInv.quieter (show SlotInv d _ (.completion _) from same) le_rfl
                quieter.pending⟩

end SlotInv

/-! ## All queues -/

/-- No command that uses what was released was pending. -/
def Release.Safe (release : Release) : Prop :=
  ∀ c ∈ release.pending,
    match release.what with
    | .resources queueId => c.queueId ≠ queueId
    | .bindings setId => c.setId ≠ setId
    | .graph scopeId _ => c.scopeId ≠ scopeId

structure QueueInv (w : QueueWorld) : Prop where
  serials : ∀ c ∈ w.device.pending, c.serial < w.device.log.length
  drawn : ∀ c ∈ w.device.pending, c.queueId < w.nextId ∧ c.setId < w.nextId
  slots : ∀ id, SlotInv w.device (w.Broken id) (w.slots id)
  queueId : ∀ id queue, (w.slots id).queue = some queue → queue.id = id ∧ id < w.nextId
  /-- Nothing uses the bindings in the caller's hand. -/
  hand : ∀ set bindings, w.hand set = some bindings →
    bindings.setId = set ∧ set < w.nextId ∧ w.device.Free (·.setId = set)
  /-- Bindings that are held are held once. -/
  held : ∀ id bindings, (w.slots id).bindings = some bindings →
    bindings.setId < w.nextId ∧ w.hand bindings.setId = none ∧
      ∀ id' bindings', (w.slots id').bindings = some bindings' →
        bindings'.setId = bindings.setId → id' = id
  events : ∀ id, w.Broken id → id < w.nextId
  /-- Only a leak leaves resources behind. -/
  leftover : ∀ id queue, w.slots id = .idle queue → queue.retainedResources ≠ [] →
    (id, .leaked) ∈ w.events
  releases : ∀ release ∈ w.device.releases, release.Safe
  rerecords : ∀ covered ∈ w.device.rerecords, covered = []

section World

variable {w w' : QueueWorld} {id set : Nat} {slot : Slot} {held : Option CheckedBindings}

/-- The part of the world that an action on queue `id` and set `set` may change. -/
structure Focus (w w' : QueueWorld) (id set : Nat) (slot : Slot) (held : Option CheckedBindings) :
    Prop where
  slots : w'.slots = Function.update w.slots id slot
  hand : w'.hand = Function.update w.hand set held
  nextId : w.nextId ≤ w'.nextId
  log : w.device.log.length ≤ w'.device.log.length
  pending : ∀ c ∈ w'.device.pending, c ∈ w.device.pending ∨
    c.queueId = id ∧ c.setId = set ∧ id < w'.nextId ∧ set < w'.nextId ∧
      w.device.log.length ≤ c.serial ∧ c.serial < w'.device.log.length
  others : ∀ id' ≠ id, w'.Broken id' ↔ w.Broken id'
  events : ∀ event ∈ w.events, event ∈ w'.events

/-- What is left to show of such an action is about its queue and its set. -/
theorem QueueInv.focus (inv : QueueInv w) (id set : Nat) (slot : Slot)
    (held : Option CheckedBindings) (focus : Focus w w' id set slot held)
    (owner : ∀ id' bindings, (w.slots id').bindings = some bindings → bindings.setId = set → id' = id)
    (own : SlotInv w'.device (w'.Broken id) slot)
    (queueId : ∀ queue, slot.queue = some queue → queue.id = id ∧ id < w'.nextId)
    (setId : ∀ bindings, slot.bindings = some bindings →
      bindings.setId = set ∧ set < w'.nextId ∧ held = none)
    (handed : ∀ bindings, held = some bindings →
      bindings.setId = set ∧ set < w'.nextId ∧ w'.device.Free (·.setId = set))
    (broken : w'.Broken id → id < w'.nextId)
    (leftover : ∀ queue, slot = .idle queue → queue.retainedResources ≠ [] →
      (id, .leaked) ∈ w'.events)
    (releases : ∀ release ∈ w'.device.releases, release ∈ w.device.releases ∨ release.Safe)
    (rerecords : ∀ covered ∈ w'.device.rerecords, covered ∈ w.device.rerecords ∨ covered = []) :
    QueueInv w' where
  serials c mem := by
    rcases focus.pending c mem with old | ⟨-, -, -, -, -, lt⟩
    · exact (inv.serials c old).trans_le focus.log
    · exact lt
  drawn c mem := by
    rcases focus.pending c mem with old | ⟨queue, bindings, lt, lt', -⟩
    · exact ⟨(inv.drawn c old).1.trans_le focus.nextId, (inv.drawn c old).2.trans_le focus.nextId⟩
    · exact ⟨queue ▸ lt, bindings ▸ lt'⟩
  slots id' := by
    rw [focus.slots]
    rcases eq_or_ne id' id with rfl | ne
    · rwa [Function.update_self]
    · rw [Function.update_of_ne ne, focus.others id' ne]
      refine (inv.slots id').frame focus.log fun c mem => (focus.pending c mem).imp_right ?_
      rintro ⟨queue, bindings, -, -, le, -⟩
      refine ⟨?_, le⟩
      rintro (⟨queue', found, same⟩ | ⟨bindings', found, same⟩)
      · exact ne ((inv.queueId id' queue' found).1.symm.trans (same.symm.trans queue))
      · exact ne (owner id' bindings' found (same.symm.trans bindings))
  queueId id' queue found := by
    rw [focus.slots] at found
    rcases eq_or_ne id' id with rfl | ne
    · rw [Function.update_self] at found
      exact queueId queue found
    · rw [Function.update_of_ne ne] at found
      exact ⟨(inv.queueId id' queue found).1, (inv.queueId id' queue found).2.trans_le focus.nextId⟩
  hand set' bindings found := by
    rw [focus.hand] at found
    rcases eq_or_ne set' set with rfl | ne
    · rw [Function.update_self] at found
      exact handed bindings found
    · rw [Function.update_of_ne ne] at found
      obtain ⟨same, lt, free⟩ := inv.hand set' bindings found
      refine ⟨same, lt.trans_le focus.nextId, fun c mem uses => ?_⟩
      rcases focus.pending c mem with old | ⟨-, bindings, -⟩
      · exact free c old uses
      · exact ne (uses.symm.trans bindings)
  held id' bindings found := by
    have elsewhere : ∀ id'' ≠ id, (w'.slots id'').bindings = (w.slots id'').bindings := by
      intro id'' ne
      rw [focus.slots, Function.update_of_ne ne]
    have here : (w'.slots id).bindings = slot.bindings := by
      rw [focus.slots, Function.update_self]
    rcases eq_or_ne id' id with rfl | ne
    · obtain ⟨same, lt, none⟩ := setId bindings (here ▸ found)
      refine ⟨same ▸ lt, ?_, fun id'' bindings'' found' same' => ?_⟩
      · rw [focus.hand, same, Function.update_self, none]
      · by_contra ne
        rw [elsewhere id'' ne] at found'
        exact ne (owner id'' bindings'' found' (same'.trans same))
    · rw [elsewhere id' ne] at found
      obtain ⟨lt, free, unique⟩ := inv.held id' bindings found
      have other : bindings.setId ≠ set := fun same => ne (owner id' bindings found same)
      refine ⟨lt.trans_le focus.nextId, ?_, fun id'' bindings'' found' same' => ?_⟩
      · rw [focus.hand, Function.update_of_ne other, free]
      · rcases eq_or_ne id'' id with rfl | ne'
        · rw [here] at found'
          exact absurd (same'.symm.trans (setId bindings'' found').1) other
        · rw [elsewhere id'' ne'] at found'
          exact unique id'' bindings'' found' same'
  events id' happened := by
    rcases eq_or_ne id' id with rfl | ne
    · exact broken happened
    · exact (inv.events id' ((focus.others id' ne).mp happened)).trans_le focus.nextId
  leftover id' queue found some := by
    rw [focus.slots] at found
    rcases eq_or_ne id' id with rfl | ne
    · rw [Function.update_self] at found
      exact leftover queue found some
    · rw [Function.update_of_ne ne] at found
      exact focus.events _ (inv.leftover id' queue found some)
  releases release mem := (releases release mem).elim (inv.releases release) fun safe => safe
  rerecords covered mem := (rerecords covered mem).elim (inv.rerecords covered) fun none => none

/-! ### Actions -/

theorem broken_noted {events : List (Nat × QueueEvent)} {id' : Nat} {event : QueueEvent}
    {happened : Bool} :
    (∃ e, (id', e) ∈ events ++ noted id event happened) ↔
      (∃ e, (id', e) ∈ events) ∨ id' = id ∧ happened = true := by
  cases happened with
  | false => simp [noted]
  | true =>
    simp only [noted, if_true, List.mem_append, List.mem_singleton, Prod.mk.injEq, exists_or,
      and_true, exists_and_left, exists_eq]

theorem broken_self {event : QueueEvent} {happened : Bool}
    (events : w'.events = w.events ++ noted id event happened) :
    w'.Broken id ↔ w.Broken id ∨ happened = true := by
  unfold QueueWorld.Broken
  rw [events, broken_noted]
  simp

theorem broken_other {event : QueueEvent} {happened : Bool}
    (events : w'.events = w.events ++ noted id event happened) {id' : Nat} (ne : id' ≠ id) :
    w'.Broken id' ↔ w.Broken id' := by
  unfold QueueWorld.Broken
  rw [events, broken_noted]
  simp [ne]

theorem QueueInv.proceed (inv : QueueInv w) {α : Type} {proc : Proc α}
    {next : QueueWorld → α → QueueWorld} {Q : α → Device → Prop}
    (ends : Ends proc w.device Q fun _ d' => d' = w.device)
    (kept : ∀ a d', Q a d' → QueueInv (next { w with device := d' } a)) :
    QueueInv (w.proceed proc next) := by
  unfold QueueWorld.proceed
  unfold Ends at ends
  cases result : proc w.device with
  | ok a d' =>
    rw [result] at ends
    exact kept a d' ends
  | error _ d' =>
    rw [result] at ends
    obtain rfl : d' = w.device := ends
    exact ⟨inv.serials, inv.drawn, inv.slots, inv.queueId, inv.hand, inv.held, inv.events,
      inv.leftover, inv.releases, inv.rerecords⟩

/-- A slot that no queue was made for. -/
theorem QueueInv.slot_fresh (inv : QueueInv w) : w.slots w.nextId = .gone := by
  cases found : w.slots w.nextId with
  | gone => rfl
  | idle queue => exact absurd (inv.queueId _ queue (by rw [found]; rfl)).2 (lt_irrefl _)
  | scope scope => exact absurd (inv.queueId _ scope.queue (by rw [found]; rfl)).2 (lt_irrefl _)
  | completion completion =>
    exact absurd (inv.queueId _ completion.queue (by rw [found]; rfl)).2 (lt_irrefl _)

theorem QueueInv.hand_fresh (inv : QueueInv w) (later : w.nextId ≤ set) : w.hand set = none := by
  cases held : w.hand set with
  | none => rfl
  | some bindings =>
    have := (inv.hand set bindings held).2.1
    omega

/-- An action on a set in the caller's hand. -/
theorem QueueInv.hold (inv : QueueInv w) {bindings : CheckedBindings}
    (found : w.hand set = some bindings) {d' : Device} (pending : d'.pending = w.device.pending)
    (log : d'.log = w.device.log) (rerecords : d'.rerecords = w.device.rerecords)
    (releases : ∀ release ∈ d'.releases, release ∈ w.device.releases ∨ release.Safe)
    (same : ∀ bindings, held = some bindings → bindings.setId = set) :
    QueueInv { w with device := d', hand := Function.update w.hand set held } := by
  obtain ⟨-, lt, free⟩ := inv.hand set bindings found
  refine inv.focus w.nextId set .gone held
    ⟨?_, rfl, le_rfl, by simp [log], fun c mem => .inl (pending ▸ mem), fun _ _ => Iff.rfl,
      fun _ mem => mem⟩
    (fun id' bindings' holds same' => ?_) trivial nofun nofun
    (fun bindings' given => ⟨same bindings' given, lt, fun c mem => free c (pending ▸ mem)⟩)
    (fun broken => inv.events _ broken) nofun releases (fun covered mem => .inl (rerecords ▸ mem))
  · rw [← inv.slot_fresh, Function.update_eq_self]
  · have none := (inv.held id' bindings' holds).2.1
    rw [same', found] at none
    cases none

theorem QueueInv.edit (inv : QueueInv w) (set : Nat) {change : CheckedBindings → CheckedBindings}
    (same : ∀ bindings, (change bindings).setId = bindings.setId) : QueueInv (w.edit set change) := by
  cases found : w.hand set with
  | none =>
    have unchanged : w.edit set change = w := by
      unfold QueueWorld.edit
      rw [found, Option.map_none, ← found, Function.update_eq_self]
    rwa [unchanged]
  | some bindings =>
    refine inv.hold found rfl rfl rfl (fun _ => .inl) fun bindings' changed => ?_
    rw [found, Option.map_some, Option.some.injEq] at changed
    rw [← changed, same]
    exact (inv.hand set bindings found).1

theorem QueueInv.dropBindings (inv : QueueInv w) {bindings : CheckedBindings}
    (found : w.hand set = some bindings) :
    QueueInv { w with
      device := w.device.release (.bindings bindings.setId)
      hand := Function.update w.hand set none } := by
  refine inv.hold found rfl rfl rfl (fun release mem => ?_) nofun
  rcases List.mem_append.mp mem with mem | mem
  · exact .inl mem
  · obtain ⟨same, -, free⟩ := inv.hand set bindings found
    rw [List.mem_singleton.mp mem]
    exact .inr fun c mem uses => free c mem (uses.trans same)

/-- Ids that are drawn for nothing. -/
theorem QueueInv.draw (inv : QueueInv w) {nextId : Nat} (later : w.nextId ≤ nextId) :
    QueueInv { w with nextId } where
  serials := inv.serials
  drawn c mem := ⟨(inv.drawn c mem).1.trans_le later, (inv.drawn c mem).2.trans_le later⟩
  slots := inv.slots
  queueId id queue found :=
    ⟨(inv.queueId id queue found).1, (inv.queueId id queue found).2.trans_le later⟩
  hand set bindings found := by
    obtain ⟨same, lt, free⟩ := inv.hand set bindings found
    exact ⟨same, lt.trans_le later, free⟩
  held id bindings found := by
    obtain ⟨lt, rest⟩ := inv.held id bindings found
    exact ⟨lt.trans_le later, rest⟩
  events id broken := (inv.events id broken).trans_le later
  leftover := inv.leftover
  releases := inv.releases
  rerecords := inv.rerecords

/-- Work that is over. -/
theorem QueueInv.quieter (inv : QueueInv w) (done : Command → Bool) :
    QueueInv { w with device := w.device.settle done } where
  serials c mem := inv.serials c (List.mem_of_mem_filter mem)
  drawn c mem := inv.drawn c (List.mem_of_mem_filter mem)
  slots id := (inv.slots id).quieter le_rfl (w.device.settle_quieter done).pending
  queueId := inv.queueId
  hand set bindings found := by
    obtain ⟨same, lt, free⟩ := inv.hand set bindings found
    exact ⟨same, lt, fun c mem => free c (List.mem_of_mem_filter mem)⟩
  held := inv.held
  events := inv.events
  leftover := inv.leftover
  releases := inv.releases
  rerecords := inv.rerecords

theorem QueueInv.newQueue (inv : QueueInv w) (stream : CudaStream) (maxCommands : Nat)
    (eventError : Option DriverError) : QueueInv (w.newQueue stream maxCommands eventError) := by
  have later := CommandQueue.new_nextId stream maxCommands eventError w.nextId
  unfold QueueWorld.newQueue
  split
  · rename_i queue nextId made
    rw [made] at later
    obtain ⟨after, id, empty, event, healthy, -⟩ := CommandQueue.new_eq_ok made
    have fresh : ¬ w.Broken queue.id := fun broken => by
      have := inv.events _ broken
      omega
    refine inv.focus queue.id nextId (.idle queue) none
      ⟨rfl, ?_, later, le_rfl, fun c mem => .inl mem, fun _ _ => Iff.rfl, fun _ mem => mem⟩
      (fun id' bindings holds same => ?_) ⟨fun c mem own => ?_, ?_, fun _ _ c mem covered => ?_, ?_⟩
      (fun queue' same => ?_) nofun nofun (fun broken => absurd broken fresh)
      (fun queue' same some => ?_) (fun _ => .inl) (fun _ => .inl)
    · rw [← inv.hand_fresh later, Function.update_eq_self]
    · have := (inv.held id' bindings holds).1
      omega
    · have := (inv.drawn c mem).1
      omega
    · rw [event]
      exact Nat.zero_le _
    · have := (of_decide_eq_true covered).2
      rw [event] at this
      exact absurd this (Nat.not_lt_zero _)
    · exact iff_of_false fresh (by simp [healthy, empty])
    · cases same
      exact ⟨rfl, by dsimp only; omega⟩
    · cases same
      exact absurd empty some
  · rename_i made
    exact inv.draw (by rw [made] at later; exact later)

/-- An operation on what borrows a queue, which leaves the caller's hand as it is. -/
theorem QueueInv.operate (inv : QueueInv w) {bindings : CheckedBindings}
    (holds : (w.slots id).bindings = some bindings) {d' : Device}
    (log : d'.log = w.device.log) (pending : ∀ c ∈ d'.pending, c ∈ w.device.pending)
    {event : QueueEvent} {happened : Bool}
    (own : SlotInv d' (w.Broken id ∨ happened = true) slot)
    (queueId : ∀ queue, slot.queue = some queue → queue.id = id)
    (setId : ∀ bindings', slot.bindings = some bindings' → bindings'.setId = bindings.setId)
    (leftover : ∀ queue, slot = .idle queue → queue.retainedResources ≠ [] →
      (id, .leaked) ∈ w.events ++ noted id event happened)
    (releases : ∀ release ∈ d'.releases, release ∈ w.device.releases ∨ release.Safe)
    (rerecords : ∀ covered ∈ d'.rerecords, covered ∈ w.device.rerecords ∨ covered = []) :
    QueueInv { w with
      device := d'
      slots := Function.update w.slots id slot
      events := w.events ++ noted id event happened } := by
  obtain ⟨setLt, free, owner⟩ := inv.held id bindings holds
  have idLt : id < w.nextId := by
    cases found : w.slots id with
    | gone =>
      rw [found] at holds
      cases holds
    | idle queue =>
      rw [found] at holds
      cases holds
    | scope scope => exact (inv.queueId id scope.queue (by rw [found]; rfl)).2
    | completion completion => exact (inv.queueId id completion.queue (by rw [found]; rfl)).2
  refine inv.focus id bindings.setId slot none
    ⟨rfl, ?_, le_rfl, (congrArg List.length log).ge, fun c mem => .inl (pending c mem),
      fun id' ne => broken_other rfl ne, fun _ => List.mem_append_left _⟩ owner ?_
    (fun queue found => ⟨queueId queue found, idLt⟩)
    (fun bindings' found => ⟨setId bindings' found, setLt, rfl⟩) nofun (fun _ => idLt) leftover
    releases rerecords
  · rw [← free, Function.update_eq_self]
  · rwa [broken_self rfl]

theorem QueueInv.newBindings (inv : QueueInv w) {queue : CommandQueue}
    (found : w.slots id = .idle queue) (capacity : Nat) : QueueInv (w.newBindings queue capacity) := by
  unfold QueueWorld.newBindings
  rcases queue.newBindings_cases capacity w.nextId with ⟨error, made⟩ | made
  · rw [made]
    exact inv.draw le_rfl
  · rw [made]
    have unused : w.device.Free (·.setId = w.nextId) := fun c mem uses => by
      have := (inv.drawn c mem).2
      omega
    refine inv.focus id w.nextId (.idle queue)
      (some ⟨queue.id, w.nextId, queue.stream, [], capacity⟩)
      ⟨?_, rfl, Nat.le_succ _, le_rfl, fun c mem => .inl mem, fun _ _ => Iff.rfl, fun _ mem => mem⟩
      (fun id' bindings holds same => ?_) ?_ (fun queue' same => ?_) nofun (fun bindings same => ?_)
      (fun broken => (inv.events _ broken).trans (Nat.lt_succ_self _))
      (fun queue' same => inv.leftover id queue' (found.trans same)) (fun _ => .inl) (fun _ => .inl)
    · rw [← found, Function.update_eq_self]
    · have := (inv.held id' bindings holds).1
      omega
    · rw [← found]
      exact inv.slots id
    · obtain ⟨same, lt⟩ := inv.queueId id queue' (by rw [found]; exact same)
      exact ⟨same, lt.trans (Nat.lt_succ_self _)⟩
    · cases same
      exact ⟨rfl, Nat.lt_succ_self _, unused⟩

theorem QueueInv.begin (inv : QueueInv w) {queue : CommandQueue} (found : w.slots id = .idle queue)
    {bindings : CheckedBindings} (given : w.hand set = some bindings) :
    QueueInv (w.begin id set queue bindings) := by
  obtain ⟨idSame, idLt⟩ := inv.queueId id queue (by rw [found]; rfl)
  obtain ⟨setSame, setLt, unused⟩ := inv.hand set bindings given
  have idle : IdleInv w.device (w.Broken id) queue := by
    have := inv.slots id
    rwa [found] at this
  have owner : ∀ id' bindings', (w.slots id').bindings = some bindings' → bindings'.setId = set →
      id' = id := by
    intro id' bindings' holds same
    have none := (inv.held id' bindings' holds).2.1
    rw [same, given] at none
    cases none
  unfold QueueWorld.begin
  rcases queue.begin_cases bindings w.nextId with
    ⟨error, queue', begun, left⟩ | ⟨healthy, empty, begun⟩
  · rw [begun]
    have after : IdleInv w.device (w.Broken id) queue' ∧ queue'.id = queue.id ∧
        queue'.retainedResources = queue.retainedResources := by
      rcases left with rfl | ⟨leftover, rfl⟩
      · exact ⟨idle, rfl, rfl⟩
      · exact ⟨idle.poisoned leftover, rfl, rfl⟩
    refine inv.focus id set (.idle queue') none
      ⟨rfl, rfl, le_rfl, le_rfl, fun c mem => .inl mem, fun _ _ => Iff.rfl, fun _ mem => mem⟩ owner
      (SlotInv.quieter (show SlotInv _ _ (.idle queue') from after.1) le_rfl fun _ mem => mem) (fun queue'' same => ?_)
      nofun nofun (fun _ => idLt) (fun queue'' same some => ?_) (fun release mem => ?_) (fun _ => .inl)
    · cases same
      exact ⟨after.2.1.trans idSame, idLt⟩
    · cases same
      exact inv.leftover id queue found (after.2.2 ▸ some)
    · rcases List.mem_append.mp mem with mem | mem
      · exact .inl mem
      · rw [List.mem_singleton.mp mem]
        exact .inr fun c mem uses => unused c mem (uses.trans setSame)
  · rw [begun]
    refine inv.focus id set _ none
      ⟨rfl, rfl, Nat.le_succ _, le_rfl, fun c mem => .inl mem, fun _ _ => Iff.rfl, fun _ mem => mem⟩
      owner (idle.begin healthy empty (setSame ▸ unused) w.nextId) (fun queue' same => ?_)
      (fun bindings' same => ?_) nofun (fun _ => idLt.trans (Nat.lt_succ_self _)) nofun
      (fun _ => .inl) (fun _ => .inl)
    · cases same
      exact ⟨idSame, idLt.trans (Nat.lt_succ_self _)⟩
    · cases same
      exact ⟨setSame, setLt.trans (Nat.lt_succ_self _), rfl⟩

/-- The books and the poison of a scope after a call. -/
theorem QueueInv.submit (inv : QueueInv w) {scope : CommandScope} (found : w.slots id = .scope scope)
    {s : EnqueueState} {commands : List Command}
    (launched : EnqueueState.Launched ⟨scope, w.device⟩ s commands) (acc : s.scope.Accounted)
    (event : QueueEvent) (happened : Bool)
    (failed : s.scope.queue.poisoned = s.scope.submissionError.isSome)
    (poison : w.Broken id ∨ happened = true ↔ s.scope.queue.poisoned = true) :
    QueueInv { w with
      device := s.device
      slots := Function.update w.slots id (.scope s.scope)
      events := w.events ++ noted id event happened } := by
  have live : ScopeInv w.device (w.Broken id) scope := by
    have := inv.slots id
    rwa [found] at this
  obtain ⟨idSame, idLt⟩ := inv.queueId id scope.queue (by rw [found]; rfl)
  obtain ⟨setLt, free, owner⟩ := inv.held id scope.bindings (by rw [found]; rfl)
  refine inv.focus id scope.bindings.setId (.scope s.scope) none
    ⟨rfl, ?_, le_rfl, ?_, fun c mem => ?_, fun id' ne => broken_other rfl ne,
      fun _ => List.mem_append_left _⟩ owner ?_
    (fun queue same => ?_) (fun bindings same => ?_) nofun (fun _ => idLt) nofun
    (fun release mem => ?_) (fun covered mem => ?_)
  · rw [← free, Function.update_eq_self]
  · dsimp only
    rw [launched.log, List.length_append]
    exact Nat.le_add_right _ _
  · dsimp only at mem
    rw [launched.pending] at mem
    refine (List.mem_append.mp mem).imp_right fun new => ?_
    obtain ⟨serial, le, lt, same⟩ := launched.own c new
    have serials : c.serial = serial := congrArg Command.serial same
    exact ⟨(congrArg Command.queueId same).trans idSame, congrArg Command.setId same, idLt, setLt,
      serials ▸ le, serials ▸ lt⟩
  · rw [broken_self rfl]
    exact live.enqueue launched acc failed poison
  · cases same
    exact ⟨launched.queue.trans idSame, idLt⟩
  · cases same
    exact ⟨congrArg CheckedBindings.setId launched.bindings, setLt, rfl⟩
  · dsimp only at mem
    rw [launched.releases] at mem
    exact .inl mem
  · dsimp only at mem
    rw [launched.rerecords] at mem
    exact .inl mem

theorem submitAll_poison (resources : List RetainedResource) :
    ∀ s : EnqueueState, (s.submitAll resources).scope.queue.poisoned = s.scope.queue.poisoned ∧
      (s.submitAll resources).scope.submissionError = s.scope.submissionError := by
  induction resources with
  | nil => exact fun s => ⟨rfl, rfl⟩
  | cons resource resources ih => exact fun s => ih (s.submit resource)

theorem QueueInv.enqueue (inv : QueueInv w) {scope : CommandScope} (found : w.slots id = .scope scope)
    (call : OperatorCall) (answers : Answers) : QueueInv (w.enqueue id scope call answers) := by
  have live : ScopeInv w.device (w.Broken id) scope := by
    have := inv.slots id
    rwa [found] at this
  have unchanged : w.events = w.events ++ noted id .submissionFailed false :=
    (List.append_nil _).symm
  have outcome := call.enqueueInto_enqueued answers (s := ⟨scope, w.device⟩)
  unfold QueueWorld.enqueue
  generalize call.enqueueInto answers ⟨scope, w.device⟩ = result at outcome ⊢
  cases outcome with
  | done resources _ room =>
    obtain ⟨commands, launched, length⟩ := EnqueueState.submitAll_launched resources ⟨scope, w.device⟩
    obtain ⟨poisoned, error⟩ := submitAll_poison resources ⟨scope, w.device⟩
    have acc := launched.accounted live.accounted length room
    have kept := inv.submit found launched acc .submissionFailed false
      (by rw [poisoned, error]; exact live.failed) (by rw [poisoned, live.poison]; simp)
    rwa [← unchanged] at kept
  | refused recoverable =>
    exact inv.submit found (.refl ⟨scope, w.device⟩) live.accounted _ _ live.failed
      (by rw [live.poison, recoverable]; simp)
  | failed resources reported driver room =>
    obtain ⟨commands, launched, length⟩ := EnqueueState.submitAll_launched resources ⟨scope, w.device⟩
    have launched := launched.fail reported
    exact inv.submit found launched (launched.accounted live.accounted length room) _ _ rfl
      (by rw [driver]; exact iff_of_true (.inr rfl) rfl)
  | aborted broken => exact absurd live.accounted.retained broken

theorem QueueInv.idle (inv : QueueInv w) {queue : CommandQueue} (found : w.slots id = .idle queue) :
    IdleInv w.device (w.Broken id) queue := by
  have := inv.slots id
  rwa [found] at this

section Borrowed

variable {scope : CommandScope} {completion : CommandCompletion}

theorem QueueInv.live (inv : QueueInv w) (found : w.slots id = .scope scope) :
    ScopeInv w.device (w.Broken id) scope := by
  have := inv.slots id
  rwa [found] at this

theorem QueueInv.fenced (inv : QueueInv w) (found : w.slots id = .completion completion) :
    CompletionInv w.device (w.Broken id) completion := by
  have := inv.slots id
  rwa [found] at this

theorem QueueInv.id_eq (inv : QueueInv w) (queue : CommandQueue)
    (found : (w.slots id).queue = some queue) : queue.id = id :=
  (inv.queueId id queue found).1

theorem QueueInv.finish (inv : QueueInv w) (found : w.slots id = .scope scope)
    (record : Option DriverError) : QueueInv (w.finish id scope record) := by
  have holds : (w.slots id).bindings = some scope.bindings := by rw [found]; rfl
  have same := inv.id_eq scope.queue (by rw [found]; rfl)
  refine inv.proceed (((inv.live found).finish inv.serials record).mono (fun _ _ h => h) nofun)
    fun fence d' ⟨own, queueSame, bindingsSame, log, pending, releases, rerecords⟩ => ?_
  refine inv.operate holds log (fun c mem => pending ▸ mem) own (fun queue given => ?_)
    (fun bindings given => ?_) nofun (fun release mem => .inl (releases ▸ mem)) rerecords
  · cases given
    exact queueSame.trans same
  · cases given
    exact congrArg CheckedBindings.setId bindingsSame

/-- What a settlement releases is in no pending command's use. -/
theorem released_safe {d d₁ : Device} (quieter : d.Quieter d₁) {queueId setId : Nat}
    (free : d₁.Free fun c => c.queueId = queueId ∨ c.setId = setId) :
    ∀ release ∈ (d₁.releaseBoth queueId setId).releases, release ∈ d.releases ∨ release.Safe := by
  intro release mem
  rcases List.mem_append.mp mem with mem | mem
  · rcases List.mem_append.mp mem with mem | mem
    · exact .inl (quieter.releases ▸ mem)
    · rw [List.mem_singleton.mp mem]
      exact .inr fun c pending same => free c pending (.inl same)
  · rw [List.mem_singleton.mp mem]
    exact .inr fun c pending same => free c pending (.inr same)

theorem QueueInv.dropScope (inv : QueueInv w) (found : w.slots id = .scope scope)
    (answers : SyncAnswers) : QueueInv (w.dropScope id scope answers) := by
  have holds : (w.slots id).bindings = some scope.bindings := by rw [found]; rfl
  have same := inv.id_eq scope.queue (by rw [found]; rfl)
  have live := inv.live found
  refine inv.proceed (scope.drop_ends answers w.device) ?_
  rintro ⟨error, queue⟩ d' ⟨d₁, quieter, synchronized, rfl, after⟩
  obtain rfl : queue = scope.after error := after
  have dropped := live.dropped quieter synchronized error
  have log : (d₁.releaseBoth scope.queue.id scope.bindings.setId).log = w.device.log := quieter.log
  refine inv.operate holds log quieter.pending
    (SlotInv.quieter (show SlotInv _ _ (.idle (scope.after error)) from dropped) le_rfl
      fun _ mem => mem)
    (fun queue given => ?_) nofun (fun queue given some => ?_)
    (released_safe quieter (live.free quieter synchronized))
    (fun covered mem => .inl (quieter.rerecords ▸ mem))
  · cases given
    exact same
  · cases given
    exact absurd rfl some

theorem QueueInv.forgetScope (inv : QueueInv w) (found : w.slots id = .scope scope) :
    QueueInv (w.forgetScope id scope) := by
  have holds : (w.slots id).bindings = some scope.bindings := by rw [found]; rfl
  have same := inv.id_eq scope.queue (by rw [found]; rfl)
  have idle : IdleInv w.device (w.Broken id ∨ decide (scope.submitted > 0) = true) scope.queue := by
    rw [decide_eq_true_iff]
    exact (inv.live found).forget
  refine inv.operate holds rfl (fun _ mem => mem) idle (fun queue given => ?_) nofun
    (fun queue given some => ?_) (fun _ => .inl) fun _ => .inl
  · cases given
    exact same
  · cases given
    rw [← List.length_pos_iff, (inv.live found).accounted.retained] at some
    simp [noted, some]

theorem QueueInv.isComplete (inv : QueueInv w) (found : w.slots id = .completion completion)
    (query : Except DriverError Bool) : QueueInv (w.isComplete id completion query) := by
  have holds : (w.slots id).bindings = some completion.bindings := by rw [found]; rfl
  have same := inv.id_eq completion.queue (by rw [found]; rfl)
  refine inv.proceed (((inv.fenced found).isComplete query).mono (fun _ _ h => h) nofun) ?_
  rintro ⟨answer, after⟩ d' ⟨quieter, queueSame, bindingsSame, own⟩
  refine inv.operate holds quieter.log quieter.pending own (fun queue given => ?_)
    (fun bindings given => ?_) nofun (fun release mem => .inl (quieter.releases ▸ mem))
    (fun covered mem => .inl (quieter.rerecords ▸ mem))
  · cases given
    exact (congrArg CommandQueue.id queueSame).trans same
  · cases given
    exact congrArg CheckedBindings.setId bindingsSame

/-- The queue of a completion that was settled, with its bindings destroyed. -/
theorem QueueInv.settle (inv : QueueInv w) (found : w.slots id = .completion completion)
    {failure : Option SettlementFailure} {d₁ : Device}
    (settled : Settled completion failure w.device d₁) (event : QueueEvent) :
    QueueInv { w with
      device := d₁.releaseBoth completion.queue.id completion.bindings.setId
      slots := Function.update w.slots id (.idle (completion.after failure))
      events := w.events ++ noted id event failure.isSome } := by
  have holds : (w.slots id).bindings = some completion.bindings := by rw [found]; rfl
  have same := inv.id_eq completion.queue (by rw [found]; rfl)
  have fenced := inv.fenced found
  have log : (d₁.releaseBoth completion.queue.id completion.bindings.setId).log = w.device.log :=
    settled.quieter.log
  refine inv.operate holds log settled.quieter.pending
    (SlotInv.quieter (show SlotInv _ _ (.idle (completion.after failure)) from
      fenced.settled settled) le_rfl
      fun _ mem => mem)
    (fun queue given => ?_) nofun (fun queue given some => ?_)
    (released_safe settled.quieter (fenced.free settled))
    (fun covered mem => .inl (settled.quieter.rerecords ▸ mem))
  · cases given
    cases failure <;> exact same
  · cases given
    cases failure <;> exact absurd rfl some

theorem QueueInv.dropCompletion (inv : QueueInv w) (found : w.slots id = .completion completion)
    (answers : SyncAnswers) : QueueInv (w.dropCompletion id completion answers) := by
  refine inv.proceed (completion.drop_ends answers w.device) ?_
  rintro ⟨failure, queue⟩ d' ⟨d₁, settled, rfl, after⟩
  obtain rfl : queue = completion.after failure := after
  exact inv.settle found settled .dropFailed

theorem QueueInv.forgetCompletion (inv : QueueInv w) (found : w.slots id = .completion completion) :
    QueueInv (w.forgetCompletion id completion) := by
  have holds : (w.slots id).bindings = some completion.bindings := by rw [found]; rfl
  have same := inv.id_eq completion.queue (by rw [found]; rfl)
  have idle : IdleInv w.device (w.Broken id ∨ decide (completion.submitted > 0) = true)
      completion.queue := by
    rw [decide_eq_true_iff]
    exact (inv.fenced found).forget
  refine inv.operate holds rfl (fun _ mem => mem) idle (fun queue given => ?_) nofun
    (fun queue given some => ?_) (fun _ => .inl) fun _ => .inl
  · cases given
    exact same
  · cases given
    rw [← List.length_pos_iff, (inv.fenced found).accounted] at some
    simp [noted, some]

/-- The bindings of a completion are handed back after everything that used them. -/
theorem QueueInv.wait (inv : QueueInv w) (found : w.slots id = .completion completion)
    (answers : SyncAnswers) : QueueInv (w.wait id completion answers) := by
  refine inv.proceed (completion.wait_ends answers w.device) ?_
  rintro ⟨result, queue⟩ d' ⟨failure, d₁, settled, rfl, rfl, outcome⟩
  cases result with
  | error error =>
    have kept := inv.settle found settled .settleFailed
    rw [show failure.isSome = true from outcome] at kept
    exact kept
  | ok bindings =>
    obtain ⟨rfl, rfl⟩ := outcome
    have kept := inv.settle found settled .settleFailed
    have unchanged : w.events ++ noted id .settleFailed (none : Option SettlementFailure).isSome =
        w.events := List.append_nil _
    rw [unchanged] at kept
    have holds : (w.slots id).bindings = some completion.bindings := by rw [found]; rfl
    obtain ⟨setLt, free, owner⟩ := inv.held id completion.bindings holds
    have idle := kept.slots id
    dsimp only at idle
    rw [Function.update_self] at idle
    refine kept.focus id completion.bindings.setId (.idle (completion.after none))
      (some completion.bindings)
      ⟨?_, rfl, le_rfl, le_rfl, fun c mem => .inl mem, fun _ _ => Iff.rfl, fun _ mem => mem⟩
      (fun id' bindings' given same => ?_) idle (fun queue given => ?_) nofun (fun bindings' given => ?_)
      (kept.events id) (fun queue given some => ?_) (fun _ => .inl) (fun _ => .inl)
    · simp only [Function.update_idem]
    · exact absurd same fun same => by
        rcases eq_or_ne id' id with rfl | ne
        · simp [Slot.bindings] at given
        · simp only [Function.update_of_ne ne] at given
          exact ne (owner id' bindings' given same)
    · refine kept.queueId id queue ?_
      dsimp only
      rwa [Function.update_self]
    · cases given
      exact ⟨rfl, setLt, fun c mem uses => (inv.fenced found).free settled c mem (.inr uses)⟩
    · cases given
      exact absurd rfl some

end Borrowed

theorem QueueInv.dropQueue (inv : QueueInv w) {queue : CommandQueue} (found : w.slots id = .idle queue)
    (answers : SyncAnswers) : QueueInv (w.dropQueue id queue answers) := by
  have idle := inv.idle found
  refine inv.proceed (queue.drop_ends answers w.device) fun _ d' dropped => ?_
  have gone : d'.log = w.device.log ∧ (∀ c ∈ d'.pending, c ∈ w.device.pending) ∧
      (∀ release ∈ d'.releases, release ∈ w.device.releases ∨ release.Safe) ∧
      d'.rerecords = w.device.rerecords := by
    rcases dropped with rfl | ⟨d₁, quieter, synchronized, rfl⟩
    · exact ⟨rfl, fun _ mem => mem, fun _ => .inl, rfl⟩
    · refine ⟨quieter.log, quieter.pending, fun release mem => ?_, quieter.rerecords⟩
      rcases List.mem_append.mp mem with mem | mem
      · exact .inl (quieter.releases ▸ mem)
      · rw [List.mem_singleton.mp mem]
        exact .inr fun c pending own => idle.free quieter synchronized c pending own
  obtain ⟨log, pending, releases, rerecords⟩ := gone
  refine inv.focus id w.nextId .gone none
    ⟨rfl, ?_, le_rfl, (congrArg List.length log).ge, fun c mem => .inl (pending c mem),
      fun _ _ => Iff.rfl, fun _ mem => mem⟩
    (fun id' bindings holds same => ?_) trivial nofun nofun nofun (inv.events id) nofun releases
    (fun covered mem => .inl (rerecords ▸ mem))
  · rw [← inv.hand_fresh le_rfl, Function.update_eq_self]
  · have := (inv.held id' bindings holds).1
    omega

theorem QueueInv.step (inv : QueueInv w) (action : QueueAction) : QueueInv (w.step action) := by
  unfold QueueWorld.step
  split
  · exact inv
  · cases action with
    | newQueue stream maxCommands eventError => exact inv.newQueue stream maxCommands eventError
    | newBindings id capacity =>
      dsimp only
      split
      · rename_i found
        exact inv.newBindings found capacity
      · exact inv
    | bindRead set buffer =>
      refine inv.edit set fun bindings => ?_
      rcases bindings.bindRead_cases buffer with ⟨error, bound⟩ | ⟨-, bound⟩
      · rw [bound]
      · rw [bound]
        rfl
    | bindReadWrite set buffer =>
      refine inv.edit set fun bindings => ?_
      rcases bindings.bindReadWrite_cases buffer with ⟨error, bound⟩ | ⟨-, bound⟩
      · rw [bound]
      · rw [bound]
        rfl
    | take set handle =>
      refine inv.edit set fun bindings => ?_
      cases taken : bindings.takeReadWrite handle with
      | mk result after =>
        cases result with
        | ok buffer =>
          obtain ⟨-, -, -, rfl⟩ := CheckedBindings.takeReadWrite_ok taken
          rfl
        | error error =>
          obtain rfl := CheckedBindings.takeReadWrite_error taken
          rfl
    | dropBindings set =>
      dsimp only
      split
      · rename_i given
        exact inv.dropBindings given
      · exact inv
    | begin id set =>
      dsimp only
      split
      · rename_i found given
        exact inv.begin found given
      · exact inv
    | enqueue id call answers =>
      dsimp only
      split
      · rename_i found
        exact inv.enqueue found call answers
      · exact inv
    | finish id record =>
      dsimp only
      split
      · rename_i found
        exact inv.finish found record
      · exact inv
    | dropScope id answers =>
      dsimp only
      split
      · rename_i found
        exact inv.dropScope found answers
      · exact inv
    | forgetScope id =>
      dsimp only
      split
      · rename_i found
        exact inv.forgetScope found
      · exact inv
    | isComplete id query =>
      dsimp only
      split
      · rename_i found
        exact inv.isComplete found query
      · exact inv
    | wait id answers =>
      dsimp only
      split
      · rename_i found
        exact inv.wait found answers
      · exact inv
    | dropCompletion id answers =>
      dsimp only
      split
      · rename_i found
        exact inv.dropCompletion found answers
      · exact inv
    | forgetCompletion id =>
      dsimp only
      split
      · rename_i found
        exact inv.forgetCompletion found
      · exact inv
    | dropQueue id answers =>
      dsimp only
      split
      · rename_i found
        exact inv.dropQueue found answers
      · exact inv

theorem QueueInv.start : QueueInv .start where
  serials := nofun
  drawn := nofun
  slots _ := trivial
  queueId := nofun
  hand := nofun
  held := nofun
  events _ broken := absurd broken.choose_spec List.not_mem_nil
  leftover := nofun
  releases := nofun
  rerecords := nofun

theorem QueueInv.run (actions : List QueueAction) : QueueInv (run QueueWorld.step .start actions) :=
  run_invariant .start (fun _ action inv => inv.step action) actions

end World

/-- In every run, with every outcome of every driver call: when the retained resources of a queue are
cleared, or bindings are handed back or destroyed, no submitted command that uses them is pending. -/
theorem releases_quiescent (actions : List QueueAction) :
    ∀ release ∈ (run QueueWorld.step .start actions).device.releases, release.Safe :=
  (QueueInv.run actions).releases

/-- A queue, a set of bindings with three floats, and a normalization over them in a scope. -/
def submitActions : List QueueAction :=
  [.newQueue ⟨3, ⟨7, 0⟩⟩ 4 none, .newBindings 1 3, .bindRead 2 ⟨1, .f32, ⟨7, 0⟩, 1, 4096⟩,
    .bindRead 2 ⟨2, .f32, ⟨7, 0⟩, 1, 8192⟩, .bindReadWrite 2 ⟨3, .f32, ⟨7, 0⟩, 1, 12288⟩, .begin 1 2,
    .enqueue 1 (oneFloatRmsNorm 2) noFailures]

/-- A completion whose event record failed is waited for: the stream is synchronized first. -/
def waitActions : List QueueAction :=
  submitActions ++ [.finish 1 (some ⟨1⟩), .wait 1 ⟨none, none, none⟩]

theorem releases_quiescent_wait :
    ∃ release ∈ (run QueueWorld.step .start waitActions).device.releases, release.Safe := by
  have ended : ((run QueueWorld.step .start waitActions).device.releases[0]?).isSome := by decide
  obtain ⟨release, found⟩ := Option.isSome_iff_exists.mp ended
  have mem := List.mem_of_getElem? found
  exact ⟨release, mem, releases_quiescent waitActions release mem⟩

end LoomKernels
