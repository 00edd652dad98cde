import Mathlib.Data.List.Nodup
import LoomKernels.Command.Submission

/-!
# Runs of binding arenas

Any number of queues and binding sets, with the writable buffers that the caller still holds and a
record of every handle that was given out. A caller binds buffers, takes them back and keeps copies of
its handles for as long as it likes; the sets draw their ids from a counter that queues and scopes draw
from as well. Resolving handles changes nothing and may happen in any state.

`ArenaInv` says that every writable buffer is in one place and that the slot of every handle holds the
handle's buffer or, after a take, nothing (`arena_sound`).
-/

namespace LoomKernels

/-! ## States and actions -/

/-- A handle that was given out, and the buffer it was given out for. -/
structure Issue where
  handle : Handle
  writable : Bool
  buffer : DeviceBuffer
  deriving DecidableEq, Repr

structure ArenaWorld where
  nextId : Nat
  queues : List CommandQueue
  sets : List CheckedBindings
  hand : List DeviceBuffer
  issued : List Issue
  deriving DecidableEq, Repr

inductive ArenaAction where
  | newQueue (stream : CudaStream) (maxCommands : Nat) (eventError : Option DriverError)
  | newBindings (queue capacity : Nat)
  /-- An id drawn for a scope. -/
  | scopeId
  | bindRead (set : Nat) (buffer : DeviceBuffer)
  | bindReadWrite (set : Nat) (buffer : DeviceBuffer)
  | take (set : Nat) (handle : ReadWrite)
  deriving DecidableEq, Repr

namespace ArenaWorld

/-- The process starts with the counter at one. -/
def start (hand : List DeviceBuffer) : ArenaWorld := ⟨1, [], [], hand, []⟩

variable (w : ArenaWorld)

/-- The handle of an operand was given out for a buffer, for writing if the operand writes. -/
def IssuedFor (operand : Operand) (buffer : DeviceBuffer) : Prop :=
  ∃ issue ∈ w.issued, issue.handle = operand.handle ∧ issue.buffer = buffer ∧
    match operand with
    | .read _ => True
    | .write _ => issue.writable = true

/-- The caller has a read-write handle only from a bind. -/
def holdsReadWrite (handle : ReadWrite) : Bool :=
  w.issued.any fun issue => issue.handle = handle.toHandle ∧ issue.writable

/-- An action whose queue, set, buffer or handle does not exist is not one the caller can take. -/
def step : ArenaAction → ArenaWorld
  | .newQueue stream maxCommands eventError =>
    match CommandQueue.new stream maxCommands eventError w.nextId with
    | (some (.ok queue), nextId) => { w with nextId, queues := w.queues ++ [queue] }
    | (_, nextId) => { w with nextId }
  | .newBindings queue capacity =>
    match w.queues[queue]? with
    | none => w
    | some queue =>
      match queue.newBindings capacity w.nextId with
      | (.ok bindings, nextId) => { w with nextId, sets := w.sets ++ [bindings] }
      | (.error _, nextId) => { w with nextId }
  | .scopeId => { w with nextId := (freshId w.nextId).2 }
  | .bindRead set buffer =>
    match w.sets[set]? with
    | none => w
    | some bindings =>
      match bindings.bindRead buffer with
      | (.ok handle, after) =>
        { w with
          sets := w.sets.set set after
          issued := w.issued ++ [⟨handle.toHandle, false, buffer⟩] }
      | (.error _, after) => { w with sets := w.sets.set set after }
  | .bindReadWrite set buffer =>
    if buffer ∈ w.hand then
      match w.sets[set]? with
      | none => w
      | some bindings =>
        match bindings.bindReadWrite buffer with
        | (.ok handle, after) =>
          { w with
            sets := w.sets.set set after
            hand := w.hand.erase buffer
            issued := w.issued ++ [⟨handle.toHandle, true, buffer⟩] }
        | (.error failure, after) =>
          { w with
            sets := w.sets.set set after
            hand := failure.resource :: w.hand.erase buffer }
    else w
  | .take set handle =>
    if w.holdsReadWrite handle then
      match w.sets[set]? with
      | none => w
      | some bindings =>
        match bindings.takeReadWrite handle with
        | (.ok buffer, after) =>
          { w with sets := w.sets.set set after, hand := buffer :: w.hand }
        | (.error _, after) => { w with sets := w.sets.set set after }
    else w

end ArenaWorld

/-! ## Invariant -/

/-- The writable buffer of a lease. -/
def Lease.owned : Lease → List DeviceBuffer
  | .occupied _ (.readWrite buffer) => [buffer]
  | _ => []

/-- The writable buffers of a set. -/
def CheckedBindings.owned (bindings : CheckedBindings) : List DeviceBuffer :=
  bindings.leases.flatMap Lease.owned

/-- The writable buffers, one entry for each place that holds one. -/
def ArenaWorld.places (w : ArenaWorld) : List DeviceBuffer :=
  w.hand ++ w.sets.flatMap CheckedBindings.owned

/-- The lease that an issued handle stands for. -/
def Issue.lease (issue : Issue) : Lease :=
  .occupied issue.handle.element
    (if issue.writable then .readWrite issue.buffer else .read issue.buffer)

/-- A set still holds what it issued a handle for, or nothing after a take. -/
structure CheckedBindings.Holds (bindings : CheckedBindings) (issue : Issue) : Prop where
  set : issue.handle.setId = bindings.setId
  slot : issue.handle.slot < bindings.leases.length
  lease : bindings.lease issue.handle.slot = issue.lease ∨
    bindings.lease issue.handle.slot = .vacant

structure ArenaInv (initial : List DeviceBuffer) (w : ArenaWorld) : Prop where
  placed : w.places.Perm initial
  ids : (w.sets.map (·.setId)).Nodup
  drawn : ∀ bindings ∈ w.sets, bindings.setId < w.nextId
  capacity : ∀ bindings ∈ w.sets, bindings.leases.length ≤ bindings.capacity
  held : ∀ issue ∈ w.issued, ∃ bindings ∈ w.sets, bindings.Holds issue
  distinct : ∀ issue ∈ w.issued, ∀ issue' ∈ w.issued,
    issue.handle.setId = issue'.handle.setId → issue.handle.slot = issue'.handle.slot →
      issue = issue'

/-! ### One set changes -/

/-- Exchanging one element of a list exchanges what it contributes. -/
theorem flatMap_set_perm {α β : Type} {f : α → List β} {xs : List α} {i : Nat} {x y : α}
    (found : xs[i]? = some x) {taken given : List β} (h : (taken ++ f y).Perm (given ++ f x)) :
    (taken ++ (xs.set i y).flatMap f).Perm (given ++ xs.flatMap f) := by
  induction xs generalizing i with
  | nil => simp at found
  | cons z xs ih =>
    cases i with
    | zero =>
      obtain rfl : z = x := by simpa using found
      simp only [List.set_cons_zero, List.flatMap_cons, ← List.append_assoc]
      exact h.append_right _
    | succ i =>
      have rest := ih (i := i) (by simpa using found)
      simp only [List.set_cons_succ, List.flatMap_cons]
      have front := List.perm_append_comm_assoc taken (f z) ((xs.set i y).flatMap f)
      have back := List.perm_append_comm_assoc (f z) given (xs.flatMap f)
      exact front.trans ((rest.append_left _).trans back)

theorem set_self_of_getElem? {α : Type} {xs : List α} {i : Nat} {x : α} (found : xs[i]? = some x) :
    xs.set i x = xs := by
  obtain ⟨inside, rfl⟩ := List.getElem?_eq_some_iff.mp found
  exact List.set_getElem_self inside

section Replace

variable {initial : List DeviceBuffer} {w : ArenaWorld} {i : Nat}
  {bindings after : CheckedBindings}

/-- One set changes, and with it what the caller holds. -/
theorem ArenaInv.replace (inv : ArenaInv initial w) (found : w.sets[i]? = some bindings)
    (after : CheckedBindings) (id : after.setId = bindings.setId) (capacity : after.leases.length ≤ after.capacity)
    (holds : ∀ issue, bindings.Holds issue → after.Holds issue) {hand : List DeviceBuffer}
    (moved : (hand ++ after.owned).Perm (w.hand ++ bindings.owned)) :
    ArenaInv initial { w with sets := w.sets.set i after, hand } where
  placed := (flatMap_set_perm found moved).trans inv.placed
  ids := by
    have same : (w.sets.set i after).map (·.setId) = w.sets.map (·.setId) := by
      rw [List.map_set]
      exact set_self_of_getElem? (by rw [List.getElem?_map, found, id]; rfl)
    rw [same]
    exact inv.ids
  drawn b mem := by
    rcases List.mem_or_eq_of_mem_set mem with mem | rfl
    · exact inv.drawn b mem
    · rw [id]
      exact inv.drawn bindings (List.mem_of_getElem? found)
  capacity b mem := by
    rcases List.mem_or_eq_of_mem_set mem with mem | rfl
    · exact inv.capacity b mem
    · exact capacity
  held issue mem := by
    obtain ⟨b, hb, held⟩ := inv.held issue mem
    obtain ⟨j, hj⟩ := List.mem_iff_getElem?.mp hb
    by_cases hij : i = j
    · subst hij
      obtain rfl : bindings = b := Option.some.inj (found.symm.trans hj)
      exact ⟨after, List.mem_of_getElem? (List.getElem?_set_self (List.getElem?_eq_some_iff.mp
        found).1), holds issue held⟩
    · exact ⟨b, List.mem_of_getElem? ((List.getElem?_set_ne hij).trans hj), held⟩
  distinct := inv.distinct

/-- Two sets with one id are one set. -/
theorem ArenaInv.set_unique (inv : ArenaInv initial w) {b b' : CheckedBindings} (hb : b ∈ w.sets)
    (hb' : b' ∈ w.sets) (id : b.setId = b'.setId) : b = b' :=
  List.inj_on_of_nodup_map inv.ids hb hb' id

/-- The slot of a handle is a slot of its set. -/
theorem ArenaInv.issued_lt (inv : ArenaInv initial w) (mem : bindings ∈ w.sets) {issue : Issue}
    (issued : issue ∈ w.issued) (set : issue.handle.setId = bindings.setId) :
    bindings.Holds issue := by
  obtain ⟨b, hb, held⟩ := inv.held issue issued
  obtain rfl := inv.set_unique hb mem (held.set.symm.trans set)
  exact held

/-- A new handle, for a slot no handle was given out for. -/
theorem ArenaInv.issue (inv : ArenaInv initial w) {issue : Issue} (mem : bindings ∈ w.sets)
    (held : bindings.Holds issue)
    (fresh : ∀ old ∈ w.issued, old.handle.setId = issue.handle.setId →
      old.handle.slot ≠ issue.handle.slot) :
    ArenaInv initial { w with issued := w.issued ++ [issue] } where
  placed := inv.placed
  ids := inv.ids
  drawn := inv.drawn
  capacity := inv.capacity
  held e he := by
    rcases List.mem_append.mp he with he | he
    · exact inv.held e he
    · obtain rfl := List.mem_singleton.mp he
      exact ⟨bindings, mem, held⟩
  distinct e he e' he' set slot := by
    rcases List.mem_append.mp he with old | new <;> rcases List.mem_append.mp he' with old' | new'
    · exact inv.distinct e old e' old' set slot
    · obtain rfl := List.mem_singleton.mp new'
      exact absurd slot (fresh e old set)
    · obtain rfl := List.mem_singleton.mp new
      exact absurd slot.symm (fresh e' old' set.symm)
    · rw [List.mem_singleton.mp new, List.mem_singleton.mp new']

end Replace

/-! ### Every action -/

namespace CheckedBindings

variable {bindings : CheckedBindings} {issue : Issue}

theorem lease_push {lease : Lease} {slot : Nat} (h : slot < bindings.leases.length) :
    (bindings.push lease).lease slot = bindings.lease slot := by
  simp [CheckedBindings.lease, push, List.getElem?_append_left h]

theorem lease_push_self (lease : Lease) :
    (bindings.push lease).lease bindings.leases.length = lease := by
  simp [CheckedBindings.lease, push]

/-- Old handles keep their leases when one is added. -/
theorem Holds.push (held : bindings.Holds issue) (lease : Lease) :
    (bindings.push lease).Holds issue where
  set := held.set
  slot := by
    have := held.slot
    simp only [CheckedBindings.push, List.length_append]
    omega
  lease := by
    rw [lease_push held.slot]
    exact held.lease

/-- A vacated slot is vacant, and the others keep their leases. -/
theorem Holds.vacate (held : bindings.Holds issue) (slot : Nat) :
    (bindings.setLease slot .vacant).Holds issue where
  set := held.set
  slot := by
    have := held.slot
    simpa [setLease] using this
  lease := by
    by_cases h : slot = issue.handle.slot
    · right
      subst h
      simp [CheckedBindings.lease, setLease, held.slot]
    · have same : (bindings.setLease slot .vacant).lease issue.handle.slot =
          bindings.lease issue.handle.slot := by
        simp [CheckedBindings.lease, setLease, List.getElem?_set_ne h]
      rw [same]
      exact held.lease

theorem owned_push (lease : Lease) : (bindings.push lease).owned = bindings.owned ++ lease.owned := by
  simp [owned, CheckedBindings.push]

/-- A vacated slot gives up its writable buffer. -/
theorem owned_vacate {slot : Nat} {element : Element} {buffer : DeviceBuffer}
    (range : slot < bindings.leases.length)
    (lease : bindings.lease slot = .occupied element (.readWrite buffer)) :
    (buffer :: (bindings.setLease slot .vacant).owned).Perm bindings.owned := by
  have found : bindings.leases[slot]? = some (.occupied element (.readWrite buffer)) := by
    rw [List.getElem?_eq_getElem range, ← lease, CheckedBindings.lease,
      List.getD_eq_getElem?_getD, List.getElem?_eq_getElem range]
    rfl
  have moved : ([buffer] ++ Lease.owned .vacant).Perm
      ([] ++ Lease.owned (.occupied element (.readWrite buffer))) := List.Perm.refl _
  exact flatMap_set_perm found moved

end CheckedBindings

section Step

variable {initial : List DeviceBuffer} {w : ArenaWorld}

/-- The counter may have moved on. -/
theorem ArenaInv.draw (inv : ArenaInv initial w) {nextId : Nat} (later : w.nextId ≤ nextId)
    (queues : List CommandQueue) : ArenaInv initial { w with nextId, queues } where
  placed := inv.placed
  ids := inv.ids
  drawn b mem := (inv.drawn b mem).trans_le later
  capacity := inv.capacity
  held := inv.held
  distinct := inv.distinct

/-- A new set, under an id that none has. -/
theorem ArenaInv.add (inv : ArenaInv initial w) (queue : CommandQueue) (capacity : Nat) :
    ArenaInv initial { w with
      nextId := w.nextId + 1
      sets := w.sets ++ [⟨queue.id, w.nextId, queue.stream, [], capacity⟩] } where
  placed := by
    have empty : CheckedBindings.owned ⟨queue.id, w.nextId, queue.stream, [], capacity⟩ = [] := rfl
    simpa [ArenaWorld.places, empty] using inv.placed
  ids := by
    simp only [List.map_append, List.map_cons, List.map_nil]
    refine List.nodup_append.mpr ⟨inv.ids, by simp, fun id mem id' mem' same => ?_⟩
    obtain ⟨b, hb, rfl⟩ := List.mem_map.mp mem
    have := inv.drawn b hb
    obtain rfl := List.mem_singleton.mp mem'
    omega
  drawn b mem := by
    rcases List.mem_append.mp mem with mem | mem
    · exact (inv.drawn b mem).trans (Nat.lt_succ_self _)
    · obtain rfl := List.mem_singleton.mp mem
      exact Nat.lt_succ_self _
  capacity b mem := by
    rcases List.mem_append.mp mem with mem | mem
    · exact inv.capacity b mem
    · obtain rfl := List.mem_singleton.mp mem
      exact Nat.zero_le _
  held issue mem := by
    obtain ⟨b, hb, held⟩ := inv.held issue mem
    exact ⟨b, List.mem_append_left _ hb, held⟩
  distinct := inv.distinct

/-- A new lease and the handle for it. -/
theorem ArenaInv.bind (inv : ArenaInv initial w) {i : Nat} {bindings : CheckedBindings}
    (found : w.sets[i]? = some bindings) (free : bindings.leases.length ≠ bindings.capacity)
    (issue : Issue) (set : issue.handle.setId = bindings.setId)
    (slot : issue.handle.slot = bindings.leases.length) {hand : List DeviceBuffer}
    (moved : (hand ++ issue.lease.owned).Perm w.hand) :
    ArenaInv initial { w with
      sets := w.sets.set i (bindings.push issue.lease), hand, issued := w.issued ++ [issue] } := by
  have mem := List.mem_of_getElem? found
  have room := inv.capacity bindings mem
  have replaced := inv.replace found (bindings.push issue.lease) rfl
    (by simp only [CheckedBindings.push, List.length_append, List.length_singleton]; omega)
    (fun _ held => held.push _) (show (hand ++ (bindings.push issue.lease).owned).Perm _ by
      rw [CheckedBindings.owned_push]
      have := moved.append_right bindings.owned
      rw [List.append_assoc] at this
      exact (List.perm_append_comm.append_left hand).trans this)
  have pushed : bindings.push issue.lease ∈ w.sets.set i (bindings.push issue.lease) :=
    List.mem_of_getElem? (List.getElem?_set_self (List.getElem?_eq_some_iff.mp found).1)
  refine replaced.issue pushed ⟨set, ?_, .inl ?_⟩ fun old issued same => ?_
  · rw [slot]
    simp [CheckedBindings.push]
  · rw [slot, CheckedBindings.lease_push_self]
  · have := (inv.issued_lt mem issued (same.trans set)).slot
    omega

theorem ArenaInv.step (inv : ArenaInv initial w) (action : ArenaAction) :
    ArenaInv initial (w.step action) := by
  cases action with
  | newQueue stream maxCommands eventError =>
    have later := CommandQueue.new_nextId stream maxCommands eventError w.nextId
    simp only [ArenaWorld.step]
    split
    all_goals
      rename_i created
      rw [created] at later
      exact inv.draw later _
  | newBindings queue capacity =>
    simp only [ArenaWorld.step]
    split
    · exact inv
    · rename_i queue _
      rcases queue.newBindings_cases capacity w.nextId with ⟨error, made⟩ | made
      · simp only [made]
        exact inv
      · simp only [made]
        exact inv.add queue capacity
  | scopeId =>
    rcases freshId_cases w.nextId with draw | draw
    all_goals
      simp only [ArenaWorld.step, draw]
      exact inv.draw (by omega) _
  | bindRead set buffer =>
    simp only [ArenaWorld.step]
    split
    · exact inv
    · rename_i bindings found
      rcases bindings.bindRead_cases buffer with ⟨error, bound⟩ | ⟨free, bound⟩
      · simp only [bound, set_self_of_getElem? found]
        exact inv
      · simp only [bound]
        exact inv.bind found free ⟨⟨bindings.setId, _, buffer.element⟩, false, buffer⟩ rfl
          rfl (by simp [Issue.lease, Lease.owned])
  | bindReadWrite set buffer =>
    simp only [ArenaWorld.step]
    split
    · rename_i mem
      split
      · exact inv
      · rename_i bindings found
        have taken := (List.perm_cons_erase mem).symm
        rcases bindings.bindReadWrite_cases buffer with ⟨error, bound⟩ | ⟨free, bound⟩
        · simp only [bound]
          exact inv.replace found _ rfl (inv.capacity _ (List.mem_of_getElem? found))
            (fun _ held => held) (taken.append_right _)
        · simp only [bound]
          refine inv.bind found free ⟨⟨bindings.setId, _, buffer.element⟩, true, buffer⟩
            rfl rfl ?_
          exact (List.perm_append_singleton buffer (w.hand.erase buffer)).trans taken
    · exact inv
  | take set handle =>
    simp only [ArenaWorld.step]
    split
    · split
      · exact inv
      · rename_i bindings found
        split
        · rename_i buffer after taken
          obtain ⟨-, range, lease, rfl⟩ := CheckedBindings.takeReadWrite_ok taken
          refine inv.replace found (bindings.setLease handle.slot .vacant) rfl ?_
            (fun _ held => held.vacate _) ?_
          · simpa [CheckedBindings.setLease] using inv.capacity _ (List.mem_of_getElem? found)
          · have moved := CheckedBindings.owned_vacate range lease
            exact List.perm_middle.symm.trans (moved.append_left w.hand)
        · rename_i error after taken
          obtain rfl := CheckedBindings.takeReadWrite_error taken
          rw [set_self_of_getElem? found]
          exact inv
    · exact inv

theorem ArenaInv.start (initial : List DeviceBuffer) : ArenaInv initial (.start initial) where
  placed := by simp [ArenaWorld.places, ArenaWorld.start]
  ids := by simp [ArenaWorld.start]
  drawn := by simp [ArenaWorld.start]
  capacity := by simp [ArenaWorld.start]
  held := by simp [ArenaWorld.start]
  distinct := by simp [ArenaWorld.start]

end Step

/-! ## What a caller sees -/

section Caller

variable {initial : List DeviceBuffer} {w : ArenaWorld} {bindings : CheckedBindings}

/-- The handle of an operand was given out for one buffer. -/
theorem ArenaInv.issuedFor_unique (inv : ArenaInv initial w) {operand : Operand}
    {buffer buffer' : DeviceBuffer} (issued : w.IssuedFor operand buffer)
    (issued' : w.IssuedFor operand buffer') : buffer = buffer' := by
  obtain ⟨issue, mem, same, rfl, -⟩ := issued
  obtain ⟨issue', mem', same', rfl, -⟩ := issued'
  rw [inv.distinct issue mem issue' mem' (by rw [same, same']) (by rw [same, same'])]

/-- What an operand finds in its slot: the buffer it was issued for, or a vacant slot. -/
theorem ArenaInv.borrow (inv : ArenaInv initial w) (mem : bindings ∈ w.sets) {operand : Operand}
    {buffer : DeviceBuffer} (issued : w.IssuedFor operand buffer)
    (own : operand.handle.setId = bindings.setId) :
    operand.handle.slot < bindings.leases.length ∧
      (operand.borrow (bindings.lease operand.handle.slot) = .ok buffer ∨
        operand.borrow (bindings.lease operand.handle.slot) =
          .error (.bindingSlotVacant operand.handle.slot)) := by
  obtain ⟨issue, issued, same, rfl, writable⟩ := issued
  obtain ⟨-, range, lease⟩ := inv.issued_lt mem issued (by rw [same, own])
  rw [same] at range lease
  refine ⟨range, lease.imp (fun occupied => ?_) fun vacant => ?_⟩
  · rw [occupied, Issue.lease, same]
    cases operand with
    | read handle =>
      cases issue.writable <;>
        simp [Operand.borrow, Operand.handle, Element.read, Except.mapError]
    | write handle =>
      simp only at writable
      simp [Operand.borrow, Operand.handle, Element.write, Except.mapError, writable]
  · rw [vacant]
    cases operand <;> rfl

/-- Resolving issued handles yields their buffers; with handles of this set it can fail only because
an operand is repeated or was taken. -/
theorem ArenaInv.resolve (inv : ArenaInv initial w) (mem : bindings ∈ w.sets)
    {operands : List Operand}
    (issued : ∀ operand ∈ operands, ∃ buffer, w.IssuedFor operand buffer) :
    (∀ buffers, bindings.resolve operands = .ok buffers →
      List.Forall₂ w.IssuedFor operands buffers) ∧
    (∀ error, bindings.resolve operands = .error error →
      (∀ operand ∈ operands, operand.handle.setId = bindings.setId) →
      error = .duplicateBindingSlot ∨ ∃ slot, error = .bindingSlotVacant slot) := by
  refine ⟨fun buffers resolved => ?_, fun error failed own => ?_⟩
  · obtain ⟨own, -, borrowed⟩ := CheckedBindings.resolve_eq_ok.mp resolved
    refine ((List.forall₂_and_left _ _).mpr ⟨fun o ho => And.intro (issued o ho) (own o ho).1,
      borrowed⟩).imp fun operand buffer found => ?_
    obtain ⟨⟨⟨buffer', issuedFor⟩, own⟩, found⟩ := found
    rcases (inv.borrow mem issuedFor own).2 with held | vacant
    · obtain rfl : buffer' = buffer := Except.ok.inj (held.symm.trans found)
      exact issuedFor
    · rw [vacant] at found
      cases found
  · have borrows := fun operand ho => inv.borrow mem (issued operand ho).choose_spec (own operand ho)
    rcases CheckedBindings.resolve_error (fun o ho => ⟨own o ho, (borrows o ho).1⟩) failed with
      duplicate | ⟨operand, ho, found⟩
    · exact .inl duplicate
    · rcases (borrows operand ho).2 with held | vacant
      · rw [held] at found
        cases found
      · exact .inr ⟨_, (Except.error.inj (vacant.symm.trans found)).symm⟩

/-- Taking an issued handle yields its buffer; with a handle of this set it can fail only because the
buffer was taken before. -/
theorem ArenaInv.take (inv : ArenaInv initial w) (mem : bindings ∈ w.sets) {handle : ReadWrite}
    {issuedBuffer : DeviceBuffer} (issued : w.IssuedFor (.write handle.write) issuedBuffer) :
    (∀ buffer after, bindings.takeReadWrite handle = (.ok buffer, after) →
      w.IssuedFor (.write handle.write) buffer) ∧
    (∀ error after, bindings.takeReadWrite handle = (.error error, after) →
      handle.setId = bindings.setId → error = .bindingSlotVacant handle.slot) := by
  refine ⟨fun buffer after taken => ?_, fun error after failed own => ?_⟩
  · obtain ⟨own, -, lease, -⟩ := CheckedBindings.takeReadWrite_ok taken
    obtain ⟨-, found⟩ := inv.borrow mem issued own
    simp only [Operand.handle, ReadWrite.write, lease, Operand.borrow, Element.write, if_true,
      Except.mapError, Except.ok.injEq, reduceCtorEq, or_false] at found
    exact found ▸ issued
  · obtain ⟨issue, issued, same, rfl, writable⟩ := issued
    obtain ⟨-, range, lease⟩ := inv.issued_lt mem issued (by rw [same]; exact own)
    simp only at writable
    rw [Issue.lease, same, writable, if_pos rfl] at lease
    rw [same] at range
    simp only [Operand.handle, ReadWrite.write] at range lease
    rw [CheckedBindings.takeReadWrite, if_neg (not_not.mpr own), if_neg (Nat.not_le.mpr range),
      CheckedBindings.takeSlot] at failed
    rcases lease with held | vacant
    · simp [held] at failed
    · rw [vacant] at failed
      exact (Except.error.inj (Prod.mk.inj failed).1).symm

end Caller

/-- In every state of every run: each writable buffer is in one place, a handle resolves to the buffer
it was given out for or to an error, handles of a set find their own type, mode and range in it,
failed binds and takes change nothing, and no set outgrows its capacity. -/
theorem arena_sound (initial : List DeviceBuffer) (distinct : initial.Nodup)
    (actions : List ArenaAction) {w : ArenaWorld}
    (reached : w = run ArenaWorld.step (.start initial) actions) :
    (∀ buffer, w.places.count buffer = if buffer ∈ initial then 1 else 0) ∧
    (∀ operand buffer buffer', w.IssuedFor operand buffer → w.IssuedFor operand buffer' →
      buffer = buffer') ∧
    ∀ bindings ∈ w.sets,
      bindings.leases.length ≤ bindings.capacity ∧
      (∀ operands : List Operand, (∀ operand ∈ operands, ∃ buffer, w.IssuedFor operand buffer) →
        (∀ buffers, bindings.resolve operands = .ok buffers →
          List.Forall₂ w.IssuedFor operands buffers) ∧
        (∀ error, bindings.resolve operands = .error error →
          (∀ operand ∈ operands, operand.handle.setId = bindings.setId) →
          error = .duplicateBindingSlot ∨ ∃ slot, error = .bindingSlotVacant slot)) ∧
      (∀ handle : ReadWrite, (∃ buffer, w.IssuedFor (.write handle.write) buffer) →
        (∀ buffer after, bindings.takeReadWrite handle = (.ok buffer, after) →
          w.IssuedFor (.write handle.write) buffer) ∧
        (∀ error after, bindings.takeReadWrite handle = (.error error, after) →
          after = bindings ∧
          (handle.setId = bindings.setId → error = .bindingSlotVacant handle.slot))) ∧
      (∀ buffer failure after, bindings.bindRead buffer = (.error failure, after) →
        after = bindings ∧ failure.resource = buffer) ∧
      (∀ buffer failure after, bindings.bindReadWrite buffer = (.error failure, after) →
        after = bindings ∧ failure.resource = buffer) := by
  have inv : ArenaInv initial w := by
    subst reached
    exact run_invariant (.start initial) (fun _ action inv => inv.step action) actions
  refine ⟨fun buffer => ?_, fun _ _ _ => inv.issuedFor_unique, fun bindings mem =>
    ⟨inv.capacity bindings mem, fun operands issued => inv.resolve mem issued,
      fun handle ⟨_, issued⟩ => ⟨(inv.take mem issued).1, fun error after failed =>
        ⟨CheckedBindings.takeReadWrite_error failed, (inv.take mem issued).2 error after failed⟩⟩,
      fun buffer failure after failed => ?_, fun buffer failure after failed => ?_⟩⟩
  · rw [inv.placed.count_eq]
    split_ifs with mem
    · exact List.count_eq_one_of_mem distinct mem
    · exact List.count_eq_zero_of_not_mem mem
  · rcases bindings.bindRead_cases buffer with ⟨error, bound⟩ | ⟨-, bound⟩
    · rw [bound] at failed
      cases failed
      exact ⟨rfl, rfl⟩
    · rw [bound] at failed
      cases failed
  · rcases bindings.bindReadWrite_cases buffer with ⟨error, bound⟩ | ⟨-, bound⟩
    · rw [bound] at failed
      cases failed
      exact ⟨rfl, rfl⟩
    · rw [bound] at failed
      cases failed

/-- One float of device memory. -/
def exampleBuffer (allocation : Nat) : DeviceBuffer := ⟨allocation, .f32, ⟨7, 0⟩, 1, 4096⟩

/-- A buffer is bound and taken back, and another one is bound behind it. -/
def rebindActions : List ArenaAction :=
  [.newQueue ⟨3, ⟨7, 0⟩⟩ 4 none, .newBindings 0 2, .bindReadWrite 0 (exampleBuffer 1),
    .take 0 ⟨2, 0, .f32⟩, .bindReadWrite 0 (exampleBuffer 2)]

/-- The stale handle finds a vacant slot, not the second buffer. -/
theorem arena_sound_rebind :
    ∃ bindings, (run ArenaWorld.step (.start [exampleBuffer 1, exampleBuffer 2])
        rebindActions).sets = [bindings] ∧
      (run ArenaWorld.step (.start [exampleBuffer 1, exampleBuffer 2])
        rebindActions).places.count (exampleBuffer 1) = 1 ∧
      ∃ error, bindings.resolve [.read ⟨⟨2, 0, .f32⟩⟩] = .error error ∧
        (error = .duplicateBindingSlot ∨ ∃ slot, error = .bindingSlotVacant slot) := by
  have sound := arena_sound [exampleBuffer 1, exampleBuffer 2] (by decide) rebindActions rfl
  refine ⟨_, rfl, (sound.1 (exampleBuffer 1)).trans (if_pos (by decide)), _, rfl, ?_⟩
  have issued : ∀ operand ∈ [Operand.read ⟨⟨2, 0, .f32⟩⟩], ∃ buffer,
      ArenaWorld.IssuedFor (run ArenaWorld.step (.start [exampleBuffer 1, exampleBuffer 2])
        rebindActions) operand buffer := by
    intro operand mem
    obtain rfl := List.mem_singleton.mp mem
    exact ⟨exampleBuffer 1, ⟨⟨2, 0, .f32⟩, true, exampleBuffer 1⟩, by decide, rfl, rfl, trivial⟩
  exact ((sound.2.2 _ (List.mem_singleton_self _)).2.1 _ issued).2 _ rfl (by decide)

end LoomKernels
