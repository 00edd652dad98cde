import Mathlib.Data.List.Nodup
import LoomKernels.Lib.Process

/-!
# Checked bindings

The binding arena of a command queue: a vector of typed leases, opaque handles into it, and the
operations that bind a buffer, take one back and resolve the handles of a command.

A handle is a pair of a set id and a slot with the element type it was made for. The five variants of
`Lease`, which the source generates with one macro, are one constructor here with the element type as
an argument. `CheckedBindings.resolve` resolves the operands of a command as a list.
-/

namespace LoomKernels

/-! ## Errors -/

structure DriverError where
  code : Nat
  deriving DecidableEq, Repr

structure ExternalCommandError where
  provider : String
  status : Int
  deriving DecidableEq, Repr

inductive CommandError where
  | zeroCommandCapacity
  | zeroBindingCapacity
  | identifierSpaceExhausted
  | bindingsQueueMismatch
  | queuePoisoned
  | scopePoisoned
  | bindingCapacityExceeded (capacity : Nat)
  | bufferContextMismatch (bufferDevice streamDevice : Nat)
  | bindingSetMismatch
  | bindingSlotOutOfRange (slot bindings : Nat)
  | bindingIsReadOnly (slot : Nat)
  | bindingSlotVacant (slot : Nat)
  | bindingTypeMismatch (slot : Nat)
  | duplicateBindingSlot
  | commandCapacityExceeded (capacity : Nat)
  | external (error : ExternalCommandError)
  | driver (error : DriverError)
  deriving DecidableEq, Repr

/-! ## Buffers and streams -/

structure CudaContext where
  cuCtx : Nat
  ordinal : Nat
  deriving DecidableEq, Repr

structure CudaStream where
  cuStream : Nat
  context : CudaContext
  deriving DecidableEq, Repr

/-- The element types that implement `BindingElement`. -/
inductive Element where
  | f32
  | f16
  | bf16
  | i32
  | u8
  deriving DecidableEq, Repr

/-- A device allocation: its identity, its element type and what the operators read of it. -/
structure DeviceBuffer where
  allocation : Nat
  element : Element
  context : CudaContext
  len : Nat
  cuDeviceptr : Nat
  deriving DecidableEq, Repr

/-! ## Leases and handles -/

inductive Access where
  | read (buffer : DeviceBuffer)
  | readWrite (buffer : DeviceBuffer)
  deriving DecidableEq, Repr

/-- A slot of the arena. `occupied` is the source's variant of the element type. -/
inductive Lease where
  | occupied (element : Element) (access : Access)
  | vacant
  deriving DecidableEq, Repr

inductive LeaseError where
  | elementMismatch
  | readOnly
  | vacant
  deriving DecidableEq, Repr

/-- What every handle holds. The element type is the phantom type of the source. -/
structure Handle where
  setId : Nat
  slot : Nat
  element : Element
  deriving DecidableEq, Repr

/-- Opaque read access to one checked binding. -/
structure Read extends Handle
  deriving DecidableEq, Repr

/-- Opaque write access to one checked binding. -/
structure Write extends Handle
  deriving DecidableEq, Repr

/-- Opaque read-write access to one checked binding. -/
structure ReadWrite extends Handle
  deriving DecidableEq, Repr

def ReadWrite.read (handle : ReadWrite) : Read := ⟨handle.toHandle⟩

def ReadWrite.write (handle : ReadWrite) : Write := ⟨handle.toHandle⟩

/-- `ResolveElement::read` of an element type -/
def Element.read (element : Element) : Lease → Except LeaseError DeviceBuffer
  | .occupied variant access =>
    if variant = element then
      match access with
      | .read buffer => .ok buffer
      | .readWrite buffer => .ok buffer
    else .error .elementMismatch
  | .vacant => .error .vacant

/-- `ResolveElement::write` of an element type -/
def Element.write (element : Element) : Lease → Except LeaseError DeviceBuffer
  | .occupied variant access =>
    if variant = element then
      match access with
      | .readWrite buffer => .ok buffer
      | .read _ => .error .readOnly
    else .error .elementMismatch
  | .vacant => .error .vacant

/-- `__erase_read` -/
def eraseRead (buffer : DeviceBuffer) : Lease := .occupied buffer.element (.read buffer)

/-- `__erase_read_write` -/
def eraseReadWrite (buffer : DeviceBuffer) : Lease := .occupied buffer.element (.readWrite buffer)

/-! ## The arena -/

/-- A reusable set of checked, heterogeneous buffer leases. -/
structure CheckedBindings where
  queueId : Nat
  setId : Nat
  stream : CudaStream
  leases : List Lease
  capacity : Nat
  deriving DecidableEq, Repr

/-- A failed transfer into an arena gives the buffer back. -/
structure BindError where
  error : CommandError
  resource : DeviceBuffer
  deriving DecidableEq, Repr

namespace CheckedBindings

variable (bindings : CheckedBindings)

/-- The lease of a slot that was validated before. -/
def lease (slot : Nat) : Lease := bindings.leases.getD slot .vacant

def push (lease : Lease) : CheckedBindings := { bindings with leases := bindings.leases ++ [lease] }

def setLease (slot : Nat) (lease : Lease) : CheckedBindings :=
  { bindings with leases := bindings.leases.set slot lease }

def checkBuffer (buffer : DeviceBuffer) : Except CommandError Unit :=
  if buffer.context.cuCtx = bindings.stream.context.cuCtx then .ok ()
  else .error (.bufferContextMismatch buffer.context.ordinal bindings.stream.context.ordinal)

def reserveSlot : Except CommandError Nat :=
  if bindings.leases.length = bindings.capacity then
    .error (.bindingCapacityExceeded bindings.capacity)
  else .ok bindings.leases.length

/-- The slot of the next lease, for a buffer of the right context. -/
def slotFor (buffer : DeviceBuffer) : Except CommandError Nat := do
  bindings.checkBuffer buffer
  bindings.reserveSlot

/-- Adds a read-only buffer and returns its opaque handle. -/
def bindRead (buffer : DeviceBuffer) : Except BindError Read × CheckedBindings :=
  match bindings.slotFor buffer with
  | .error error => (.error ⟨error, buffer⟩, bindings)
  | .ok slot =>
    (.ok ⟨⟨bindings.setId, slot, buffer.element⟩⟩, bindings.push (eraseRead buffer))

/-- Transfers one buffer that may be read and written. -/
def bindReadWrite (buffer : DeviceBuffer) : Except BindError ReadWrite × CheckedBindings :=
  match bindings.slotFor buffer with
  | .error error => (.error ⟨error, buffer⟩, bindings)
  | .ok slot =>
    (.ok ⟨⟨bindings.setId, slot, buffer.element⟩⟩, bindings.push (eraseReadWrite buffer))

/-- `__take_read_write`: the lease is moved out, and moved back unless its buffer is handed over. -/
def takeSlot (element : Element) (slot : Nat) : Except CommandError DeviceBuffer × CheckedBindings :=
  let owned := bindings.lease slot
  let vacated := bindings.setLease slot .vacant
  match owned with
  | .occupied variant access =>
    if variant = element then
      match access with
      | .readWrite buffer => (.ok buffer, vacated)
      | .read _ => (.error (.bindingIsReadOnly slot), vacated.setLease slot owned)
    else (.error (.bindingTypeMismatch slot), vacated.setLease slot owned)
  | .vacant => (.error (.bindingSlotVacant slot), vacated)

/-- Removes one completed allocation from the arena. -/
def takeReadWrite (handle : ReadWrite) : Except CommandError DeviceBuffer × CheckedBindings :=
  if handle.setId ≠ bindings.setId then (.error .bindingSetMismatch, bindings)
  else if handle.slot ≥ bindings.leases.length then
    (.error (.bindingSlotOutOfRange handle.slot bindings.leases.length), bindings)
  else bindings.takeSlot handle.element handle.slot

/-! ### What the operations do -/

variable {bindings} {buffer : DeviceBuffer} {after : CheckedBindings} {error : CommandError}

theorem slotFor_ok {slot : Nat} (h : bindings.slotFor buffer = .ok slot) :
    slot = bindings.leases.length ∧ bindings.leases.length ≠ bindings.capacity := by
  obtain ⟨-, reserved⟩ := check_bind_eq_ok.mp h
  unfold reserveSlot at reserved
  split at reserved
  · cases reserved
  · rename_i free
    exact ⟨(Except.ok.inj reserved).symm, free⟩

/-- A bind gives the buffer back and changes nothing, or pushes its lease behind the others. -/
theorem bindRead_cases (bindings : CheckedBindings) (buffer : DeviceBuffer) :
    (∃ error, bindings.bindRead buffer = (.error ⟨error, buffer⟩, bindings)) ∨
      bindings.leases.length ≠ bindings.capacity ∧
        bindings.bindRead buffer =
          (.ok ⟨⟨bindings.setId, bindings.leases.length, buffer.element⟩⟩,
            bindings.push (eraseRead buffer)) := by
  unfold bindRead
  split
  · exact .inl ⟨_, rfl⟩
  · rename_i slot h
    obtain ⟨rfl, free⟩ := slotFor_ok h
    exact .inr ⟨free, rfl⟩

theorem bindReadWrite_cases (bindings : CheckedBindings) (buffer : DeviceBuffer) :
    (∃ error, bindings.bindReadWrite buffer = (.error ⟨error, buffer⟩, bindings)) ∨
      bindings.leases.length ≠ bindings.capacity ∧
        bindings.bindReadWrite buffer =
          (.ok ⟨⟨bindings.setId, bindings.leases.length, buffer.element⟩⟩,
            bindings.push (eraseReadWrite buffer)) := by
  unfold bindReadWrite
  split
  · exact .inl ⟨_, rfl⟩
  · rename_i slot h
    obtain ⟨rfl, free⟩ := slotFor_ok h
    exact .inr ⟨free, rfl⟩

/-- A lease that is moved out and back leaves the arena as it was. -/
theorem setLease_back (bindings : CheckedBindings) (slot : Nat) (lease : Lease) :
    (bindings.setLease slot lease).setLease slot (bindings.lease slot) = bindings := by
  have same : (bindings.leases.set slot lease).set slot (bindings.leases.getD slot .vacant) =
      bindings.leases := by
    rw [List.set_set]
    rcases Nat.lt_or_ge slot bindings.leases.length with h | h
    · rw [List.getD_eq_getElem?_getD, List.getElem?_eq_getElem h, Option.getD_some,
        List.set_getElem_self h]
    · exact List.set_eq_of_length_le h
  unfold setLease CheckedBindings.lease
  rw [same]

/-- What a take hands over is the writable buffer of the slot, which is vacant afterwards. -/
theorem takeReadWrite_ok {handle : ReadWrite}
    (h : bindings.takeReadWrite handle = (.ok buffer, after)) :
    handle.setId = bindings.setId ∧ handle.slot < bindings.leases.length ∧
      bindings.lease handle.slot = .occupied handle.element (.readWrite buffer) ∧
      after = bindings.setLease handle.slot .vacant := by
  unfold takeReadWrite at h
  split_ifs at h with set range
  · cases h
  · cases h
  unfold takeSlot at h
  dsimp only at h
  split at h
  · rename_i variant access lease
    split_ifs at h with type
    · split at h
      · rw [Prod.mk.injEq, Except.ok.injEq] at h
        obtain ⟨rfl, rfl⟩ := h
        exact ⟨not_not.mp set, Nat.lt_of_not_ge range, type ▸ lease, rfl⟩
      · cases h
    · cases h
  · cases h

/-- A take that fails leaves the arena as it was. -/
theorem takeReadWrite_error {handle : ReadWrite}
    (h : bindings.takeReadWrite handle = (.error error, after)) : after = bindings := by
  unfold takeReadWrite at h
  split_ifs at h
  · exact (Prod.mk.inj h).2.symm
  · exact (Prod.mk.inj h).2.symm
  unfold takeSlot at h
  dsimp only at h
  split at h
  · rename_i variant access lease
    split_ifs at h
    · split at h
      · cases h
      · rw [← (Prod.mk.inj h).2, setLease_back]
    · rw [← (Prod.mk.inj h).2, setLease_back]
  · -- the slot was vacant before
    rename_i lease
    rw [← (Prod.mk.inj h).2]
    have back := bindings.setLease_back handle.slot .vacant
    rw [lease, setLease, setLease, List.set_set] at back
    exact back

end CheckedBindings

/-! ## Resolution -/

/-- An operand of a command. -/
inductive Operand where
  | read (handle : Read)
  | write (handle : Write)
  deriving DecidableEq, Repr

def Operand.handle : Operand → Handle
  | .read handle => handle.toHandle
  | .write handle => handle.toHandle

/-- The checks of the slots, each against the slots before it. -/
def validateSlots (bindingCount : Nat) : List Nat → List Nat → Except CommandError Unit
  | _, [] => .ok ()
  | before, slot :: slots =>
    if slot ∈ before then .error .duplicateBindingSlot
    else if slot ≥ bindingCount then .error (.bindingSlotOutOfRange slot bindingCount)
    else validateSlots bindingCount (before ++ [slot]) slots

def validateBindingRequest (expectedSetId bindingCount : Nat) (setIds slots : List Nat) :
    Except CommandError Unit :=
  if setIds.any (· ≠ expectedSetId) then .error .bindingSetMismatch
  else validateSlots bindingCount [] slots

def mapLeaseError (slot : Nat) : LeaseError → CommandError
  | .elementMismatch => .bindingTypeMismatch slot
  | .readOnly => .bindingIsReadOnly slot
  | .vacant => .bindingSlotVacant slot

/-- The buffer of one operand, borrowed with the operand's access. -/
def Operand.borrow (operand : Operand) (lease : Lease) : Except CommandError DeviceBuffer :=
  (match operand with
    | .read handle => handle.element.read lease
    | .write handle => handle.element.write lease).mapError (mapLeaseError operand.handle.slot)

/-- The buffers of a command's operands, of every arity and access. -/
def CheckedBindings.resolve (bindings : CheckedBindings) (operands : List Operand) :
    Except CommandError (List DeviceBuffer) := do
  validateBindingRequest bindings.setId bindings.leases.length (operands.map (·.handle.setId))
    (operands.map (·.handle.slot))
  operands.mapM fun operand => operand.borrow (bindings.lease operand.handle.slot)

/-! ### What a resolution does -/

theorem validateSlots_eq_ok {bindingCount : Nat} {before slots : List Nat} :
    validateSlots bindingCount before slots = .ok () ↔
      slots.Nodup ∧ ∀ slot ∈ slots, slot ∉ before ∧ slot < bindingCount := by
  induction slots generalizing before with
  | nil => simp [validateSlots]
  | cons slot slots ih =>
    unfold validateSlots
    split_ifs with seen range
    · simp [seen]
    · simp only [List.mem_cons, false_iff, not_and]
      intro _ all
      have := (all slot (.inl rfl)).2
      omega
    · rw [ih, List.nodup_cons]
      have mem : ∀ t, t ∉ before ++ [slot] ↔ t ∉ before ∧ t ≠ slot := fun t => by simp
      simp only [mem, List.mem_cons, forall_eq_or_imp]
      constructor
      · rintro ⟨nodup, all⟩
        exact ⟨⟨fun h => (all slot h).1.2 rfl, nodup⟩, ⟨seen, Nat.lt_of_not_ge range⟩,
          fun t ht => ⟨(all t ht).1.1, (all t ht).2⟩⟩
      · rintro ⟨⟨fresh, nodup⟩, -, all⟩
        exact ⟨nodup, fun t ht => ⟨⟨(all t ht).1, fun h => fresh (h ▸ ht)⟩, (all t ht).2⟩⟩

theorem validateBindingRequest_eq_ok {expectedSetId bindingCount : Nat} {setIds slots : List Nat} :
    validateBindingRequest expectedSetId bindingCount setIds slots = .ok () ↔
      (∀ setId ∈ setIds, setId = expectedSetId) ∧ slots.Nodup ∧
        ∀ slot ∈ slots, slot < bindingCount := by
  have own : setIds.any (· ≠ expectedSetId) = true ↔ ¬ ∀ setId ∈ setIds, setId = expectedSetId := by
    simp
  unfold validateBindingRequest
  split_ifs with foreign
  · exact iff_of_false nofun fun valid => own.mp foreign valid.1
  · rw [validateSlots_eq_ok, and_iff_right (not_not.mp (mt own.mpr foreign))]
    simp only [List.not_mem_nil, not_false_eq_true, true_and]

/-- Slots that are all in range fail only as duplicates. -/
theorem validateSlots_error {bindingCount : Nat} {before slots : List Nat} {error : CommandError}
    (range : ∀ slot ∈ slots, slot < bindingCount)
    (h : validateSlots bindingCount before slots = .error error) :
    error = .duplicateBindingSlot := by
  induction slots generalizing before with
  | nil => cases h
  | cons slot slots ih =>
    unfold validateSlots at h
    split_ifs at h with seen outside
    · exact (Except.error.inj h).symm
    · have := range slot List.mem_cons_self
      omega
    · exact ih (fun t ht => range t (List.mem_cons_of_mem _ ht)) h

/-- A writable operand finds a writable buffer of its type. -/
theorem Element.write_eq_ok {element : Element} {lease : Lease} {buffer : DeviceBuffer} :
    element.write lease = .ok buffer ↔ lease = .occupied element (.readWrite buffer) := by
  unfold Element.write
  split
  · split_ifs with type
    · split
      · simp [type, eq_comm]
      · simp
    · simp [type]
  · simp

theorem Operand.borrow_write_eq_ok {handle : Write} {lease : Lease} {buffer : DeviceBuffer} :
    (Operand.write handle).borrow lease = .ok buffer ↔
      lease = .occupied handle.element (.readWrite buffer) := by
  rw [← Element.write_eq_ok]
  unfold Operand.borrow Except.mapError
  dsimp only
  cases handle.element.write lease <;> simp

/-- What can be written through a handle can be read through it. -/
theorem Operand.borrow_read_of_write {handle : ReadWrite} {lease : Lease} {buffer : DeviceBuffer}
    (h : (Operand.write handle.write).borrow lease = .ok buffer) :
    (Operand.read handle.read).borrow lease = .ok buffer := by
  rw [Operand.borrow_write_eq_ok.mp h]
  simp [Operand.borrow, Element.read, ReadWrite.read, ReadWrite.write, Except.mapError]

namespace CheckedBindings

variable {bindings : CheckedBindings} {operands : List Operand}

/-- A resolution succeeds exactly when the operands are distinct slots of this set that hold buffers
of the operands' types and modes. -/
theorem resolve_eq_ok {buffers : List DeviceBuffer} :
    bindings.resolve operands = .ok buffers ↔
      (∀ operand ∈ operands, operand.handle.setId = bindings.setId ∧
        operand.handle.slot < bindings.leases.length) ∧
      (operands.map (·.handle.slot)).Nodup ∧
      List.Forall₂ (fun operand buffer =>
        operand.borrow (bindings.lease operand.handle.slot) = .ok buffer) operands buffers := by
  unfold resolve
  rw [check_bind_eq_ok, mapM_eq_ok, validateBindingRequest_eq_ok]
  simp only [List.mem_map, forall_exists_index, and_imp, forall_apply_eq_imp_iff₂]
  constructor
  · rintro ⟨⟨own, nodup, range⟩, borrowed⟩
    exact ⟨fun o ho => ⟨own o ho, range o ho⟩, nodup, borrowed⟩
  · rintro ⟨all, nodup, borrowed⟩
    exact ⟨⟨fun o ho => (all o ho).1, nodup, fun o ho => (all o ho).2⟩, borrowed⟩

/-- The operand is a slot of this set with the buffer for it. -/
structure Lends (bindings : CheckedBindings) (operand : Operand) (buffer : DeviceBuffer) : Prop where
  set : operand.handle.setId = bindings.setId
  range : operand.handle.slot < bindings.leases.length
  borrow : operand.borrow (bindings.lease operand.handle.slot) = .ok buffer

/-- A resolution finds a buffer for each of its operands. -/
theorem resolve_getElem {buffers : List DeviceBuffer} (h : bindings.resolve operands = .ok buffers)
    {i : Nat} {operand : Operand} (at_i : operands[i]? = some operand) :
    ∃ buffer, buffers[i]? = some buffer ∧ bindings.Lends operand buffer := by
  obtain ⟨own, -, borrowed⟩ := resolve_eq_ok.mp h
  obtain ⟨lt, rfl⟩ := List.getElem?_eq_some_iff.mp at_i
  have lt' : i < buffers.length := borrowed.length_eq ▸ lt
  have mem := own operands[i] (List.getElem_mem lt)
  exact ⟨buffers[i], List.getElem?_eq_getElem lt', mem.1, mem.2, borrowed.get lt lt'⟩

/-- Two operands of a resolution are in different slots. -/
theorem resolve_slot_ne {buffers : List DeviceBuffer} (h : bindings.resolve operands = .ok buffers)
    {i j : Nat} {operand operand' : Operand} (at_i : operands[i]? = some operand)
    (at_j : operands[j]? = some operand') (ne : i ≠ j) :
    operand.handle.slot ≠ operand'.handle.slot := by
  obtain ⟨-, nodup, -⟩ := resolve_eq_ok.mp h
  obtain ⟨lt, rfl⟩ := List.getElem?_eq_some_iff.mp at_i
  obtain ⟨lt', rfl⟩ := List.getElem?_eq_some_iff.mp at_j
  intro same
  have lt_map : i < (operands.map (·.handle.slot)).length := by rwa [List.length_map]
  have lt_map' : j < (operands.map (·.handle.slot)).length := by rwa [List.length_map]
  have eq : (operands.map (·.handle.slot))[i] = (operands.map (·.handle.slot))[j] := by
    simpa using same
  exact ne ((List.Nodup.getElem_inj_iff nodup).mp eq)

/-- Operands of this set fail as duplicates, or by what one of their slots holds. -/
theorem resolve_error {error : CommandError}
    (own : ∀ operand ∈ operands, operand.handle.setId = bindings.setId ∧
      operand.handle.slot < bindings.leases.length)
    (h : bindings.resolve operands = .error error) :
    error = .duplicateBindingSlot ∨ ∃ operand ∈ operands,
      operand.borrow (bindings.lease operand.handle.slot) = .error error := by
  unfold resolve validateBindingRequest at h
  have sets : ¬ (operands.map (·.handle.setId)).any (· ≠ bindings.setId) := by
    simp only [List.any_map, List.any_eq_true, Function.comp, decide_eq_true_eq, not_exists, not_and,
      ne_eq, not_not]
    exact fun o ho => (own o ho).1
  rw [if_neg sets] at h
  cases slots : validateSlots bindings.leases.length [] (operands.map (·.handle.slot)) with
  | error e =>
    rw [slots] at h
    obtain rfl : e = error := Except.error.inj h
    refine .inl (validateSlots_error (fun slot mem => ?_) slots)
    obtain ⟨operand, ho, rfl⟩ := List.mem_map.mp mem
    exact (own operand ho).2
  | ok _ =>
    rw [slots] at h
    exact .inr (mapM_eq_error h)

end CheckedBindings

end LoomKernels
