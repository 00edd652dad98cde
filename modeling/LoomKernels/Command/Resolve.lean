import LoomKernels.Command.Submission

/-!
# The `resolve_*` functions

The eleven functions that turn the handles of a command into buffers, unrolled as in the source: the
handles are validated, their leases are borrowed at once, and every lease is taken apart with the
access of its position. Each of them is the resolution of the list of its operands
(`resolveRww_resolved` and its siblings), so that one theorem about lists, `resolveOperands_resolves`,
speaks of them all.
-/

namespace LoomKernels

/-! ## What a resolution uses -/

/-- How a resolution fails: with an error of the crate, or in an `expect`. -/
inductive ResolveFailure where
  | command (error : CommandError)
  | panic (message : String)
  deriving DecidableEq, Repr

/-- The scope is live: its queue and its bindings are there. -/
abbrev Resolve := EStateM ResolveFailure CommandScope

/-- The operator `?` on a command error -/
def question {α : Type} : Except CommandError α → Resolve α
  | .ok a => pure a
  | .error error => throw (.command error)

def validateResolveRequest {n : Nat} (setIds slots : Vector Nat n) : Resolve Unit := do
  let scope ← get
  question (validateBindingRequest scope.bindings.setId scope.bindings.leases.length setIds.toList
    slots.toList)

/-- `get_disjoint_mut` of the leases, which wants slots in range and pairwise distinct, with its
`expect`. -/
def getDisjointMut {n : Nat} (slots : Vector Nat n) : Resolve (Vector Lease n) := do
  let scope ← get
  if (∀ slot ∈ slots.toList, slot < scope.bindings.leases.length) ∧ slots.toList.Nodup then
    return slots.map scope.bindings.lease
  else throw (.panic "validated binding slots are pairwise disjoint")

/-- `A::read(lease).map_err(..)?` -/
def readLease (element : Element) (lease : Lease) (slot : Nat) : Resolve DeviceBuffer :=
  question ((element.read lease).mapError (mapLeaseError slot))

/-- `A::write(lease).map_err(..)?` -/
def writeLease (element : Element) (lease : Lease) (slot : Nat) : Resolve DeviceBuffer :=
  question ((element.write lease).mapError (mapLeaseError slot))

/-- The stream and the buffers of a resolution, in the order of its fields. -/
structure Resolved where
  stream : CudaStream
  buffers : List DeviceBuffer
  deriving DecidableEq, Repr

/-! ## What the functions return -/

structure ResolvedRww where
  stream : CudaStream
  (first second third : DeviceBuffer)
  deriving DecidableEq, Repr

def ResolvedRww.resolved (r : ResolvedRww) : Resolved :=
  ⟨r.stream, [r.first, r.second, r.third]⟩

structure ResolvedRrw where
  stream : CudaStream
  (first second third : DeviceBuffer)
  deriving DecidableEq, Repr

def ResolvedRrw.resolved (r : ResolvedRrw) : Resolved :=
  ⟨r.stream, [r.first, r.second, r.third]⟩

structure ResolvedRrww where
  stream : CudaStream
  (first second third fourth : DeviceBuffer)
  deriving DecidableEq, Repr

def ResolvedRrww.resolved (r : ResolvedRrww) : Resolved :=
  ⟨r.stream, [r.first, r.second, r.third, r.fourth]⟩

structure ResolvedRrrww where
  stream : CudaStream
  (first second third fourth fifth : DeviceBuffer)
  deriving DecidableEq, Repr

def ResolvedRrrww.resolved (r : ResolvedRrrww) : Resolved :=
  ⟨r.stream, [r.first, r.second, r.third, r.fourth, r.fifth]⟩

structure ResolvedRrrwww where
  stream : CudaStream
  (first second third fourth fifth sixth : DeviceBuffer)
  deriving DecidableEq, Repr

def ResolvedRrrwww.resolved (r : ResolvedRrrwww) : Resolved :=
  ⟨r.stream, [r.first, r.second, r.third, r.fourth, r.fifth, r.sixth]⟩

structure ResolvedRrrrrw where
  stream : CudaStream
  (first second third fourth fifth sixth : DeviceBuffer)
  deriving DecidableEq, Repr

def ResolvedRrrrrw.resolved (r : ResolvedRrrrrw) : Resolved :=
  ⟨r.stream, [r.first, r.second, r.third, r.fourth, r.fifth, r.sixth]⟩

structure ResolvedRrrrrww where
  stream : CudaStream
  (first second third fourth fifth sixth seventh : DeviceBuffer)
  deriving DecidableEq, Repr

def ResolvedRrrrrww.resolved (r : ResolvedRrrrrww) : Resolved :=
  ⟨r.stream, [r.first, r.second, r.third, r.fourth, r.fifth, r.sixth, r.seventh]⟩

structure ResolvedRrrrrrww where
  stream : CudaStream
  (first second third fourth fifth sixth seventh eighth : DeviceBuffer)
  deriving DecidableEq, Repr

def ResolvedRrrrrrww.resolved (r : ResolvedRrrrrrww) : Resolved :=
  ⟨r.stream, [r.first, r.second, r.third, r.fourth, r.fifth, r.sixth, r.seventh, r.eighth]⟩

structure ResolvedRrrrrrrww where
  stream : CudaStream
  (first second third fourth fifth sixth seventh eighth ninth : DeviceBuffer)
  deriving DecidableEq, Repr

def ResolvedRrrrrrrww.resolved (r : ResolvedRrrrrrrww) : Resolved :=
  ⟨r.stream, [r.first, r.second, r.third, r.fourth, r.fifth, r.sixth, r.seventh, r.eighth,
    r.ninth]⟩

structure ResolvedRrrrrrwww where
  stream : CudaStream
  (first second third fourth fifth sixth seventh eighth ninth : DeviceBuffer)
  deriving DecidableEq, Repr

def ResolvedRrrrrrwww.resolved (r : ResolvedRrrrrrwww) : Resolved :=
  ⟨r.stream, [r.first, r.second, r.third, r.fourth, r.fifth, r.sixth, r.seventh, r.eighth,
    r.ninth]⟩

structure ResolvedRrrrrrrrwww where
  stream : CudaStream
  (first second third fourth fifth sixth seventh eighth ninth tenth eleventh : DeviceBuffer)
  deriving DecidableEq, Repr

def ResolvedRrrrrrrrwww.resolved (r : ResolvedRrrrrrrrwww) : Resolved :=
  ⟨r.stream, [r.first, r.second, r.third, r.fourth, r.fifth, r.sixth, r.seventh, r.eighth,
    r.ninth, r.tenth, r.eleventh]⟩

/-! ## The functions -/

/-- `resolve_rww` -/
def resolveRww (first : Read) (second third : Write) : Resolve ResolvedRww := do
  let slots := #v[first.slot, second.slot, third.slot]
  validateResolveRequest #v[first.setId, second.setId, third.setId] slots
  let leases ← getDisjointMut slots
  let firstBuffer ← readLease first.element leases[0] first.slot
  let secondBuffer ← writeLease second.element leases[1] second.slot
  let thirdBuffer ← writeLease third.element leases[2] third.slot
  let scope ← get
  return {
    stream := scope.queue.stream, first := firstBuffer, second := secondBuffer,
    third := thirdBuffer }

/-- `resolve_rrw` -/
def resolveRrw (first second : Read) (third : Write) : Resolve ResolvedRrw := do
  let slots := #v[first.slot, second.slot, third.slot]
  validateResolveRequest #v[first.setId, second.setId, third.setId] slots
  let leases ← getDisjointMut slots
  let firstBuffer ← readLease first.element leases[0] first.slot
  let secondBuffer ← readLease second.element leases[1] second.slot
  let thirdBuffer ← writeLease third.element leases[2] third.slot
  let scope ← get
  return {
    stream := scope.queue.stream, first := firstBuffer, second := secondBuffer,
    third := thirdBuffer }

/-- `resolve_rrww` -/
def resolveRrww (first second : Read) (third fourth : Write) : Resolve ResolvedRrww := do
  let slots := #v[first.slot, second.slot, third.slot, fourth.slot]
  validateResolveRequest #v[first.setId, second.setId, third.setId, fourth.setId] slots
  let leases ← getDisjointMut slots
  let firstBuffer ← readLease first.element leases[0] first.slot
  let secondBuffer ← readLease second.element leases[1] second.slot
  let thirdBuffer ← writeLease third.element leases[2] third.slot
  let fourthBuffer ← writeLease fourth.element leases[3] fourth.slot
  let scope ← get
  return {
    stream := scope.queue.stream, first := firstBuffer, second := secondBuffer,
    third := thirdBuffer, fourth := fourthBuffer }

/-- `resolve_rrrww` -/
def resolveRrrww (first second third : Read) (fourth fifth : Write) : Resolve ResolvedRrrww := do
  let slots := #v[first.slot, second.slot, third.slot, fourth.slot, fifth.slot]
  validateResolveRequest #v[first.setId, second.setId, third.setId, fourth.setId,
    fifth.setId] slots
  let leases ← getDisjointMut slots
  let firstBuffer ← readLease first.element leases[0] first.slot
  let secondBuffer ← readLease second.element leases[1] second.slot
  let thirdBuffer ← readLease third.element leases[2] third.slot
  let fourthBuffer ← writeLease fourth.element leases[3] fourth.slot
  let fifthBuffer ← writeLease fifth.element leases[4] fifth.slot
  let scope ← get
  return {
    stream := scope.queue.stream, first := firstBuffer, second := secondBuffer,
    third := thirdBuffer, fourth := fourthBuffer, fifth := fifthBuffer }

/-- `resolve_rrrwww` -/
def resolveRrrwww (first second third : Read) (fourth fifth sixth : Write) :
    Resolve ResolvedRrrwww := do
  let slots := #v[first.slot, second.slot, third.slot, fourth.slot, fifth.slot, sixth.slot]
  validateResolveRequest #v[first.setId, second.setId, third.setId, fourth.setId, fifth.setId,
    sixth.setId] slots
  let leases ← getDisjointMut slots
  let firstBuffer ← readLease first.element leases[0] first.slot
  let secondBuffer ← readLease second.element leases[1] second.slot
  let thirdBuffer ← readLease third.element leases[2] third.slot
  let fourthBuffer ← writeLease fourth.element leases[3] fourth.slot
  let fifthBuffer ← writeLease fifth.element leases[4] fifth.slot
  let sixthBuffer ← writeLease sixth.element leases[5] sixth.slot
  let scope ← get
  return {
    stream := scope.queue.stream, first := firstBuffer, second := secondBuffer,
    third := thirdBuffer, fourth := fourthBuffer, fifth := fifthBuffer, sixth := sixthBuffer }

/-- `resolve_rrrrrw` -/
def resolveRrrrrw (first second third fourth fifth : Read) (sixth : Write) :
    Resolve ResolvedRrrrrw := do
  let slots := #v[first.slot, second.slot, third.slot, fourth.slot, fifth.slot, sixth.slot]
  validateResolveRequest #v[first.setId, second.setId, third.setId, fourth.setId, fifth.setId,
    sixth.setId] slots
  let leases ← getDisjointMut slots
  let firstBuffer ← readLease first.element leases[0] first.slot
  let secondBuffer ← readLease second.element leases[1] second.slot
  let thirdBuffer ← readLease third.element leases[2] third.slot
  let fourthBuffer ← readLease fourth.element leases[3] fourth.slot
  let fifthBuffer ← readLease fifth.element leases[4] fifth.slot
  let sixthBuffer ← writeLease sixth.element leases[5] sixth.slot
  let scope ← get
  return {
    stream := scope.queue.stream, first := firstBuffer, second := secondBuffer,
    third := thirdBuffer, fourth := fourthBuffer, fifth := fifthBuffer, sixth := sixthBuffer }

/-- `resolve_rrrrrww` -/
def resolveRrrrrww (first second third fourth fifth : Read) (sixth seventh : Write) :
    Resolve ResolvedRrrrrww := do
  let slots := #v[first.slot, second.slot, third.slot, fourth.slot, fifth.slot, sixth.slot,
    seventh.slot]
  validateResolveRequest #v[first.setId, second.setId, third.setId, fourth.setId, fifth.setId,
    sixth.setId, seventh.setId] slots
  let leases ← getDisjointMut slots
  let firstBuffer ← readLease first.element leases[0] first.slot
  let secondBuffer ← readLease second.element leases[1] second.slot
  let thirdBuffer ← readLease third.element leases[2] third.slot
  let fourthBuffer ← readLease fourth.element leases[3] fourth.slot
  let fifthBuffer ← readLease fifth.element leases[4] fifth.slot
  let sixthBuffer ← writeLease sixth.element leases[5] sixth.slot
  let seventhBuffer ← writeLease seventh.element leases[6] seventh.slot
  let scope ← get
  return {
    stream := scope.queue.stream, first := firstBuffer, second := secondBuffer,
    third := thirdBuffer, fourth := fourthBuffer, fifth := fifthBuffer, sixth := sixthBuffer,
    seventh := seventhBuffer }

/-- `resolve_rrrrrrww` -/
def resolveRrrrrrww (first second third fourth fifth sixth : Read) (seventh eighth : Write) :
    Resolve ResolvedRrrrrrww := do
  let slots := #v[first.slot, second.slot, third.slot, fourth.slot, fifth.slot, sixth.slot,
    seventh.slot, eighth.slot]
  validateResolveRequest #v[first.setId, second.setId, third.setId, fourth.setId, fifth.setId,
    sixth.setId, seventh.setId, eighth.setId] slots
  let leases ← getDisjointMut slots
  let firstBuffer ← readLease first.element leases[0] first.slot
  let secondBuffer ← readLease second.element leases[1] second.slot
  let thirdBuffer ← readLease third.element leases[2] third.slot
  let fourthBuffer ← readLease fourth.element leases[3] fourth.slot
  let fifthBuffer ← readLease fifth.element leases[4] fifth.slot
  let sixthBuffer ← readLease sixth.element leases[5] sixth.slot
  let seventhBuffer ← writeLease seventh.element leases[6] seventh.slot
  let eighthBuffer ← writeLease eighth.element leases[7] eighth.slot
  let scope ← get
  return {
    stream := scope.queue.stream, first := firstBuffer, second := secondBuffer,
    third := thirdBuffer, fourth := fourthBuffer, fifth := fifthBuffer, sixth := sixthBuffer,
    seventh := seventhBuffer, eighth := eighthBuffer }

/-- `resolve_rrrrrrrww` -/
def resolveRrrrrrrww (first second third fourth fifth sixth seventh : Read)
    (eighth ninth : Write) : Resolve ResolvedRrrrrrrww := do
  let slots := #v[first.slot, second.slot, third.slot, fourth.slot, fifth.slot, sixth.slot,
    seventh.slot, eighth.slot, ninth.slot]
  validateResolveRequest #v[first.setId, second.setId, third.setId, fourth.setId, fifth.setId,
    sixth.setId, seventh.setId, eighth.setId, ninth.setId] slots
  let leases ← getDisjointMut slots
  let firstBuffer ← readLease first.element leases[0] first.slot
  let secondBuffer ← readLease second.element leases[1] second.slot
  let thirdBuffer ← readLease third.element leases[2] third.slot
  let fourthBuffer ← readLease fourth.element leases[3] fourth.slot
  let fifthBuffer ← readLease fifth.element leases[4] fifth.slot
  let sixthBuffer ← readLease sixth.element leases[5] sixth.slot
  let seventhBuffer ← readLease seventh.element leases[6] seventh.slot
  let eighthBuffer ← writeLease eighth.element leases[7] eighth.slot
  let ninthBuffer ← writeLease ninth.element leases[8] ninth.slot
  let scope ← get
  return {
    stream := scope.queue.stream, first := firstBuffer, second := secondBuffer,
    third := thirdBuffer, fourth := fourthBuffer, fifth := fifthBuffer, sixth := sixthBuffer,
    seventh := seventhBuffer, eighth := eighthBuffer, ninth := ninthBuffer }

/-- `resolve_rrrrrrwww` -/
def resolveRrrrrrwww (first second third fourth fifth sixth : Read)
    (seventh eighth ninth : Write) : Resolve ResolvedRrrrrrwww := do
  let slots := #v[first.slot, second.slot, third.slot, fourth.slot, fifth.slot, sixth.slot,
    seventh.slot, eighth.slot, ninth.slot]
  validateResolveRequest #v[first.setId, second.setId, third.setId, fourth.setId, fifth.setId,
    sixth.setId, seventh.setId, eighth.setId, ninth.setId] slots
  let leases ← getDisjointMut slots
  let firstBuffer ← readLease first.element leases[0] first.slot
  let secondBuffer ← readLease second.element leases[1] second.slot
  let thirdBuffer ← readLease third.element leases[2] third.slot
  let fourthBuffer ← readLease fourth.element leases[3] fourth.slot
  let fifthBuffer ← readLease fifth.element leases[4] fifth.slot
  let sixthBuffer ← readLease sixth.element leases[5] sixth.slot
  let seventhBuffer ← writeLease seventh.element leases[6] seventh.slot
  let eighthBuffer ← writeLease eighth.element leases[7] eighth.slot
  let ninthBuffer ← writeLease ninth.element leases[8] ninth.slot
  let scope ← get
  return {
    stream := scope.queue.stream, first := firstBuffer, second := secondBuffer,
    third := thirdBuffer, fourth := fourthBuffer, fifth := fifthBuffer, sixth := sixthBuffer,
    seventh := seventhBuffer, eighth := eighthBuffer, ninth := ninthBuffer }

/-- `resolve_rrrrrrrrwww` -/
def resolveRrrrrrrrwww (first second third fourth fifth sixth seventh eighth : Read)
    (ninth tenth eleventh : Write) : Resolve ResolvedRrrrrrrrwww := do
  let slots := #v[first.slot, second.slot, third.slot, fourth.slot, fifth.slot, sixth.slot,
    seventh.slot, eighth.slot, ninth.slot, tenth.slot, eleventh.slot]
  validateResolveRequest #v[first.setId, second.setId, third.setId, fourth.setId, fifth.setId,
    sixth.setId, seventh.setId, eighth.setId, ninth.setId, tenth.setId, eleventh.setId] slots
  let leases ← getDisjointMut slots
  let firstBuffer ← readLease first.element leases[0] first.slot
  let secondBuffer ← readLease second.element leases[1] second.slot
  let thirdBuffer ← readLease third.element leases[2] third.slot
  let fourthBuffer ← readLease fourth.element leases[3] fourth.slot
  let fifthBuffer ← readLease fifth.element leases[4] fifth.slot
  let sixthBuffer ← readLease sixth.element leases[5] sixth.slot
  let seventhBuffer ← readLease seventh.element leases[6] seventh.slot
  let eighthBuffer ← readLease eighth.element leases[7] eighth.slot
  let ninthBuffer ← writeLease ninth.element leases[8] ninth.slot
  let tenthBuffer ← writeLease tenth.element leases[9] tenth.slot
  let eleventhBuffer ← writeLease eleventh.element leases[10] eleventh.slot
  let scope ← get
  return {
    stream := scope.queue.stream, first := firstBuffer, second := secondBuffer,
    third := thirdBuffer, fourth := fourthBuffer, fifth := fifthBuffer, sixth := sixthBuffer,
    seventh := seventhBuffer, eighth := eighthBuffer, ninth := ninthBuffer, tenth := tenthBuffer,
    eleventh := eleventhBuffer }

/-! ## Resolution of a list -/

/-- The resolution of a list of operands. -/
def resolveOperands (operands : List Operand) : Resolve Resolved := do
  let scope ← get
  let buffers ← question (scope.bindings.resolve operands)
  return ⟨scope.queue.stream, buffers⟩

section Programs

variable {α β : Type}

@[simp] theorem question_pure (a : α) : question (pure a) = pure a := rfl

@[simp] theorem question_bind (x : Except CommandError α) (f : α → Except CommandError β) :
    question (x >>= f) = question x >>= fun a => question (f a) := by
  cases x <;> rfl

@[simp] theorem question_borrow_read (handle : Read) (lease : Lease) :
    question ((Operand.read handle).borrow lease) = readLease handle.element lease handle.slot :=
  rfl

@[simp] theorem question_borrow_write (handle : Write) (lease : Lease) :
    question ((Operand.write handle).borrow lease) = writeLease handle.element lease handle.slot :=
  rfl

/-- The scope can be looked at before a question is asked. -/
@[simp] theorem question_get (x : Except CommandError α) (f : α → CommandScope → Resolve β) :
    (do let a ← question x; let scope ← get; f a scope) =
      (do let scope ← get; let a ← question x; f a scope) := by
  cases x <;> rfl

@[simp] theorem readLease_get (element : Element) (lease : Lease) (slot : Nat)
    (f : DeviceBuffer → CommandScope → Resolve β) :
    (do let buffer ← readLease element lease slot; let scope ← get; f buffer scope) =
      (do let scope ← get; let buffer ← readLease element lease slot; f buffer scope) :=
  question_get _ f

@[simp] theorem writeLease_get (element : Element) (lease : Lease) (slot : Nat)
    (f : DeviceBuffer → CommandScope → Resolve β) :
    (do let buffer ← writeLease element lease slot; let scope ← get; f buffer scope) =
      (do let scope ← get; let buffer ← writeLease element lease slot; f buffer scope) :=
  question_get _ f

@[simp] theorem get_get (f : CommandScope → CommandScope → Resolve β) :
    (do let scope ← get; let scope' ← get; f scope scope') = (do let scope ← get; f scope scope) :=
  rfl

theorem getDisjointMut_apply {n : Nat} {slots : Vector Nat n} {scope : CommandScope}
    (range : ∀ slot ∈ slots.toList, slot < scope.bindings.leases.length)
    (distinct : slots.toList.Nodup) :
    getDisjointMut slots scope = .ok (slots.map scope.bindings.lease) scope := by
  change (ite _ _ _ : Resolve (Vector Lease n)) scope = _
  rw [if_pos ⟨range, distinct⟩]
  rfl

/-- Slots that were validated are in range and disjoint: the `expect` is not reached. -/
@[simp] theorem validated_getDisjointMut {n : Nat} (setIds slots : Vector Nat n)
    (f : Vector Lease n → Resolve β) :
    (do validateResolveRequest setIds slots
        let leases ← getDisjointMut slots
        f leases) =
      (do let scope ← get
          question (validateBindingRequest scope.bindings.setId scope.bindings.leases.length
            setIds.toList slots.toList)
          f (slots.map scope.bindings.lease)) := by
  funext scope
  change (do
      question (validateBindingRequest scope.bindings.setId scope.bindings.leases.length
        setIds.toList slots.toList)
      getDisjointMut slots >>= f : Resolve β) scope = (do
      question (validateBindingRequest scope.bindings.setId scope.bindings.leases.length
        setIds.toList slots.toList)
      f (slots.map scope.bindings.lease)) scope
  cases valid : validateBindingRequest scope.bindings.setId scope.bindings.leases.length
    setIds.toList slots.toList with
  | error error => rfl
  | ok _ =>
    obtain ⟨-, distinct, range⟩ := validateBindingRequest_eq_ok.mp valid
    change (getDisjointMut slots >>= f) scope = _
    simp only [bind, EStateM.bind, getDisjointMut_apply range distinct]
    rfl

end Programs

theorem resolveOperands_eq (operands : List Operand) :
    resolveOperands operands = (do
      let scope ← get
      question (validateBindingRequest scope.bindings.setId scope.bindings.leases.length
        (operands.map (·.handle.setId)) (operands.map (·.handle.slot)))
      let buffers ← question
        (operands.mapM fun operand => operand.borrow (scope.bindings.lease operand.handle.slot))
      return ⟨scope.queue.stream, buffers⟩) := by
  simp only [resolveOperands, CheckedBindings.resolve, question_bind, bind_assoc]

@[simp] theorem Operand.handle_read (handle : Read) : (Operand.read handle).handle = handle.toHandle :=
  rfl

@[simp] theorem Operand.handle_write (handle : Write) :
    (Operand.write handle).handle = handle.toHandle := rfl

theorem resolveRww_resolved (first : Read) (second third : Write) :
    ResolvedRww.resolved <$> resolveRww first second third =
      resolveOperands [.read first, .write second, .write third] := by
  simp [-bind_pure_comp, resolveRww, ResolvedRww.resolved, resolveOperands_eq]

theorem resolveRrw_resolved (first second : Read) (third : Write) :
    ResolvedRrw.resolved <$> resolveRrw first second third =
      resolveOperands [.read first, .read second, .write third] := by
  simp [-bind_pure_comp, resolveRrw, ResolvedRrw.resolved, resolveOperands_eq]

theorem resolveRrww_resolved (first second : Read) (third fourth : Write) :
    ResolvedRrww.resolved <$> resolveRrww first second third fourth =
      resolveOperands [.read first, .read second, .write third, .write fourth] := by
  simp [-bind_pure_comp, resolveRrww, ResolvedRrww.resolved, resolveOperands_eq]

theorem resolveRrrww_resolved (first second third : Read) (fourth fifth : Write) :
    ResolvedRrrww.resolved <$> resolveRrrww first second third fourth fifth =
      resolveOperands [.read first, .read second, .read third, .write fourth, .write fifth] := by
  simp [-bind_pure_comp, resolveRrrww, ResolvedRrrww.resolved, resolveOperands_eq]

theorem resolveRrrwww_resolved (first second third : Read) (fourth fifth sixth : Write) :
    ResolvedRrrwww.resolved <$> resolveRrrwww first second third fourth fifth sixth =
      resolveOperands [.read first, .read second, .read third, .write fourth, .write fifth,
        .write sixth] := by
  simp [-bind_pure_comp, resolveRrrwww, ResolvedRrrwww.resolved, resolveOperands_eq]

theorem resolveRrrrrw_resolved (first second third fourth fifth : Read) (sixth : Write) :
    ResolvedRrrrrw.resolved <$> resolveRrrrrw first second third fourth fifth sixth =
      resolveOperands [.read first, .read second, .read third, .read fourth, .read fifth,
        .write sixth] := by
  simp [-bind_pure_comp, resolveRrrrrw, ResolvedRrrrrw.resolved, resolveOperands_eq]

theorem resolveRrrrrww_resolved (first second third fourth fifth : Read) (sixth seventh : Write) :
    ResolvedRrrrrww.resolved <$> resolveRrrrrww first second third fourth fifth sixth seventh =
      resolveOperands [.read first, .read second, .read third, .read fourth, .read fifth,
        .write sixth, .write seventh] := by
  simp [-bind_pure_comp, resolveRrrrrww, ResolvedRrrrrww.resolved, resolveOperands_eq]

theorem resolveRrrrrrww_resolved (first second third fourth fifth sixth : Read)
    (seventh eighth : Write) :
    ResolvedRrrrrrww.resolved <$> resolveRrrrrrww first second third fourth fifth sixth seventh
      eighth =
      resolveOperands [.read first, .read second, .read third, .read fourth, .read fifth,
        .read sixth, .write seventh, .write eighth] := by
  simp [-bind_pure_comp, resolveRrrrrrww, ResolvedRrrrrrww.resolved, resolveOperands_eq]

theorem resolveRrrrrrrww_resolved (first second third fourth fifth sixth seventh : Read)
    (eighth ninth : Write) :
    ResolvedRrrrrrrww.resolved <$> resolveRrrrrrrww first second third fourth fifth sixth seventh
      eighth ninth =
      resolveOperands [.read first, .read second, .read third, .read fourth, .read fifth,
        .read sixth, .read seventh, .write eighth, .write ninth] := by
  simp [-bind_pure_comp, resolveRrrrrrrww, ResolvedRrrrrrrww.resolved, resolveOperands_eq]

theorem resolveRrrrrrwww_resolved (first second third fourth fifth sixth : Read)
    (seventh eighth ninth : Write) :
    ResolvedRrrrrrwww.resolved <$> resolveRrrrrrwww first second third fourth fifth sixth seventh
      eighth ninth =
      resolveOperands [.read first, .read second, .read third, .read fourth, .read fifth,
        .read sixth, .write seventh, .write eighth, .write ninth] := by
  simp [-bind_pure_comp, resolveRrrrrrwww, ResolvedRrrrrrwww.resolved, resolveOperands_eq]

theorem resolveRrrrrrrrwww_resolved (first second third fourth fifth sixth seventh eighth : Read)
    (ninth tenth eleventh : Write) :
    ResolvedRrrrrrrrwww.resolved <$> resolveRrrrrrrrwww first second third fourth fifth sixth
      seventh eighth ninth tenth eleventh =
      resolveOperands [.read first, .read second, .read third, .read fourth, .read fifth,
        .read sixth, .read seventh, .read eighth, .write ninth, .write tenth,
        .write eleventh] := by
  simp [-bind_pure_comp, resolveRrrrrrrrwww, ResolvedRrrrrrrrwww.resolved, resolveOperands_eq]

/-! ## What resolution does -/

/-- The lease holds a buffer of the operand's type, in a mode that the operand may use. -/
def Operand.Finds (lease : Lease) (buffer : DeviceBuffer) : Operand → Prop
  | .read handle =>
    lease = .occupied handle.element (.read buffer) ∨
      lease = .occupied handle.element (.readWrite buffer)
  | .write handle => lease = .occupied handle.element (.readWrite buffer)

/-- The operands are distinct slots of this arena with live leases for them. -/
structure CheckedBindings.Resolvable (bindings : CheckedBindings) (operands : List Operand) :
    Prop where
  own : ∀ operand ∈ operands, operand.handle.setId = bindings.setId
  range : ∀ operand ∈ operands, operand.handle.slot < bindings.leases.length
  distinct : (operands.map (·.handle.slot)).Nodup
  live : ∀ operand ∈ operands, ∃ buffer, operand.Finds (bindings.lease operand.handle.slot) buffer

/-- From every scope, the program returns the stream of its queue and the buffers that the slots of
the operands hold, in their order, or it reports a command error because the operands are not
resolvable. The scope stays as it is in both cases. -/
def Resolves (program : Resolve Resolved) (operands : List Operand) : Prop :=
  ∀ scope : CommandScope, Ends program scope
    (fun resolved after => after = scope ∧ scope.bindings.Resolvable operands ∧
      resolved.stream = scope.queue.stream ∧
      List.Forall₂ (fun operand buffer =>
        operand.Finds (scope.bindings.lease operand.handle.slot) buffer) operands resolved.buffers)
    (fun failure after => after = scope ∧ ¬ scope.bindings.Resolvable operands ∧
      ∃ error, failure = .command error)

theorem Operand.borrow_eq_ok {operand : Operand} {lease : Lease} {buffer : DeviceBuffer} :
    operand.borrow lease = .ok buffer ↔ operand.Finds lease buffer := by
  cases operand with
  | read handle =>
    unfold Operand.borrow Operand.Finds Except.mapError
    cases lease with
    | vacant => simp [Element.read]
    | occupied variant access =>
      by_cases type : variant = handle.element
      · cases access <;> simp [Element.read, type]
      · simp [Element.read, type]
  | write handle => exact Operand.borrow_write_eq_ok

/-- A list can be resolved exactly when it is resolvable. -/
theorem CheckedBindings.resolvable_iff {bindings : CheckedBindings} {operands : List Operand} :
    bindings.Resolvable operands ↔ ∃ buffers, bindings.resolve operands = .ok buffers := by
  simp only [resolve_eq_ok, Operand.borrow_eq_ok, exists_and_left, exists_forall₂_iff]
  constructor
  · rintro ⟨own, range, distinct, live⟩
    exact ⟨fun operand mem => ⟨own operand mem, range operand mem⟩, distinct, live⟩
  · rintro ⟨valid, distinct, live⟩
    exact ⟨fun operand mem => (valid operand mem).1, fun operand mem => (valid operand mem).2,
      distinct, live⟩

theorem resolveOperands_resolves (operands : List Operand) :
    Resolves (resolveOperands operands) operands := by
  intro scope
  rw [resolveOperands, ends_bind, ends_get, ends_bind]
  cases found : scope.bindings.resolve operands with
  | ok buffers =>
    have resolvable := CheckedBindings.resolvable_iff.mpr ⟨buffers, found⟩
    obtain ⟨-, -, borrowed⟩ := CheckedBindings.resolve_eq_ok.mp found
    simp only [Operand.borrow_eq_ok] at borrowed
    exact ⟨rfl, resolvable, rfl, borrowed⟩
  | error error =>
    refine ⟨rfl, fun resolvable => ?_, error, rfl⟩
    obtain ⟨buffers, resolved⟩ := CheckedBindings.resolvable_iff.mp resolvable
    rw [found] at resolved
    cases resolved

/-- Each of the eleven functions resolves its handles, in the order of its arguments. -/
theorem resolution_exact :
    (∀ first second third,
      Resolves (ResolvedRww.resolved <$> resolveRww first second third)
        [.read first, .write second, .write third]) ∧
    (∀ first second third,
      Resolves (ResolvedRrw.resolved <$> resolveRrw first second third)
        [.read first, .read second, .write third]) ∧
    (∀ first second third fourth,
      Resolves (ResolvedRrww.resolved <$> resolveRrww first second third fourth)
        [.read first, .read second, .write third, .write fourth]) ∧
    (∀ first second third fourth fifth,
      Resolves (ResolvedRrrww.resolved <$> resolveRrrww first second third fourth fifth)
        [.read first, .read second, .read third, .write fourth, .write fifth]) ∧
    (∀ first second third fourth fifth sixth,
      Resolves (ResolvedRrrwww.resolved <$> resolveRrrwww first second third fourth fifth sixth)
        [.read first, .read second, .read third, .write fourth, .write fifth, .write sixth]) ∧
    (∀ first second third fourth fifth sixth,
      Resolves (ResolvedRrrrrw.resolved <$> resolveRrrrrw first second third fourth fifth sixth)
        [.read first, .read second, .read third, .read fourth, .read fifth, .write sixth]) ∧
    (∀ first second third fourth fifth sixth seventh,
      Resolves (ResolvedRrrrrww.resolved <$> resolveRrrrrww first second third fourth fifth sixth
        seventh)
        [.read first, .read second, .read third, .read fourth, .read fifth, .write sixth,
          .write seventh]) ∧
    (∀ first second third fourth fifth sixth seventh eighth,
      Resolves (ResolvedRrrrrrww.resolved <$> resolveRrrrrrww first second third fourth fifth
        sixth seventh eighth)
        [.read first, .read second, .read third, .read fourth, .read fifth, .read sixth,
          .write seventh, .write eighth]) ∧
    (∀ first second third fourth fifth sixth seventh eighth ninth,
      Resolves (ResolvedRrrrrrrww.resolved <$> resolveRrrrrrrww first second third fourth fifth
        sixth seventh eighth ninth)
        [.read first, .read second, .read third, .read fourth, .read fifth, .read sixth,
          .read seventh, .write eighth, .write ninth]) ∧
    (∀ first second third fourth fifth sixth seventh eighth ninth,
      Resolves (ResolvedRrrrrrwww.resolved <$> resolveRrrrrrwww first second third fourth fifth
        sixth seventh eighth ninth)
        [.read first, .read second, .read third, .read fourth, .read fifth, .read sixth,
          .write seventh, .write eighth, .write ninth]) ∧
    (∀ first second third fourth fifth sixth seventh eighth ninth tenth eleventh,
      Resolves (ResolvedRrrrrrrrwww.resolved <$> resolveRrrrrrrrwww first second third fourth
        fifth sixth seventh eighth ninth tenth eleventh)
        [.read first, .read second, .read third, .read fourth, .read fifth, .read sixth,
          .read seventh, .read eighth, .write ninth, .write tenth, .write eleventh]) := by
  refine ⟨?_, ?_, ?_, ?_, ?_, ?_, ?_, ?_, ?_, ?_, ?_⟩
  · intro first second third
    exact resolveRww_resolved first second third ▸ resolveOperands_resolves _
  · intro first second third
    exact resolveRrw_resolved first second third ▸ resolveOperands_resolves _
  · intro first second third fourth
    exact resolveRrww_resolved first second third fourth ▸ resolveOperands_resolves _
  · intro first second third fourth fifth
    exact resolveRrrww_resolved first second third fourth fifth ▸ resolveOperands_resolves _
  · intro first second third fourth fifth sixth
    exact resolveRrrwww_resolved first second third fourth fifth sixth ▸ resolveOperands_resolves _
  · intro first second third fourth fifth sixth
    exact resolveRrrrrw_resolved first second third fourth fifth sixth ▸ resolveOperands_resolves _
  · intro first second third fourth fifth sixth seventh
    exact resolveRrrrrww_resolved first second third fourth fifth sixth seventh ▸ resolveOperands_resolves _
  · intro first second third fourth fifth sixth seventh eighth
    exact resolveRrrrrrww_resolved first second third fourth fifth sixth seventh eighth ▸ resolveOperands_resolves _
  · intro first second third fourth fifth sixth seventh eighth ninth
    exact resolveRrrrrrrww_resolved first second third fourth fifth sixth seventh eighth ninth ▸ resolveOperands_resolves _
  · intro first second third fourth fifth sixth seventh eighth ninth
    exact resolveRrrrrrwww_resolved first second third fourth fifth sixth seventh eighth ninth ▸ resolveOperands_resolves _
  · intro first second third fourth fifth sixth seventh eighth ninth tenth eleventh
    exact resolveRrrrrrrrwww_resolved first second third fourth fifth sixth seventh eighth ninth tenth eleventh ▸ resolveOperands_resolves _

end LoomKernels
