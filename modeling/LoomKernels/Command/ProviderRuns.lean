import LoomKernels.Command.Arena
import LoomKernels.Command.CublasLt
import LoomKernels.Host.Gemm

/-!
# Runs of a cuBLASLt provider

A provider that was loaded, with any number of owners, and its plans, each owned by the caller and by the
queues that retain it. The caller plans, clones, drops and enqueues in any order, and every foreign call
may fail. What is in an `Arc` is dropped with its last owner: a plan gives back its descriptors, and the
provider its handle once nobody owns it or one of its plans.

In every state of every run the library was never misused, and the objects that live in it are the
handle, the descriptors of the plans that somebody owns, and what a failed bind of the context left
behind (`provider_sound`). From the first failed cleanup on, no plan is made and nothing is enqueued
(`provider_poisoned`).
-/

namespace LoomKernels

/-! ## States and actions -/

/-- A plan and the number of its owners. -/
structure PlanEntry where
  inner : PlanInner
  holders : Nat

/-- A provider with `providers` owners besides its plans. Plans are known by their position. -/
structure ProviderWorld where
  lt : LtState
  context : CudaContext
  handle : Nat
  providers : Nat
  plans : List PlanEntry
  released : Bool

inductive ProviderAction where
  | cloneProvider
  | dropProvider
  | planBf16 (spec : Bf16GemmSpec)
  | clonePlan (index : Nat)
  | dropPlan (index : Nat)
  | enqueue (index : Nat) (args : Bf16GemmArgs) (scope : EnqueueState)

/-- The state that a call leaves. -/
def endState {ε σ α : Type} : EStateM.Result ε σ α → σ
  | .ok _ s => s
  | .error _ s => s

namespace ProviderWorld

/-- The provider that `load` returns. -/
def start (context : CudaContext) (handle : Nat) (lt : LtState) : ProviderWorld :=
  ⟨lt, context, handle, 1, [], false⟩

variable (foreign : ForeignAnswers) (w : ProviderWorld)

/-- The provider has an owner. -/
def InUse : Prop := w.providers ≠ 0 ∨ ∃ entry ∈ w.plans, entry.holders ≠ 0

instance : Decidable w.InUse := inferInstanceAs (Decidable (_ ∨ _))

/-- The provider is dropped with its last owner. -/
def releaseUnused : ProviderWorld :=
  if w.InUse ∨ w.released = true then w
  else { w with lt := runCleanup foreign w.handle w.lt, released := true }

def setPlan (index : Nat) (entry : PlanEntry) : ProviderWorld :=
  { w with plans := w.plans.set index entry }

/-- `enqueue_into` of a plan: the library is called when the scope has a new command, and then the plan
is retained with it. -/
def enqueue (index : Nat) (args : Bf16GemmArgs) (s : EnqueueState) :
    ProviderWorld × Option (EStateM.Result Stop EnqueueState Unit) :=
  match w.plans[index]? with
  | none => (w, none)
  | some entry =>
    if entry.holders = 0 then (w, none)
    else
      let plan : Bf16GemmPlan :=
        ⟨entry.inner.spec, w.context, index, entry.inner.workspaceRequiredBytes⟩
      let result := plan.enqueueInto args (foreign.driver w.lt.calls) w.lt.stickyStatus
        ((foreign.library (w.lt.calls + 1)).map CublasError.status) s
      let calls := w.lt.calls + 2
      if (endState result).device.log.length = s.device.log.length then
        ({ w with lt := { w.lt with calls } }, some result)
      else
        let objects := w.lt.objects.use [w.handle, entry.inner.matmulDesc, entry.inner.aLayout,
          entry.inner.weightLayout, entry.inner.outputLayout]
        ({ w.setPlan index ⟨entry.inner, entry.holders + 1⟩ with
            lt := { w.lt with objects, calls } }, some result)

/-- What nobody owns can not be used. -/
def step (w : ProviderWorld) : ProviderAction → ProviderWorld
  | .cloneProvider => if w.providers = 0 then w else { w with providers := w.providers + 1 }
  | .dropProvider =>
    if w.providers = 0 then w
    else { w with providers := w.providers - 1 }.releaseUnused foreign
  | .planBf16 spec =>
    if w.providers = 0 then w
    else
      match planBf16Gemm foreign w.handle spec w.lt with
      | .ok inner lt => { w with lt, plans := w.plans ++ [⟨inner, 1⟩] }
      | .error _ lt => { w with lt }
  | .clonePlan index =>
    match w.plans[index]? with
    | some ⟨inner, holders + 1⟩ => w.setPlan index ⟨inner, holders + 2⟩
    | _ => w
  | .dropPlan index =>
    match w.plans[index]? with
    | some ⟨inner, holders + 2⟩ => w.setPlan index ⟨inner, holders + 1⟩
    | some ⟨inner, 1⟩ =>
      { w.setPlan index ⟨inner, 0⟩ with lt := inner.drop foreign w.lt }.releaseUnused foreign
    | _ => w
  | .enqueue index args scope => (w.enqueue foreign index args scope).1

end ProviderWorld

/-! ## What lives -/

/-- The objects of a plan that somebody owns. -/
def PlanEntry.objects (entry : PlanEntry) : List (Nat × LtValue) :=
  if entry.holders = 0 then [] else entry.inner.objects

namespace ProviderWorld

variable {foreign : ForeignAnswers} {w : ProviderWorld} {past : List CublasError}

/-- The objects of the provider and its plans. -/
def objects (w : ProviderWorld) : List (Nat × LtValue) :=
  (if w.released then [] else [(w.handle, .handle)]) ++ w.plans.flatMap PlanEntry.objects

/-- What every action keeps. -/
structure Inv (past : List CublasError) (w : ProviderWorld) : Prop where
  owns : w.lt.Owns past w.objects
  released : w.released = true ↔ ¬ w.InUse

/-- The provider of a plan that somebody owns was not dropped. -/
theorem inUse_of_plan {index holders : Nat} {inner : PlanInner}
    (found : w.plans[index]? = some ⟨inner, holders⟩) (owned : holders ≠ 0) : w.InUse :=
  .inr ⟨_, List.mem_of_getElem? found, owned⟩

theorem Inv.kept (inv : w.Inv past) (used : w.InUse) : w.released = false := by
  cases released : w.released with
  | false => rfl
  | true => exact (inv.released.mp released used).elim

theorem objects_eq (kept : w.released = false) :
    w.objects = (w.handle, .handle) :: w.plans.flatMap PlanEntry.objects := by
  rw [objects, kept]
  rfl

theorem Inv.of_used (kept : w.released = false) (used : w.InUse)
    (owns : w.lt.Owns past w.objects) : w.Inv past := by
  refine ⟨owns, fun released => ?_, fun unused => absurd used unused⟩
  rw [kept] at released
  cases released

/-- A provider without owners gives back its handle. -/
theorem releaseUnused_inv (kept : w.released = false) (owns : w.lt.Owns past w.objects) :
    (w.releaseUnused foreign).Inv past := by
  unfold releaseUnused
  by_cases used : w.InUse
  · rw [if_pos (.inl used)]
    exact Inv.of_used kept used owns
  · rw [if_neg (not_or.mpr ⟨used, by rw [kept]; exact Bool.false_ne_true⟩)]
    rw [objects_eq kept] at owns
    exact ⟨runCleanup_owns owns, fun _ => used, fun _ => rfl⟩

/-- A plan that keeps an owner keeps its objects. -/
theorem setPlan_objects {index holders holders' : Nat} {inner : PlanInner}
    (found : w.plans[index]? = some ⟨inner, holders⟩) (owned : holders ≠ 0) (owned' : holders' ≠ 0) :
    w.objects.Perm (w.setPlan index ⟨inner, holders'⟩).objects := by
  have same : ([] ++ PlanEntry.objects ⟨inner, holders'⟩).Perm
      ([] ++ PlanEntry.objects ⟨inner, holders⟩) := by
    rw [PlanEntry.objects, PlanEntry.objects, if_neg owned, if_neg owned']
  exact ((flatMap_set_perm found same).append_left _).symm

theorem setPlan_inUse {index holders holders' : Nat} {inner : PlanInner}
    (found : w.plans[index]? = some ⟨inner, holders⟩) (owned' : holders' ≠ 0) :
    (w.setPlan index ⟨inner, holders'⟩).InUse := by
  obtain ⟨inside, -⟩ := List.getElem?_eq_some_iff.mp found
  exact inUse_of_plan (List.getElem?_set_self inside) owned'

/-- A plan without an owner gives up its objects. -/
theorem dropPlan_objects {index holders : Nat} {inner : PlanInner}
    (found : w.plans[index]? = some ⟨inner, holders⟩) (owned : holders ≠ 0) :
    w.objects.Perm (inner.objects ++ (w.setPlan index ⟨inner, 0⟩).objects) := by
  have given : (inner.objects ++ PlanEntry.objects ⟨inner, 0⟩).Perm
      ([] ++ PlanEntry.objects ⟨inner, holders⟩) := by
    rw [PlanEntry.objects, PlanEntry.objects, if_neg owned, if_pos rfl, List.append_nil]
    exact List.Perm.refl _
  have plans := (flatMap_set_perm found given).append_left
    (if w.released then [] else [(w.handle, LtValue.handle)])
  exact (plans.symm).trans (List.perm_append_comm_assoc _ _ _)

/-- A new plan brings its objects. -/
theorem addPlan_objects (w : ProviderWorld) (inner : PlanInner) :
    ({ w with plans := w.plans ++ [⟨inner, 1⟩] } : ProviderWorld).objects.Perm
      (inner.objects ++ w.objects) := by
  have added : (w.plans ++ [PlanEntry.mk inner 1]).flatMap PlanEntry.objects =
      w.plans.flatMap PlanEntry.objects ++ inner.objects := by
    rw [List.flatMap_append, List.flatMap_singleton, PlanEntry.objects, if_neg Nat.one_ne_zero]
  have last : (w.objects ++ inner.objects).Perm (inner.objects ++ w.objects) :=
    List.perm_append_comm
  rw [objects, added, ← List.append_assoc]
  exact last

/-- The objects that a call of a plan reads. -/
theorem callObjects_owned {index holders : Nat} {inner : PlanInner} (kept : w.released = false)
    (found : w.plans[index]? = some ⟨inner, holders⟩) (owned : holders ≠ 0) :
    ∀ name ∈ [w.handle, inner.matmulDesc, inner.aLayout, inner.weightLayout, inner.outputLayout],
      ∃ v, (name, v) ∈ w.objects := by
  have ofPlan : ∀ object ∈ inner.objects, object ∈ w.objects := fun object mem =>
    (dropPlan_objects found owned).mem_iff.mpr (List.mem_append_left _ mem)
  intro name mem
  simp only [List.mem_cons, List.not_mem_nil, or_false] at mem
  rcases mem with rfl | rfl | rfl | rfl | rfl
  · exact ⟨.handle, objects_eq kept ▸ List.mem_cons_self⟩
  · exact ⟨_, ofPlan _ (.head _)⟩
  · exact ⟨_, ofPlan _ (.tail _ (.head _))⟩
  · exact ⟨_, ofPlan _ (.tail _ (.tail _ (.head _)))⟩
  · exact ⟨_, ofPlan _ (.tail _ (.tail _ (.tail _ (.head _))))⟩

/-! ## Every action -/

theorem planBf16_inv (inv : w.Inv past) (spec : Bf16GemmSpec) :
    (w.step foreign (.planBf16 spec)).Inv past := by
  dsimp only [step]
  split_ifs with unowned
  · exact inv
  · have kept := inv.kept (.inl unowned)
    have owns := inv.owns
    rw [objects_eq kept] at owns
    have ends := @planBf16Gemm_owns foreign past w.lt _ w.handle spec owns
    unfold Ends at ends
    cases planned : planBf16Gemm foreign w.handle spec w.lt with
    | error error lt =>
      rw [planned] at ends
      exact Inv.of_used kept (.inl unowned) (objects_eq kept ▸ ends)
    | ok inner lt =>
      rw [planned] at ends
      rw [← objects_eq kept] at ends
      exact Inv.of_used kept (.inl unowned) (ends.2.perm (addPlan_objects w inner).symm)

theorem enqueue_inv (inv : w.Inv past) (index : Nat) (args : Bf16GemmArgs) (s : EnqueueState) :
    (w.enqueue foreign index args s).1.Inv past := by
  unfold enqueue
  cases found : w.plans[index]? with
  | none => exact inv
  | some entry =>
    obtain ⟨inner, holders⟩ := entry
    dsimp only
    split_ifs with unowned silent
    · exact inv
    · exact ⟨⟨inv.owns.objects, inv.owns.skipped, inv.owns.sticky, inv.owns.failures⟩, inv.released⟩
    · have kept := inv.kept (inUse_of_plan found unowned)
      obtain ⟨lost, names, holds⟩ := inv.owns.objects
      have read := holds.use_eq fun name mem => by
        obtain ⟨v, mem'⟩ := callObjects_owned kept found unowned name mem
        exact ⟨v, List.mem_append_left lost mem'⟩
      rw [read]
      refine Inv.of_used kept (setPlan_inUse found (Nat.succ_ne_zero holders)) ?_
      have owns := inv.owns.perm (setPlan_objects found unowned (Nat.succ_ne_zero holders))
      exact ⟨owns.objects, owns.skipped, owns.sticky, owns.failures⟩

theorem step_inv (inv : w.Inv past) (action : ProviderAction) : (w.step foreign action).Inv past := by
  cases action with
  | cloneProvider =>
    dsimp only [step]
    split_ifs with unowned
    · exact inv
    · exact Inv.of_used (inv.kept (.inl unowned)) (.inl (Nat.succ_ne_zero _)) inv.owns
  | dropProvider =>
    dsimp only [step]
    split_ifs with unowned
    · exact inv
    · exact releaseUnused_inv (inv.kept (.inl unowned)) inv.owns
  | planBf16 spec => exact planBf16_inv inv spec
  | clonePlan index =>
    dsimp only [step]
    split
    next inner holders found =>
      have owned : holders + 1 ≠ 0 := Nat.succ_ne_zero holders
      have owned' : holders + 2 ≠ 0 := Nat.succ_ne_zero _
      exact Inv.of_used (inv.kept (inUse_of_plan found owned)) (setPlan_inUse found owned')
        (inv.owns.perm (setPlan_objects found owned owned'))
    next => exact inv
  | dropPlan index =>
    dsimp only [step]
    split
    next inner holders found =>
      have owned : holders + 2 ≠ 0 := Nat.succ_ne_zero _
      have owned' : holders + 1 ≠ 0 := Nat.succ_ne_zero holders
      exact Inv.of_used (inv.kept (inUse_of_plan found owned)) (setPlan_inUse found owned')
        (inv.owns.perm (setPlan_objects found owned owned'))
    next inner found =>
      have kept := inv.kept (inUse_of_plan found Nat.one_ne_zero)
      have owns := inv.owns.perm (dropPlan_objects found Nat.one_ne_zero)
      exact releaseUnused_inv kept (inner.drop_owns owns)
    next => exact inv
  | enqueue index args scope => exact enqueue_inv inv index args scope

/-! ## Every run -/

/-- What holds in every state of a provider. -/
structure Sound (w : ProviderWorld) : Prop where
  unmisused : w.lt.objects.misuses = 0
  live : ∀ name, (w.lt.objects.value name).isSome ↔
    name ∈ w.objects.map Prod.fst ∨ name ∈ w.lt.abandoned
  values : ∀ name v, (name, v) ∈ w.objects → w.lt.objects.value name = some v
  once : (w.objects.map Prod.fst ++ w.lt.abandoned).Nodup
  abandoned : w.lt.abandoned.length = w.lt.contextErrors.length
  unused : ¬ w.InUse → w.objects = []
  healthy : w.lt.stickyStatus = 0 ↔ w.lt.cleanupFailures = []

theorem Inv.sound (inv : w.Inv past) : w.Sound := by
  obtain ⟨lost, names, holds⟩ := inv.owns.objects
  refine ⟨holds.unmisused, fun name => ?_, fun name v => inv.owns.value, ?_, inv.owns.skipped,
    fun unused => ?_, inv.owns.healthy⟩
  · rw [Option.isSome_iff_exists, ← names, ← List.mem_append, ← List.map_append]
    constructor
    · rintro ⟨v, lives⟩
      exact List.mem_map.mpr ⟨(name, v), (holds.live name v).mp lives, rfl⟩
    · intro mem
      obtain ⟨⟨name, v⟩, found, rfl⟩ := List.mem_map.mp mem
      exact ⟨v, holds.value found⟩
  · rw [← names, ← List.map_append]
    exact holds.names
  · rw [objects, if_pos (inv.released.mpr unused), List.nil_append, List.flatMap_eq_nil_iff]
    intro entry mem
    exact if_pos (not_not.mp fun owned => unused (.inr ⟨entry, mem, owned⟩))

/-- A provider that was just loaded owns its handle. -/
theorem start_inv {context : CudaContext} {handle : Nat} {lt : LtState}
    (loaded : CublasLtProvider.load foreign LtState.start = .ok handle lt) :
    (start context handle lt).Inv [] := by
  have ends : Ends (CublasLtProvider.load foreign) LtState.start
      (fun handle lt => lt.Owns [] [(handle, .handle)]) fun _ _ => True := by
    rw [CublasLtProvider.load, ends_bind]
    refine (bindToThread_owns LtState.owns_start).mono (fun _ s bound => ?_) fun _ _ _ => trivial
    exact (createObject_owns bound _).mono (fun _ _ made => made) fun _ _ _ => trivial
  unfold Ends at ends
  rw [loaded] at ends
  exact Inv.of_used rfl (.inl Nat.one_ne_zero) ends

theorem run_inv {context : CudaContext} {handle : Nat} {lt : LtState}
    (loaded : CublasLtProvider.load foreign LtState.start = .ok handle lt)
    (actions : List ProviderAction) : (run (step foreign) (start context handle lt) actions).Inv [] :=
  run_invariant (start_inv loaded) (fun _ action inv => step_inv inv action) actions

/-- Whatever the driver and the library answer, in every state of every run the library was never
misused, and what lives in it is owned once or was abandoned with an error in the context. -/
theorem provider_sound {context : CudaContext} {handle : Nat} {lt : LtState}
    (loaded : CublasLtProvider.load foreign LtState.start = .ok handle lt)
    (actions : List ProviderAction) : (run (step foreign) (start context handle lt) actions).Sound :=
  (run_inv loaded actions).sound

/-! ## Poison -/

/-- The provider refuses to plan and to enqueue. -/
structure Refuses (foreign : ForeignAnswers) (status : Int) (w : ProviderWorld) : Prop where
  sticky : w.lt.stickyStatus = status
  plans : ∀ spec, planBf16Gemm foreign w.handle spec w.lt = .error (.providerPoisoned status) w.lt
  enqueues : ∀ index args s result, (w.enqueue foreign index args s).2 = some result →
    ∃ stop s', result = .error stop s' ∧ s'.device = s.device

theorem refuses_of_sticky {status : Int} (sticky : w.lt.stickyStatus = status)
    (poisoned : status ≠ 0) : w.Refuses foreign status := by
  refine ⟨sticky, fun spec => ?_, fun index args s result found => ?_⟩
  · rw [← sticky] at poisoned ⊢
    exact planBf16Gemm_poisoned poisoned w.handle spec
  · unfold enqueue at found
    cases entry : w.plans[index]? with
    | none =>
      rw [entry] at found
      cases found
    | some entry' =>
      rw [entry] at found
      dsimp only at found
      rw [sticky] at found
      split_ifs at found with unowned silent
      · obtain rfl := Option.some.inj found
        exact Bf16GemmPlan.enqueueInto_poisoned _ args _ poisoned _ s
      · obtain rfl := Option.some.inj found
        exact Bf16GemmPlan.enqueueInto_poisoned _ args _ poisoned _ s

/-- The failures of cleanups poison the provider with the first one. -/
theorem Inv.sticky {first : CublasError} (inv : w.Inv [first]) :
    w.lt.stickyStatus = first.status := by
  obtain ⟨rest, failures⟩ := inv.owns.failures
  rw [inv.owns.sticky, ← failures]
  rfl

@[simp] theorem releaseUnused_plans : (w.releaseUnused foreign).plans = w.plans := by
  unfold releaseUnused
  split_ifs
  · rfl
  · rfl

@[simp] theorem setPlan_length (index : Nat) (entry : PlanEntry) :
    (w.setPlan index entry).plans.length = w.plans.length :=
  List.length_set

/-- A poisoned provider makes no plan. -/
theorem step_plans (poisoned : w.lt.stickyStatus ≠ 0) (action : ProviderAction) :
    (w.step foreign action).plans.length = w.plans.length := by
  cases action with
  | cloneProvider =>
    dsimp only [step]
    split_ifs
    · rfl
    · rfl
  | dropProvider =>
    dsimp only [step]
    split_ifs
    · rfl
    · rw [releaseUnused_plans]
  | planBf16 spec =>
    dsimp only [step]
    rw [planBf16Gemm_poisoned poisoned w.handle spec]
    split_ifs
    · rfl
    · rfl
  | clonePlan index =>
    dsimp only [step]
    split
    · exact setPlan_length index _
    · rfl
  | dropPlan index =>
    dsimp only [step]
    split
    · exact setPlan_length index _
    · rw [releaseUnused_plans]
      exact setPlan_length index _
    · rfl
  | enqueue index args scope =>
    dsimp only [step, enqueue]
    split
    · rfl
    · split_ifs
      · rfl
      · rfl
      · exact setPlan_length index _

/-- Once a cleanup has failed, no run makes a plan or enqueues one, and the first status stays. -/
theorem provider_poisoned {context : CudaContext} {handle : Nat} {lt : LtState}
    (loaded : CublasLtProvider.load foreign LtState.start = .ok handle lt)
    (before after : List ProviderAction) {first : CublasError} {rest : List CublasError}
    (failed : (run (step foreign) (start context handle lt) before).lt.cleanupFailures =
      first :: rest) :
    (run (step foreign) (start context handle lt) (before ++ after)).Refuses foreign first.status ∧
      (run (step foreign) (start context handle lt) (before ++ after)).plans.length =
        (run (step foreign) (start context handle lt) before).plans.length := by
  have inv := @run_inv foreign context handle lt loaded before
  have split : run (step foreign) (start context handle lt) (before ++ after) =
      run (step foreign) (run (step foreign) (start context handle lt) before) after :=
    List.foldl_append
  have since : Inv [first] (run (step foreign) (start context handle lt) before) := by
    refine ⟨⟨inv.owns.objects, inv.owns.skipped, inv.owns.sticky, ?_⟩, inv.released⟩
    rw [failed]
    exact List.prefix_append [first] rest
  rw [split]
  suffices Inv [first] _ ∧ _ from
    ⟨refuses_of_sticky this.1.sticky first.failed, this.2⟩
  refine run_invariant (P := fun w => Inv [first] w ∧ w.plans.length = _) ⟨since, rfl⟩ ?_ after
  rintro w action ⟨inv, plans⟩
  have poisoned : w.lt.stickyStatus ≠ 0 := inv.sticky ▸ first.failed
  exact ⟨step_inv inv action, (step_plans poisoned action).trans plans⟩

end ProviderWorld

/-! ## One run -/

theorem sevenFailed : (7 : Int) ≠ 0 := by decide

/-- The library refuses to destroy the descriptor of the first plan. -/
def descriptorStuck : ForeignAnswers :=
  ⟨fun _ => none, fun number => if number = 24 then some ⟨7, sevenFailed⟩ else none, fun _ => ⟨0, 0⟩⟩

/-- The handle is the first object. -/
def handleLoaded : LtState := { LtState.start with objects := Objects.start.create .handle, calls := 2 }

theorem descriptorStuck_loads :
    CublasLtProvider.load descriptorStuck LtState.start = .ok 0 handleLoaded := rfl

/-- The operands of a product of two rows and two columns, and an empty workspace. -/
def twoByTwoOperands : CheckedBindings :=
  ⟨1, 2, ⟨3, ⟨7, 0⟩⟩, [eraseRead ⟨1, .bf16, ⟨7, 0⟩, 2, 4096⟩, eraseRead ⟨2, .bf16, ⟨7, 0⟩, 2, 8192⟩,
    eraseReadWrite ⟨3, .bf16, ⟨7, 0⟩, 4, 12288⟩, eraseReadWrite ⟨4, .u8, ⟨7, 0⟩, 0, 16384⟩], 4⟩

def inputOperand (slot : Nat) : ReadOf .bf16 := ⟨⟨⟨2, slot, .bf16⟩⟩, rfl⟩

def twoByTwoArgs : Bf16GemmArgs :=
  ⟨inputOperand 0, inputOperand 1, ⟨⟨⟨2, 2, .bf16⟩⟩, rfl⟩, ⟨⟨⟨2, 3, .u8⟩⟩, rfl⟩⟩

/-- A plan is made and enqueued. Its caller and its command then drop it, one after the other. -/
def enqueuedOnce : List ProviderAction :=
  [.planBf16 twoByTwoGemmSpec,
    .enqueue 0 twoByTwoArgs ⟨⟨oneCommandQueue, twoByTwoOperands, 3, 0, none⟩, ⟨[], [], [], []⟩⟩,
    .dropPlan 0, .dropPlan 0]

theorem enqueuedOnce_fails :
    (run (ProviderWorld.step descriptorStuck) (ProviderWorld.start ⟨7, 0⟩ 0 handleLoaded)
      enqueuedOnce).lt.cleanupFailures = [⟨7, sevenFailed⟩] := by
  decide +kernel

/-- The command retains the plan, and in the end only the handle lives. -/
theorem provider_sound_enqueuedOnce :
    (run (ProviderWorld.step descriptorStuck) (ProviderWorld.start ⟨7, 0⟩ 0 handleLoaded)
        (enqueuedOnce.take 2)).plans.map PlanEntry.holders = [2] ∧
      (run (ProviderWorld.step descriptorStuck) (ProviderWorld.start ⟨7, 0⟩ 0 handleLoaded)
        (enqueuedOnce ++ [.planBf16 twoByTwoGemmSpec])).objects = [(0, .handle)] ∧
      (run (ProviderWorld.step descriptorStuck) (ProviderWorld.start ⟨7, 0⟩ 0 handleLoaded)
        (enqueuedOnce ++ [.planBf16 twoByTwoGemmSpec])).Sound :=
  ⟨by decide +kernel, by decide +kernel, ProviderWorld.provider_sound descriptorStuck_loads _⟩

/-- The provider lives, and does not plan again. -/
theorem provider_poisoned_enqueuedOnce :
    (run (ProviderWorld.step descriptorStuck) (ProviderWorld.start ⟨7, 0⟩ 0 handleLoaded)
        enqueuedOnce).providers = 1 ∧
      (run (ProviderWorld.step descriptorStuck) (ProviderWorld.start ⟨7, 0⟩ 0 handleLoaded)
        (enqueuedOnce ++ [.planBf16 twoByTwoGemmSpec])).Refuses descriptorStuck 7 ∧
      (run (ProviderWorld.step descriptorStuck) (ProviderWorld.start ⟨7, 0⟩ 0 handleLoaded)
        (enqueuedOnce ++ [.planBf16 twoByTwoGemmSpec])).plans.length = 1 := by
  obtain ⟨refuses, plans⟩ := @ProviderWorld.provider_poisoned descriptorStuck ⟨7, 0⟩ 0 _
    descriptorStuck_loads enqueuedOnce [.planBf16 twoByTwoGemmSpec] _ [] enqueuedOnce_fails
  exact ⟨by decide +kernel, refuses, plans.trans (by decide +kernel)⟩

end LoomKernels
