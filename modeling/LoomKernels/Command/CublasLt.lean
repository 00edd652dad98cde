import LoomKernels.Lib.Objects
import LoomKernels.Command.Accounting

/-!
# The cuBLASLt provider

A provider owns one library handle, and each of its plans the descriptors of one GEMM. All of them are
wrappers that give their object back when they are dropped, also when planning ends early. A
failed cleanup poisons the provider: the first status stays, and planning and enqueueing are refused
from then on.

The library is its objects (`LtState`). Only what the driver and the library answer to a call is taken
from outside (`ForeignAnswers`). An object counts as given back once its destructor was called, whatever
the answer is.

`s.Owns past held` says that the library was never misused and that the objects that live are those of
`held` and those that were abandoned because the context could not be bound. Dropping a wrapper takes
the first object off `held` (`runCleanup_owns`), and planning adds the objects of the plan or
leaves `held` as it is (`planBf16_owns`).
-/

namespace LoomKernels

/-! ## The library -/

/-- A failed status of the library. -/
structure CublasError where
  status : Int
  failed : status ≠ 0
  deriving DecidableEq, Repr

inductive CublasComputeType where
  | compute32F
  deriving DecidableEq, Repr

inductive CudaDataType where
  | r32F
  | r16BF
  deriving DecidableEq, Repr

/-- The library takes a new layout as column-major. -/
inductive CublasLtOrder where
  | col
  | row
  deriving DecidableEq, Repr

inductive LtOperand where
  | a
  | b
  | c
  | d
  deriving DecidableEq, Repr

structure LtMatmulDesc where
  computeType : CublasComputeType
  scaleType : CudaDataType
  transA : Bool
  transB : Bool
  deriving DecidableEq, Repr

structure LtMatrixLayout where
  dataType : CudaDataType
  rows : Nat
  columns : Nat
  leadingDimension : Nat
  order : CublasLtOrder
  deriving DecidableEq, Repr

/-- What the library stores for an object. -/
inductive LtValue where
  | handle
  | matmulDesc (desc : LtMatmulDesc)
  | matrixLayout (layout : LtMatrixLayout)
  | matmulPreference (maxWorkspaceBytes : Nat) (minAlignmentBytes : List (LtOperand × Nat))
  deriving DecidableEq, Repr

structure MatmulHeuristic where
  algo : Nat
  workspaceSize : Nat
  deriving DecidableEq, Repr

/-- What the driver and the library answer to a foreign call, by the number of the call. -/
structure ForeignAnswers where
  driver : Nat → Option DriverError
  library : Nat → Option CublasError
  heuristic : Nat → MatmulHeuristic

/-- The library, the provider's sticky status and the errors recorded in the context, with the failures
of cleanups and the objects that were not given back. -/
structure LtState where
  objects : Objects LtValue
  calls : Nat
  stickyStatus : Int
  contextErrors : List DriverError
  cleanupFailures : List CublasError
  abandoned : List Nat

def LtState.start : LtState := ⟨.start, 0, 0, [], [], []⟩

inductive Bf16GemmPlanError where
  | providerPoisoned (status : Int)
  | dimensionOutOfRange (name : String) (value : Nat)
  | workspaceRequirementExceedsLimit (required limit : Nat)
  | driver (error : DriverError)
  | cublasLt (error : CublasError)
  deriving DecidableEq, Repr

abbrev Lt := EStateM Bf16GemmPlanError LtState

section Provider

variable (foreign : ForeignAnswers)

/-- A call of the library that reads `names` and, when it succeeds, has an effect on the objects. -/
def libraryCall (names : List Nat) (effect : Objects LtValue → Objects LtValue) : Lt Unit := do
  let s ← get
  let objects := s.objects.use names
  match foreign.library s.calls with
  | none => set { s with objects := effect objects, calls := s.calls + 1 }
  | some error =>
    set { s with objects, calls := s.calls + 1 }
    throw (.cublasLt error)

/-- A call of the library that makes an object. -/
def createObject (value : LtValue) : Lt Nat := do
  let name := (← get).objects.next
  libraryCall foreign [] (·.create value)
  return name

/-- A call of the library that sets an attribute of an object. -/
def setAttribute (name : Nat) (f : LtValue → LtValue) : Lt Unit :=
  libraryCall foreign [name] (·.set name f)

/-- `bind_to_thread` -/
def bindToThread : Lt Unit := do
  let s ← get
  set { s with calls := s.calls + 1 }
  match foreign.driver s.calls with
  | none => return ()
  | some error => throw (.driver error)

/-! ## Cleanup -/

/-- `record_cleanup_result`: the first failure stays. -/
def recordCleanupResult (s : LtState) : Option CublasError → LtState
  | none => s
  | some error => { s with
      stickyStatus := if s.stickyStatus = 0 then error.status else s.stickyStatus
      cleanupFailures := s.cleanupFailures ++ [error] }

/-- `run_cleanup` of the destructor of an object. -/
def runCleanup (name : Nat) (s : LtState) : LtState :=
  match foreign.driver s.calls with
  | some error => { s with
      calls := s.calls + 1
      contextErrors := s.contextErrors ++ [error]
      abandoned := s.abandoned ++ [name] }
  | none =>
    recordCleanupResult { s with calls := s.calls + 2, objects := s.objects.destroy name }
      (foreign.library (s.calls + 1))

/-! ## Descriptors -/

/-- A new descriptor transposes nothing. -/
def MatmulDesc.new : Lt Nat :=
  createObject foreign (.matmulDesc ⟨.compute32F, .r32F, false, false⟩)

/-- `set_transpose` of the attribute `TRANSA` -/
def LtValue.setTransA (transpose : Bool) : LtValue → LtValue
  | .matmulDesc desc => .matmulDesc { desc with transA := transpose }
  | value => value

/-- `set_transpose` of the attribute `TRANSB` -/
def LtValue.setTransB (transpose : Bool) : LtValue → LtValue
  | .matmulDesc desc => .matmulDesc { desc with transB := transpose }
  | value => value

def LtValue.setOrder (order : CublasLtOrder) : LtValue → LtValue
  | .matrixLayout layout => .matrixLayout { layout with order }
  | value => value

/-- `MatrixLayout::row_major` -/
def MatrixLayout.rowMajor (rows columns leadingDimension : Nat) : Lt Nat := do
  let layout ← createObject foreign
    (.matrixLayout ⟨.r16BF, rows, columns, leadingDimension, .col⟩)
  onError (runCleanup foreign layout) do
    setAttribute foreign layout (·.setOrder .row)
    return layout

def MatmulPreference.new : Lt Nat := createObject foreign (.matmulPreference 0 [])

def LtValue.setWorkspaceLimit (bytes : Nat) : LtValue → LtValue
  | .matmulPreference _ minAlignmentBytes => .matmulPreference bytes minAlignmentBytes
  | value => value

def LtValue.setMinimumAlignment (operand : LtOperand) (bytes : Nat) : LtValue → LtValue
  | .matmulPreference maxWorkspaceBytes minAlignmentBytes =>
    .matmulPreference maxWorkspaceBytes (minAlignmentBytes ++ [(operand, bytes)])
  | value => value

/-! ## Plans -/

/-- `HOPPER_WORKSPACE_LIMIT_BYTES` -/
abbrev hopperWorkspaceLimitBytes : Nat := 32 * 1024 * 1024

structure CheckedDimensions where
  m : Nat
  n : Nat
  k : Nat
  nLd : Nat
  kLd : Nat

def checkedU64 (name : String) (value : Nat) : Except Bf16GemmPlanError Nat :=
  if value < 2 ^ 64 then .ok value else .error (.dimensionOutOfRange name value)

def checkedI64 (name : String) (value : Nat) : Except Bf16GemmPlanError Nat :=
  if value < 2 ^ 63 then .ok value else .error (.dimensionOutOfRange name value)

def CheckedDimensions.new (spec : Bf16GemmSpec) : Except Bf16GemmPlanError CheckedDimensions := do
  return ⟨← checkedU64 "M" spec.m, ← checkedU64 "N" spec.n, ← checkedU64 "K" spec.k,
    ← checkedI64 "N" spec.n, ← checkedI64 "K" spec.k⟩

/-- The objects of one plan. -/
structure PlanInner where
  spec : Bf16GemmSpec
  matmulDesc : Nat
  aLayout : Nat
  weightLayout : Nat
  outputLayout : Nat
  algorithm : Nat
  workspaceRequiredBytes : Nat

/-- `CublasLtProvider::load` -/
def CublasLtProvider.load : Lt Nat := do
  bindToThread foreign
  createObject foreign .handle

/-- `require_healthy` -/
def requireHealthy : Lt Unit := do
  let s ← get
  if s.stickyStatus = 0 then return () else throw (.providerPoisoned s.stickyStatus)

/-- `get_matmul_algo_heuristic` -/
def getMatmulAlgoHeuristic (names : List Nat) : Lt MatmulHeuristic := do
  let number := (← get).calls
  libraryCall foreign names id
  return foreign.heuristic number

/-- The preference of a plan and the choice of its algorithm. The preference is dropped in the end. -/
def chooseAlgorithm (names : List Nat) : Lt MatmulHeuristic := do
  let preference ← MatmulPreference.new foreign
  always (runCleanup foreign preference) do
    setAttribute foreign preference (·.setWorkspaceLimit hopperWorkspaceLimitBytes)
    [LtOperand.a, .b, .c, .d].forM fun operand =>
      setAttribute foreign preference (·.setMinimumAlignment operand tensorAlignmentBytes)
    let heuristic ← getMatmulAlgoHeuristic foreign (names ++ [preference])
    if heuristic.workspaceSize > hopperWorkspaceLimitBytes then
      throw (.workspaceRequirementExceedsLimit heuristic.workspaceSize hopperWorkspaceLimitBytes)
    else return heuristic

/-- `plan_bf16`. What is declared is dropped in reverse order when planning ends early. -/
def planBf16Gemm (handle : Nat) (spec : Bf16GemmSpec) : Lt PlanInner := do
  requireHealthy
  bindToThread foreign
  match CheckedDimensions.new spec with
  | .error error => throw error
  | .ok dimensions =>
    let matmulDesc ← MatmulDesc.new foreign
    onError (runCleanup foreign matmulDesc) do
      setAttribute foreign matmulDesc (·.setTransA false)
      setAttribute foreign matmulDesc (·.setTransB true)
      let aLayout ← MatrixLayout.rowMajor foreign dimensions.m dimensions.k dimensions.kLd
      onError (runCleanup foreign aLayout) do
        let weightLayout ← MatrixLayout.rowMajor foreign dimensions.n dimensions.k dimensions.kLd
        onError (runCleanup foreign weightLayout) do
          let outputLayout ← MatrixLayout.rowMajor foreign dimensions.m dimensions.n dimensions.nLd
          onError (runCleanup foreign outputLayout) do
            let heuristic ← chooseAlgorithm foreign
              [handle, matmulDesc, aLayout, weightLayout, outputLayout]
            return ⟨spec, matmulDesc, aLayout, weightLayout, outputLayout, heuristic.algo,
              heuristic.workspaceSize⟩

/-- The last owner of a plan is dropped: its fields go in the order of their declaration. -/
def PlanInner.drop (plan : PlanInner) (s : LtState) : LtState :=
  runCleanup foreign plan.outputLayout <| runCleanup foreign plan.weightLayout <|
    runCleanup foreign plan.aLayout <| runCleanup foreign plan.matmulDesc s

end Provider

/-! ## What is owned -/

/-- The library was never misused, and what lives in it is `held` and what was abandoned, once for every
error that was recorded in the context. The sticky status is that of the first failed cleanup,
and `past` are the first failures. -/
structure LtState.Owns (past : List CublasError) (s : LtState) (held : List (Nat × LtValue)) :
    Prop where
  objects : ∃ lost, lost.map Prod.fst = s.abandoned ∧ s.objects.Holds (held ++ lost)
  skipped : s.abandoned.length = s.contextErrors.length
  sticky : s.stickyStatus = (s.cleanupFailures.head?.map CublasError.status).getD 0
  failures : past <+: s.cleanupFailures

section Owns

variable {foreign : ForeignAnswers} {past : List CublasError} {s : LtState}
  {held held' : List (Nat × LtValue)} {name : Nat} {v : LtValue}

theorem LtState.owns_start : LtState.start.Owns [] [] :=
  ⟨⟨[], rfl, Objects.holds_start⟩, rfl, rfl, List.nil_prefix⟩

theorem LtState.Owns.perm (h : s.Owns past held) (p : held.Perm held') : s.Owns past held' := by
  obtain ⟨lost, names, holds⟩ := h.objects
  exact ⟨⟨lost, names, holds.perm (p.append_right lost)⟩, h.skipped, h.sticky, h.failures⟩

/-- The provider is poisoned exactly when a cleanup has failed. -/
theorem LtState.Owns.healthy (h : s.Owns past held) :
    s.stickyStatus = 0 ↔ s.cleanupFailures = [] := by
  rw [h.sticky]
  cases s.cleanupFailures with
  | nil => exact ⟨fun _ => rfl, fun _ => rfl⟩
  | cons first rest => exact ⟨fun zero => (first.failed zero).elim, nofun⟩

/-- The value of an object that is held. -/
theorem LtState.Owns.value (h : s.Owns past held) (mem : (name, v) ∈ held) :
    s.objects.value name = some v := by
  obtain ⟨lost, -, holds⟩ := h.objects
  exact holds.value (List.mem_append_left lost mem)

/-- A call that reads objects that are held has its effect, or none when it fails. -/
theorem libraryCall_owns (h : s.Owns past held) {names : List Nat}
    {effect : Objects LtValue → Objects LtValue} (owned : ∀ name ∈ names, ∃ v, (name, v) ∈ held)
    (change : ∀ lost, s.objects.Holds (held ++ lost) → (effect s.objects).Holds (held' ++ lost)) :
    Ends (libraryCall foreign names effect) s (fun _ s' => s'.Owns past held')
      fun _ s' => s'.Owns past held := by
  obtain ⟨lost, names', holds⟩ := h.objects
  have read : s.objects.use names = s.objects := holds.use_eq fun name mem => by
    obtain ⟨v, found⟩ := owned name mem
    exact ⟨v, List.mem_append_left lost found⟩
  unfold libraryCall
  simp only [ends_bind, ends_get, read]
  cases foreign.library s.calls with
  | none => exact ⟨⟨lost, names', change lost holds⟩, h.skipped, h.sticky, h.failures⟩
  | some error => exact ⟨⟨lost, names', holds⟩, h.skipped, h.sticky, h.failures⟩

theorem createObject_owns (h : s.Owns past held) (v : LtValue) :
    Ends (createObject foreign v) s (fun name s' => s'.Owns past ((name, v) :: held))
      fun _ s' => s'.Owns past held := by
  unfold createObject
  simp only [ends_bind, ends_get, ends_pure]
  exact libraryCall_owns h (fun _ mem => absurd mem List.not_mem_nil) fun lost holds => holds.create v

theorem setAttribute_owns (h : s.Owns past ((name, v) :: held)) (f : LtValue → LtValue) :
    Ends (setAttribute foreign name f) s (fun _ s' => s'.Owns past ((name, f v) :: held))
      fun _ s' => s'.Owns past ((name, v) :: held) := by
  refine libraryCall_owns h (fun other mem => ?_) fun lost holds => holds.set f
  rw [List.mem_singleton.mp mem]
  exact ⟨v, List.mem_cons_self⟩

/-- A cleanup keeps the first failure. -/
theorem recordCleanupResult_owns (h : s.Owns past held) (result : Option CublasError) :
    (recordCleanupResult s result).Owns past held := by
  cases result with
  | none => exact h
  | some error =>
    refine ⟨h.objects, h.skipped, ?_, h.failures.trans (List.prefix_append _ _)⟩
    have sticky := h.sticky
    simp only [recordCleanupResult]
    cases failures : s.cleanupFailures with
    | nil =>
      rw [failures] at sticky
      exact if_pos sticky
    | cons first rest =>
      rw [failures] at sticky
      rw [if_neg fun healthy => first.failed (sticky.symm.trans healthy), sticky]
      rfl

/-- A dropped wrapper gives its object back, or abandons it. -/
theorem runCleanup_owns (h : s.Owns past ((name, v) :: held)) :
    (runCleanup foreign name s).Owns past held := by
  obtain ⟨lost, names, holds⟩ := h.objects
  unfold runCleanup
  cases foreign.driver s.calls with
  | none =>
    apply recordCleanupResult_owns
    exact ⟨⟨lost, names, Objects.Holds.destroy holds⟩, h.skipped, h.sticky, h.failures⟩
  | some error =>
    refine ⟨⟨lost ++ [(name, v)], by simp [names], holds.perm ?_⟩, ?_, h.sticky, h.failures⟩
    · rw [← List.append_assoc]
      exact (List.perm_append_singleton (name, v) (held ++ lost)).symm
    · rw [List.length_append, List.length_append, h.skipped]
      rfl

/-- The object of a wrapper that a computation hands over is given back when it ends early. -/
theorem onError_owns {α : Type} {x : Lt α} {Q : α → LtState → Prop}
    (h : Ends x s Q fun _ s' => ∃ v, s'.Owns past ((name, v) :: held)) :
    Ends (onError (runCleanup foreign name) x) s Q fun _ s' => s'.Owns past held :=
  ends_onError.mpr (h.mono (fun _ _ done => done) fun _ _ ⟨_, early⟩ => runCleanup_owns early)

theorem bindToThread_owns (h : s.Owns past held) :
    Ends (bindToThread foreign) s (fun _ s' => s'.Owns past held) fun _ s' => s'.Owns past held := by
  unfold bindToThread
  simp only [ends_bind, ends_get]
  cases foreign.driver s.calls with
  | none => exact ⟨h.objects, h.skipped, h.sticky, h.failures⟩
  | some error => exact ⟨h.objects, h.skipped, h.sticky, h.failures⟩

theorem requireHealthy_owns (h : s.Owns past held) :
    Ends requireHealthy s (fun _ s' => s'.Owns past held) fun _ s' => s'.Owns past held := by
  unfold requireHealthy
  simp only [ends_bind, ends_get]
  split
  · exact h
  · exact h

/-! ### Planning -/

/-- The dimensions as they are, in every field. -/
theorem CheckedDimensions.new_eq_ok {spec : Bf16GemmSpec} {dimensions : CheckedDimensions}
    (checked : CheckedDimensions.new spec = .ok dimensions) :
    dimensions = ⟨spec.m, spec.n, spec.k, spec.n, spec.k⟩ := by
  unfold CheckedDimensions.new checkedU64 checkedI64 at checked
  simp only [bind_eq_ok] at checked
  obtain ⟨m, hm, n, hn, k, hk, nLd, hnLd, kLd, hkLd, eq⟩ := checked
  split_ifs at hm hn hk hnLd hkLd
  cases hm
  cases hn
  cases hk
  cases hnLd
  cases hkLd
  exact (Except.ok.inj eq).symm

/-- The layout of `rows` rows, one after another. -/
def rowMajorLayout (rows columns : Nat) : LtMatrixLayout := ⟨.r16BF, rows, columns, columns, .row⟩

/-- The product with a transposed second operand. -/
def transposedProduct : LtMatmulDesc := ⟨.compute32F, .r32F, false, true⟩

theorem rowMajor_owns (h : s.Owns past held) (rows columns : Nat) :
    Ends (MatrixLayout.rowMajor foreign rows columns columns) s
      (fun name s' => s'.Owns past ((name, .matrixLayout (rowMajorLayout rows columns)) :: held))
      fun _ s' => s'.Owns past held := by
  unfold MatrixLayout.rowMajor
  rw [ends_bind]
  refine (createObject_owns h _).mono (fun name s' owns => ?_) fun _ _ early => early
  refine onError_owns ?_
  rw [ends_bind]
  exact (setAttribute_owns owns (·.setOrder .row)).mono (fun _ _ set => set)
    fun _ _ early => ⟨_, early⟩

/-- The choice of the algorithm leaves no object behind. -/
theorem chooseAlgorithm_owns (h : s.Owns past held) {names : List Nat}
    (owned : ∀ name ∈ names, ∃ v, (name, v) ∈ held) :
    Ends (chooseAlgorithm foreign names) s (fun _ s' => s'.Owns past held)
      fun _ s' => s'.Owns past held := by
  unfold chooseAlgorithm
  rw [ends_bind]
  refine (createObject_owns h _).mono (fun preference s' owns => ?_) fun _ _ early => early
  rw [ends_always]
  -- the preference has some value all the time
  suffices Ends _ s' (fun _ s' => ∃ value, s'.Owns past ((preference, value) :: held))
      (fun _ s' => ∃ value, s'.Owns past ((preference, value) :: held)) from
    this.mono (fun _ _ ⟨_, owns⟩ => runCleanup_owns owns) fun _ _ ⟨_, owns⟩ => runCleanup_owns owns
  have setting : ∀ (f : LtValue → LtValue) (s : LtState),
      (∃ value, s.Owns past ((preference, value) :: held)) →
      Ends (setAttribute foreign preference f) s
        (fun _ s' => ∃ value, s'.Owns past ((preference, value) :: held))
        fun _ s' => ∃ value, s'.Owns past ((preference, value) :: held) := by
    rintro f s ⟨value, owns⟩
    exact (setAttribute_owns owns f).mono (fun _ _ set => ⟨_, set⟩) fun _ _ early => ⟨_, early⟩
  rw [ends_bind]
  refine (setting _ s' ⟨_, owns⟩).mono (fun _ s' limited => ?_) fun _ _ early => early
  rw [ends_bind]
  refine (Ends.forM (fun operand s => setting _ s) _ limited).mono (fun _ s' aligned => ?_)
    fun _ _ early => early
  obtain ⟨value, owns⟩ := aligned
  rw [ends_bind]
  have reads : ∀ name ∈ names ++ [preference], ∃ v, (name, v) ∈ (preference, value) :: held := by
    intro name mem
    rcases List.mem_append.mp mem with given | last
    · obtain ⟨v, found⟩ := owned name given
      exact ⟨v, List.mem_cons_of_mem _ found⟩
    · exact ⟨value, List.mem_singleton.mp last ▸ List.mem_cons_self⟩
  unfold getMatmulAlgoHeuristic
  simp only [ends_bind, ends_get, ends_pure]
  have same := fun lost (holds : s'.objects.Holds ((preference, value) :: held ++ lost)) => holds
  refine (libraryCall_owns owns reads same).mono (fun _ s' chosen => ?_) fun _ _ early => ⟨_, early⟩
  split
  · exact ⟨_, chosen⟩
  · exact ⟨_, chosen⟩

/-- The objects of a plan, the first to be dropped first. -/
def PlanInner.objects (plan : PlanInner) : List (Nat × LtValue) :=
  [(plan.matmulDesc, .matmulDesc transposedProduct),
    (plan.aLayout, .matrixLayout (rowMajorLayout plan.spec.m plan.spec.k)),
    (plan.weightLayout, .matrixLayout (rowMajorLayout plan.spec.n plan.spec.k)),
    (plan.outputLayout, .matrixLayout (rowMajorLayout plan.spec.m plan.spec.n))]

/-- Planning adds the objects of the plan, or nothing. -/
theorem planBf16Gemm_owns {handle : Nat} (spec : Bf16GemmSpec)
    (h : s.Owns past ((handle, .handle) :: held)) :
    Ends (planBf16Gemm foreign handle spec) s
      (fun plan s' => plan.spec = spec ∧ s'.Owns past (plan.objects ++ (handle, .handle) :: held))
      fun _ s' => s'.Owns past ((handle, .handle) :: held) := by
  unfold planBf16Gemm
  rw [ends_bind]
  refine (requireHealthy_owns h).mono (fun _ s healthy => ?_) fun _ _ early => early
  rw [ends_bind]
  refine (bindToThread_owns healthy).mono (fun _ s bound => ?_) fun _ _ early => early
  cases checked : CheckedDimensions.new spec with
  | error error => exact bound
  | ok dimensions =>
    obtain rfl := CheckedDimensions.new_eq_ok checked
    dsimp only
    rw [ends_bind]
    refine (createObject_owns bound _).mono (fun matmulDesc s desc => ?_) fun _ _ early => early
    -- from here on every early end gives back what was made, the last first
    refine onError_owns ?_
    rw [ends_bind]
    refine (setAttribute_owns desc _).mono (fun _ s transA => ?_) fun _ _ early => ⟨_, early⟩
    rw [ends_bind]
    refine (setAttribute_owns transA _).mono (fun _ s transB => ?_) fun _ _ early => ⟨_, early⟩
    rw [ends_bind]
    refine (rowMajor_owns transB _ _).mono (fun aLayout s a => ?_) fun _ _ early => ⟨_, early⟩
    refine (onError_owns ?_).mono (fun _ _ done => done)
      fun _ _ early => ⟨.matmulDesc transposedProduct, early⟩
    rw [ends_bind]
    refine (rowMajor_owns a _ _).mono (fun weightLayout s weight => ?_) fun _ _ early => ⟨_, early⟩
    refine (onError_owns ?_).mono (fun _ _ done => done)
      fun _ _ early => ⟨.matrixLayout (rowMajorLayout spec.m spec.k), early⟩
    rw [ends_bind]
    refine (rowMajor_owns weight _ _).mono (fun outputLayout s output => ?_)
      fun _ _ early => ⟨_, early⟩
    refine (onError_owns ?_).mono (fun _ _ done => done)
      fun _ _ early => ⟨.matrixLayout (rowMajorLayout spec.n spec.k), early⟩
    rw [ends_bind]
    refine (chooseAlgorithm_owns output ?_).mono (fun heuristic s chosen => ?_)
      fun _ _ early => ⟨_, early⟩
    · intro name mem
      simp only [List.mem_cons, List.not_mem_nil, or_false] at mem
      rcases mem with rfl | rfl | rfl | rfl | rfl
      · exact ⟨_, .tail _ (.tail _ (.tail _ (.tail _ (.head _))))⟩
      · exact ⟨_, .tail _ (.tail _ (.tail _ (.head _)))⟩
      · exact ⟨_, .tail _ (.tail _ (.head _))⟩
      · exact ⟨_, .tail _ (.head _)⟩
      · exact ⟨_, .head _⟩
    · refine ⟨rfl, chosen.perm ?_⟩
      exact (List.reverse_perm (PlanInner.objects ⟨spec, matmulDesc, aLayout, weightLayout,
        outputLayout, heuristic.algo, heuristic.workspaceSize⟩)).append_right
        ((handle, .handle) :: held)

/-- A plan that is dropped gives back its objects. -/
theorem PlanInner.drop_owns (plan : PlanInner) (h : s.Owns past (plan.objects ++ held)) :
    (plan.drop foreign s).Owns past held :=
  runCleanup_owns (runCleanup_owns (runCleanup_owns (runCleanup_owns h)))

end Owns

/-! ## Planning without failures -/

/-- No foreign call fails, and every algorithm is within the limit. -/
structure ForeignAnswers.Succeed (foreign : ForeignAnswers) : Prop where
  driver : ∀ number, foreign.driver number = none
  library : ∀ number, foreign.library number = none
  workspace : ∀ number, (foreign.heuristic number).workspaceSize ≤ hopperWorkspaceLimitBytes

/-- The computation ends well from every state. -/
def EndsWell {α : Type} (x : Lt α) : Prop := ∀ s, Ends x s (fun _ _ => True) fun _ _ => False

section EndsWell

variable {foreign : ForeignAnswers} (succeed : foreign.Succeed)

theorem EndsWell.bind {α β : Type} {x : Lt α} {f : α → Lt β} (hx : EndsWell x)
    (hf : ∀ a, EndsWell (f a)) : EndsWell (x >>= f) := by
  intro s
  rw [ends_bind]
  exact (hx s).mono (fun a s' _ => hf a s') fun _ _ early => early

theorem endsWell_pure {α : Type} (a : α) : EndsWell (pure a) := fun _ => trivial

theorem EndsWell.onError {α : Type} {x : Lt α} {cleanup : LtState → LtState} (hx : EndsWell x) :
    EndsWell (onError cleanup x) :=
  fun s => ends_onError.mpr (hx s)

theorem EndsWell.always {α : Type} {x : Lt α} {cleanup : LtState → LtState} (hx : EndsWell x) :
    EndsWell (always cleanup x) :=
  fun s => ends_always.mpr (hx s)

include succeed

theorem libraryCall_succeeds (names : List Nat) (effect : Objects LtValue → Objects LtValue) :
    EndsWell (libraryCall foreign names effect) := by
  intro s
  unfold libraryCall
  simp only [ends_bind, ends_get, succeed.library]
  trivial

theorem createObject_succeeds (v : LtValue) : EndsWell (createObject foreign v) := by
  intro s
  unfold createObject
  simp only [ends_bind, ends_get, ends_pure]
  exact libraryCall_succeeds succeed [] _ s

theorem rowMajor_succeeds (rows columns leadingDimension : Nat) :
    EndsWell (MatrixLayout.rowMajor foreign rows columns leadingDimension) :=
  (createObject_succeeds succeed _).bind fun layout => EndsWell.onError <|
    (libraryCall_succeeds succeed [layout] _).bind fun _ => endsWell_pure layout

theorem chooseAlgorithm_succeeds (names : List Nat) : EndsWell (chooseAlgorithm foreign names) := by
  refine (createObject_succeeds succeed _).bind fun preference => EndsWell.always ?_
  refine (libraryCall_succeeds succeed _ _).bind fun _ => ?_
  refine EndsWell.bind (fun s => Ends.forM (P := fun _ => True) (fun operand s _ =>
    libraryCall_succeeds succeed [preference] _ s) _ trivial) fun _ s => ?_
  unfold getMatmulAlgoHeuristic
  simp only [ends_bind, ends_get, ends_pure]
  refine (libraryCall_succeeds succeed _ _ s).mono (fun _ s' _ => ?_) fun _ _ early => early
  rw [if_neg (Nat.not_lt_of_le (succeed.workspace _))]
  trivial

/-- A healthy provider plans every product whose dimensions are signed words. -/
theorem planBf16Gemm_succeeds {s : LtState} (healthy : s.stickyStatus = 0) {spec : Bf16GemmSpec}
    {dimensions : CheckedDimensions} (checked : CheckedDimensions.new spec = .ok dimensions)
    (handle : Nat) :
    Ends (planBf16Gemm foreign handle spec) s (fun _ _ => True) fun _ _ => False := by
  have bound : EndsWell (bindToThread foreign) := by
    intro s
    unfold bindToThread
    simp only [ends_bind, ends_get, ends_set, succeed.driver]
    trivial
  have ready : Ends requireHealthy s (fun _ _ => True) fun _ _ => False := by
    unfold requireHealthy
    simp only [ends_bind, ends_get, if_pos healthy]
    trivial
  unfold planBf16Gemm
  rw [ends_bind]
  refine ready.mono (fun _ s' _ => ?_) fun _ _ early => early
  rw [ends_bind]
  refine (bound s').mono (fun _ s' _ => ?_) fun _ _ early => early
  rw [checked]
  have row := rowMajor_succeeds succeed
  have set := libraryCall_succeeds succeed
  refine EndsWell.bind (createObject_succeeds succeed _) (fun matmulDesc => EndsWell.onError ?_) s'
  refine (set _ _).bind fun _ => (set _ _).bind fun _ => ?_
  refine (row _ _ _).bind fun aLayout => EndsWell.onError ?_
  refine (row _ _ _).bind fun weightLayout => EndsWell.onError ?_
  refine (row _ _ _).bind fun outputLayout => EndsWell.onError ?_
  exact (chooseAlgorithm_succeeds succeed _).bind fun _ => endsWell_pure _

end EndsWell

/-! ## A poisoned provider -/

theorem planBf16Gemm_poisoned {foreign : ForeignAnswers} {s : LtState} (poisoned : s.stickyStatus ≠ 0)
    (handle : Nat) (spec : Bf16GemmSpec) :
    planBf16Gemm foreign handle spec s = .error (.providerPoisoned s.stickyStatus) s := by
  have unhealthy : requireHealthy s = .error (.providerPoisoned s.stickyStatus) s := by
    show (if s.stickyStatus = 0 then pure () else throw (.providerPoisoned s.stickyStatus) :
      Lt Unit) s = _
    rw [if_neg poisoned]
    rfl
  unfold planBf16Gemm
  show EStateM.bind requireHealthy _ s = _
  rw [EStateM.bind, unhealthy]

/-- The last check is that of the status. -/
theorem Bf16GemmPlan.validateResolved_poisoned (plan : Bf16GemmPlan) (stream : CudaStream)
    {status : Int} (poisoned : status ≠ 0) (buffers : Nat → DeviceBuffer) :
    plan.validateResolved stream status buffers ≠ .ok () := by
  intro validated
  unfold Bf16GemmPlan.validateResolved at validated
  rw [check_bind_eq_ok] at validated
  obtain ⟨-, rest⟩ := validated
  split_ifs at rest
  all_goals
    rw [check_bind_eq_ok] at rest
    cases rest.2

/-- A plan of a poisoned provider is not enqueued: the call fails and launches nothing. -/
theorem Bf16GemmPlan.enqueueInto_poisoned (plan : Bf16GemmPlan) (args : Bf16GemmArgs) (bind : Option DriverError)
    {status : Int} (poisoned : status ≠ 0) (matmul : Option Int) (s : EnqueueState) :
    ∃ stop s', plan.enqueueInto args bind status matmul s = .error stop s' ∧
      s'.device = s.device := by
  rw [Bf16GemmPlan.enqueueInto, bind_run, prepareCommand_run, ofExcept_run]
  cases s.scope.prepareCommand with
  | error error => exact ⟨_, s, rfl, rfl⟩
  | ok permit =>
    cases bind with
    | some error => exact ⟨_, _, rfl, rfl⟩
    | none =>
      dsimp only [ofCommand, Except.mapError]
      rw [bind_run, resolve_run, ofExcept_run, CommandScope.resolve]
      cases s.scope.bindings.resolve (operands args) with
      | error error => exact ⟨_, s, rfl, rfl⟩
      | ok buffers =>
        dsimp only [ofCommand, Except.mapError]
        show ∃ stop s', (ofExcept (plan.validateResolved s.scope.queue.stream status
          (operandsOf buffers)) >>= fun _ => plan.submit permit matmul) s = .error stop s' ∧ _
        rw [bind_run, ofExcept_run]
        cases validated : plan.validateResolved s.scope.queue.stream status (operandsOf buffers) with
        | error error => exact ⟨_, s, rfl, rfl⟩
        | ok _ =>
          exact (plan.validateResolved_poisoned _ poisoned _ validated).elim

end LoomKernels
