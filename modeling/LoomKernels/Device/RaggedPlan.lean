import LoomKernels.Device.RaggedKernels

/-!
# Ragged prefill plans

`plan_bf16_ragged` picks one of four algorithms from the shape alone, sizes its grids, and prepares
a launch of each kernel entry of the algorithm. What is prepared is an entry together with a
configuration whose block is the one that the entry declares (`PreparedLaunch`); any other
configuration is refused. The checks of the plan itself are those of `raggedLaunches`.
-/

namespace LoomKernels

/-- `TOKEN_PARALLEL_MIN_AVERAGE_KV_LEN` -/
abbrev tokenParallelMinAverageKvLen : Nat := 64

/-- `TILED_GQA_GROUP_SIZE` -/
abbrev tiledGqaGroupSize : Nat := 4

/-- `TILED_QUERY_ROWS` -/
abbrev tiledQueryRows : Nat := 16

/-- `TILED_WARPS` -/
abbrev tiledWarps : Nat := 4

/-- `TILED_THREADS` -/
abbrev tiledThreads : Nat := warpThreads * tiledWarps

/-- `TILED_PARTITIONS` -/
abbrev tiledPartitions : Nat := 8

/-- `TILED_MIN_AVERAGE_KV_LEN` -/
abbrev tiledMinAverageKvLen : Nat := 256

/-! ## Algorithms -/

inductive Bf16RaggedPrefillAlgorithm where
  | direct
  | tokenParallel8
  | tokenParallel16
  | tiledGqa4
  deriving DecidableEq, Repr

def raggedPrefillAlgorithm (spec : Bf16RaggedPrefillSpec) : Bf16RaggedPrefillAlgorithm :=
  let averageKvLen := spec.nnzKv / spec.batchSize
  if spec.gqaGroupSize = tiledGqaGroupSize ∧ averageKvLen ≥ tiledMinAverageKvLen then .tiledGqa4
  else if averageKvLen < tokenParallelMinAverageKvLen then .direct
  else if spec.numKvHeads = 1 then .tokenParallel16
  else .tokenParallel8

theorem gqaGroupSize_of_tiled {spec : Bf16RaggedPrefillSpec}
    (tiled : raggedPrefillAlgorithm spec = .tiledGqa4) : spec.gqaGroupSize = tiledGqaGroupSize := by
  by_contra other
  simp only [raggedPrefillAlgorithm] at tiled
  rw [if_neg fun h => other h.1] at tiled
  split_ifs at tiled

/-! ## Kernel entries -/

/-- What a kernel entry declares: the block of its `launch_contract`, and the number of warps among
which its body divides a row or a tile. -/
structure KernelEntry where
  block : Nat
  warps : Nat
  deriving DecidableEq, Repr

/-- `ragged_prefill_bf16_nhd_causal` -/
def raggedPrefillEntry : KernelEntry := ⟨32, 1⟩

/-- `ragged_prefill_bf16_nhd_causal_token_parallel8` -/
def raggedPrefillTokenParallel8Entry : KernelEntry := ⟨128, tokenParallel8Warps⟩

/-- `ragged_prefill_bf16_nhd_causal_token_parallel16` -/
def raggedPrefillTokenParallel16Entry : KernelEntry := ⟨512, tokenParallel16Warps⟩

/-- `ragged_prefill_bf16_nhd_causal_tiled_gqa4` -/
def raggedPrefillTiledGqa4Entry : KernelEntry := ⟨128, tiledWarps⟩

/-- `ragged_prefill_bf16_nhd_causal_tiled_gqa4_merge` -/
def raggedPrefillTiledGqa4MergeEntry : KernelEntry := ⟨32, 1⟩

/-! ## Launches -/

inductive RaggedPrefillPlanError where
  | stateCountOutOfRange (states : Nat)
  | workspaceElementCountOutOfRange
  | launch (configured declared : Nat)
  deriving DecidableEq, Repr

/-- A configuration for a kernel entry. -/
structure KernelLaunch where
  entry : KernelEntry
  config : LaunchConfig1D
  deriving DecidableEq, Repr

/-- A launch that has the block its entry declares. -/
structure PreparedLaunch extends KernelLaunch where
  matches_contract : config.block = entry.block

/-- `prepare_*`, of one kernel entry. -/
def KernelLaunch.prepare (launch : KernelLaunch) : Except RaggedPrefillPlanError PreparedLaunch :=
  if h : launch.config.block = launch.entry.block then .ok ⟨launch, h⟩
  else .error (.launch launch.config.block launch.entry.block)

/-- `u32::try_from(n)` of a grid size. -/
def gridSize (n : Nat) : Except RaggedPrefillPlanError Nat :=
  if n < 2 ^ 32 then .ok n else .error (.stateCountOutOfRange n)

/-- The query tiles that the tiled grid has room for: `div_ceil(nnz_qo, 16) + batch_size - 1`. -/
def Bf16RaggedPrefillSpec.tileUpperBound (spec : Bf16RaggedPrefillSpec) : Nat :=
  (spec.nnzQo + tiledQueryRows - 1) / tiledQueryRows + (spec.batchSize - 1)

/-- What a plan decides before it prepares its launches. -/
structure RaggedLaunches where
  workspaceNumel : Nat
  launches : List KernelLaunch
  deriving DecidableEq, Repr

/-- `option.ok_or(error)?` -/
def planOr {α : Type} (option : Option α) (error : RaggedPrefillPlanError) :
    Except RaggedPrefillPlanError α :=
  match option with
  | some a => .ok a
  | none => .error error

/-- The launches that `plan_bf16_ragged` configures, with the checks on their sizes. -/
def raggedLaunches (spec : Bf16RaggedPrefillSpec) :
    Except RaggedPrefillPlanError RaggedLaunches := do
  let states ← planOr (checkedMul spec.nnzQo spec.numQueryHeads) (.stateCountOutOfRange (usizeSize - 1))
  let states ← gridSize states
  match raggedPrefillAlgorithm spec with
  | .direct => return ⟨0, [⟨raggedPrefillEntry, ⟨states, warpThreads⟩⟩]⟩
  | .tokenParallel8 =>
    return ⟨0, [⟨raggedPrefillTokenParallel8Entry, ⟨states, warpThreads * tokenParallel8Warps⟩⟩]⟩
  | .tokenParallel16 =>
    return ⟨0, [⟨raggedPrefillTokenParallel16Entry, ⟨states, warpThreads * tokenParallel16Warps⟩⟩]⟩
  | .tiledGqa4 =>
    let workspaceNumel ← planOr
      ((checkedMul states tiledPartitions).bind (checkedMul · singleDecodePartialStateWidth))
      .workspaceElementCountOutOfRange
    let tiles ← planOr
      (((checkedAdd ((spec.nnzQo + tiledQueryRows - 1) / tiledQueryRows) (spec.batchSize - 1)).bind
        (checkedMul · spec.numKvHeads)).bind (checkedMul · tiledPartitions))
      (.stateCountOutOfRange (usizeSize - 1))
    let tiles ← gridSize tiles
    return ⟨workspaceNumel, [⟨raggedPrefillTiledGqa4Entry, ⟨tiles, tiledThreads⟩⟩,
      ⟨raggedPrefillTiledGqa4MergeEntry, ⟨states, warpThreads⟩⟩]⟩

/-- The launches of each algorithm. -/
def Bf16RaggedPrefillSpec.launches (spec : Bf16RaggedPrefillSpec) : List KernelLaunch :=
  match raggedPrefillAlgorithm spec with
  | .direct => [⟨raggedPrefillEntry, ⟨spec.lseNumel, 32⟩⟩]
  | .tokenParallel8 => [⟨raggedPrefillTokenParallel8Entry, ⟨spec.lseNumel, 256⟩⟩]
  | .tokenParallel16 => [⟨raggedPrefillTokenParallel16Entry, ⟨spec.lseNumel, 512⟩⟩]
  | .tiledGqa4 =>
    [⟨raggedPrefillTiledGqa4Entry, ⟨spec.tileUpperBound * spec.numKvHeads * tiledPartitions, 128⟩⟩,
      ⟨raggedPrefillTiledGqa4MergeEntry, ⟨spec.lseNumel, 32⟩⟩]

theorem planOr_eq_ok {α : Type} {option : Option α} {error : RaggedPrefillPlanError} {a : α} :
    planOr option error = .ok a ↔ option = some a := by
  cases option <;> simp [planOr]

theorem gridSize_eq_ok {n grid : Nat} : gridSize n = .ok grid ↔ n < 2 ^ 32 ∧ n = grid := by
  unfold gridSize
  split
  · rename_i small
    simp only [Except.ok.injEq, small, true_and]
  · rename_i large
    simp only [reduceCtorEq, large, false_and]

/-- A plan that passes its checks has these launches, and its workspace holds eight partial states
for each row of results. -/
theorem raggedLaunches_eq {spec : Bf16RaggedPrefillSpec} {configured : RaggedLaunches}
    (h : raggedLaunches spec = .ok configured) :
    configured.launches = spec.launches ∧
      (raggedPrefillAlgorithm spec = .tiledGqa4 →
        configured.workspaceNumel =
          spec.lseNumel * tiledPartitions * singleDecodePartialStateWidth) := by
  unfold raggedLaunches at h
  obtain ⟨_, hstates, h⟩ := bind_eq_ok.mp h
  obtain ⟨-, rfl⟩ := checkedMul_eq_some.mp (planOr_eq_ok.mp hstates)
  obtain ⟨_, hgrid, h⟩ := bind_eq_ok.mp h
  obtain ⟨-, rfl⟩ := gridSize_eq_ok.mp hgrid
  unfold Bf16RaggedPrefillSpec.launches
  cases algorithm : raggedPrefillAlgorithm spec with
  | direct =>
    rw [algorithm] at h
    cases h
    exact ⟨rfl, nofun⟩
  | tokenParallel8 =>
    rw [algorithm] at h
    cases h
    exact ⟨rfl, nofun⟩
  | tokenParallel16 =>
    rw [algorithm] at h
    cases h
    exact ⟨rfl, nofun⟩
  | tiledGqa4 =>
    rw [algorithm] at h
    obtain ⟨_, hworkspace, h⟩ := bind_eq_ok.mp h
    obtain ⟨_, htiles, h⟩ := bind_eq_ok.mp h
    obtain ⟨_, hgrid, h⟩ := bind_eq_ok.mp h
    simp only [planOr_eq_ok, Option.bind_eq_some_iff, checkedMul_eq_some, checkedAdd_eq_some]
      at hworkspace htiles
    obtain ⟨_, ⟨-, rfl⟩, -, rfl⟩ := hworkspace
    obtain ⟨_, ⟨_, ⟨-, rfl⟩, -, rfl⟩, -, rfl⟩ := htiles
    obtain ⟨-, rfl⟩ := gridSize_eq_ok.mp hgrid
    cases h
    exact ⟨rfl, fun _ => rfl⟩

structure Bf16RaggedPrefillPlan where
  spec : Bf16RaggedPrefillSpec
  algorithm : Bf16RaggedPrefillAlgorithm
  workspaceNumel : Nat
  launches : List PreparedLaunch

def planBf16Ragged (spec : Bf16RaggedPrefillSpec) :
    Except RaggedPrefillPlanError Bf16RaggedPrefillPlan := do
  let configured ← raggedLaunches spec
  let launches ← configured.launches.mapM KernelLaunch.prepare
  return ⟨spec, raggedPrefillAlgorithm spec, configured.workspaceNumel, launches⟩

/-! ## What is planned -/

theorem KernelLaunch.prepare_ok {launch : KernelLaunch} :
    (∃ prepared, launch.prepare = .ok prepared) ↔ launch.config.block = launch.entry.block := by
  unfold KernelLaunch.prepare
  split
  · rename_i same
    simp [same]
  · rename_i other
    simp [other]

theorem prepareAll_ok : ∀ {launches : List KernelLaunch},
    (∃ prepared, launches.mapM KernelLaunch.prepare = .ok prepared) ↔
      ∀ launch ∈ launches, launch.config.block = launch.entry.block
  | [] => by simp [pure, Except.pure]
  | launch :: launches => by
    rw [List.forall_mem_cons, ← KernelLaunch.prepare_ok, ← prepareAll_ok, List.mapM_cons]
    constructor
    · rintro ⟨_, h⟩
      obtain ⟨first, hfirst, h⟩ := bind_eq_ok.mp h
      obtain ⟨rest, hrest, -⟩ := bind_eq_ok.mp h
      exact ⟨⟨first, hfirst⟩, rest, hrest⟩
    · rintro ⟨⟨first, hfirst⟩, rest, hrest⟩
      exact ⟨first :: rest, by rw [hfirst, hrest]; rfl⟩

theorem prepareAll_eq : ∀ {launches : List KernelLaunch} {prepared : List PreparedLaunch},
    launches.mapM KernelLaunch.prepare = .ok prepared →
      prepared.map PreparedLaunch.toKernelLaunch = launches
  | [], _, h => by
    cases h
    rfl
  | launch :: launches, prepared, h => by
    rw [List.mapM_cons] at h
    obtain ⟨first, hfirst, h⟩ := bind_eq_ok.mp h
    obtain ⟨rest, hrest, h⟩ := bind_eq_ok.mp h
    cases h
    rw [List.map_cons, prepareAll_eq hrest]
    unfold KernelLaunch.prepare at hfirst
    split at hfirst <;> cases hfirst
    rfl

/-- What a plan holds. -/
theorem planBf16Ragged_eq_ok {spec : Bf16RaggedPrefillSpec} {plan : Bf16RaggedPrefillPlan}
    (h : planBf16Ragged spec = .ok plan) :
    plan.algorithm = raggedPrefillAlgorithm spec ∧
      plan.launches.map PreparedLaunch.toKernelLaunch = spec.launches ∧
      (raggedPrefillAlgorithm spec = .tiledGqa4 →
        plan.workspaceNumel = spec.lseNumel * tiledPartitions * singleDecodePartialStateWidth) := by
  obtain ⟨configured, hconfigured, h⟩ := bind_eq_ok.mp h
  obtain ⟨launches, hlaunches, h⟩ := bind_eq_ok.mp h
  obtain ⟨eq, workspace⟩ := raggedLaunches_eq hconfigured
  cases h
  exact ⟨rfl, (prepareAll_eq hlaunches).trans eq, workspace⟩

/-- The rows of results of a plan are the blocks of a grid. -/
theorem rows_lt_of_planned {spec : Bf16RaggedPrefillSpec} {plan : Bf16RaggedPrefillPlan}
    (h : planBf16Ragged spec = .ok plan) : spec.lseNumel < 2 ^ 32 := by
  obtain ⟨_, configured, -⟩ := bind_eq_ok.mp h
  obtain ⟨_, states, rest⟩ := bind_eq_ok.mp configured
  obtain ⟨-, rfl⟩ := checkedMul_eq_some.mp (planOr_eq_ok.mp states)
  obtain ⟨_, grid, -⟩ := bind_eq_ok.mp rest
  exact (gridSize_eq_ok.mp grid).1

/-- The launches have the blocks their entries declare, except that of the eight-warp kernel: it is
configured with 256 threads and declares 128. -/
theorem launches_match_iff (spec : Bf16RaggedPrefillSpec) :
    (∀ launch ∈ spec.launches, launch.config.block = launch.entry.block) ↔
      raggedPrefillAlgorithm spec ≠ .tokenParallel8 := by
  unfold Bf16RaggedPrefillSpec.launches
  cases raggedPrefillAlgorithm spec <;> simp [raggedPrefillEntry, raggedPrefillTokenParallel8Entry,
    raggedPrefillTokenParallel16Entry, raggedPrefillTiledGqa4Entry, raggedPrefillTiledGqa4MergeEntry]

/-- A specification within the size checks has a plan exactly when it is not for the eight-warp
kernel. -/
theorem planBf16Ragged_ok_iff {spec : Bf16RaggedPrefillSpec} {configured : RaggedLaunches}
    (h : raggedLaunches spec = .ok configured) :
    (∃ plan, planBf16Ragged spec = .ok plan) ↔ raggedPrefillAlgorithm spec ≠ .tokenParallel8 := by
  rw [← launches_match_iff, ← prepareAll_ok, planBf16Ragged, h, ok_bind, (raggedLaunches_eq h).1]
  constructor
  · rintro ⟨_, plan⟩
    obtain ⟨prepared, hprepared, -⟩ := bind_eq_ok.mp plan
    exact ⟨prepared, hprepared⟩
  · rintro ⟨prepared, hprepared⟩
    exact ⟨_, by rw [hprepared]; rfl⟩

end LoomKernels
