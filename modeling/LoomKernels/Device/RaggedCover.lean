import LoomKernels.Device.TiledExact

/-!
# Which warp takes which tokens

Each algorithm of ragged prefill divides the tokens of a row of results in its own way: the direct
kernel gives them all to the one warp of a block, the token-parallel ones cut them over the warps of a
block, and the tiled kernel cuts the tokens of a query tile over eight blocks, in each of which one
warp holds the row. What a kernel body counts on is a number of warps; what exists is the block of the
launch. In every plan that is prepared the two agree, and the warps that exist share the tokens of
each row without gap or overlap (`raggedPlan_sharesTokens`).
-/

namespace LoomKernels

/-! ## Shares -/

/-- The warps of a grid share the tokens from `start` to `stop`: none but these are taken, and each
of them by one warp. -/
structure ShareTokens (blocks warps : Nat) (takes : Nat → Nat → Nat → Prop) (start stop : Nat) :
    Prop where
  union : ∀ token, (∃ block < blocks, ∃ warp < warps, takes block warp token) ↔
    start ≤ token ∧ token < stop
  disjoint : ∀ block < blocks, ∀ warp < warps, ∀ block' < blocks, ∀ warp' < warps, ∀ token,
    takes block warp token → takes block' warp' token → block = block' ∧ warp = warp'

/-- Warps that take the cells of a cut share what lies between its ends. -/
theorem shareTokens_of_cells {blocks warps n : Nat} {takes : Nat → Nat → Nat → Prop}
    {cut : Nat → Nat} (mono : ∀ i < n, cut i ≤ cut (i + 1)) (home : Nat → Nat × Nat)
    (exists_home : ∀ i < n, (home i).1 < blocks ∧ (home i).2 < warps)
    (cells : ∀ block < blocks, ∀ warp < warps, ∀ token, takes block warp token ↔
      ∃ i < n, home i = (block, warp) ∧ cut i ≤ token ∧ token < cut (i + 1)) :
    ShareTokens blocks warps takes (cut 0) (cut n) := by
  refine ⟨fun token => ⟨?_, ?_⟩, ?_⟩
  · rintro ⟨block, hb, warp, hw, takes⟩
    obtain ⟨i, hi, -, lo, hi'⟩ := (cells block hb warp hw token).mp takes
    exact mem_of_cell mono hi lo hi'
  · rintro ⟨lo, hi⟩
    obtain ⟨i, ⟨hin, lo, hi⟩, -⟩ := existsUnique_cell mono lo hi
    obtain ⟨hb, hw⟩ := exists_home i hin
    exact ⟨_, hb, _, hw, (cells _ hb _ hw token).mpr ⟨i, hin, rfl, lo, hi⟩⟩
  · intro block hb warp hw block' hb' warp' hw' token takes takes'
    obtain ⟨i, hi, rfl', lo, hi'⟩ := (cells block hb warp hw token).mp takes
    obtain ⟨j, hj, rfl'', lo', hj'⟩ := (cells block' hb' warp' hw' token).mp takes'
    obtain ⟨first, last⟩ := mem_of_cell mono hi lo hi'
    obtain rfl : i = j := (existsUnique_cell mono first last).unique ⟨hi, lo, hi'⟩ ⟨hj, lo', hj'⟩
    exact Prod.mk.inj (rfl'.symm.trans rfl'')

/-! ## The tokens of a warp -/

section Takes

variable (spec : Bf16RaggedPrefillSpec) (qoIndptr kvIndptr : Slice Int32)

/-- A warp of the direct kernel goes over the tokens that its guard finds. -/
def Bf16RaggedPrefillSpec.DirectTakes (state block warp token : Nat) : Prop :=
  block = state ∧ ∃ lo hi, (∀ lane < warpThreads, raggedDirectGuard spec.batchSize spec.nnzQo
      spec.nnzKv spec.numQueryHeads qoIndptr kvIndptr block (warp * warpThreads + lane) =
    .ok (some (lo, hi))) ∧ lo ≤ token ∧ token < hi

/-- A warp of a token-parallel kernel goes over its part of what the guard finds. -/
def Bf16RaggedPrefillSpec.TokenParallelTakes (warps state block warp token : Nat) : Prop :=
  block = state ∧ ∃ start count, raggedTokenParallelGuard spec.batchSize spec.nnzQo spec.nnzKv
      spec.numQueryHeads qoIndptr kvIndptr block = .ok (some (start, count)) ∧
    raggedTokenStart warps start count warp ≤ token ∧
    token < raggedTokenStart warps start count (warp + 1)

/-- A warp of the tiled kernel that holds the row goes over the tokens of the block's partition, up to
the causal end of the row. -/
def Bf16RaggedPrefillSpec.TiledTakes (state block warp token : Nat) : Prop :=
  ∃ work row, spec.tiledWork qoIndptr kvIndptr block = .ok (some work) ∧ row / 16 = warp ∧
    work.queryValid row = true ∧ work.queryState spec.numQueryHeads row = state ∧
    work.tile.kvStart + work.partitionTokenStart ≤ token ∧
    token < work.tile.kvStart + work.causalEnd row

/-- A warp of a block takes a token of a row of results. -/
def Bf16RaggedPrefillSpec.WarpTakes (state block warp token : Nat) : Prop :=
  match raggedPrefillAlgorithm spec with
  | .direct => spec.DirectTakes qoIndptr kvIndptr state block warp token
  | .tokenParallel8 =>
    spec.TokenParallelTakes qoIndptr kvIndptr tokenParallel8Warps state block warp token
  | .tokenParallel16 =>
    spec.TokenParallelTakes qoIndptr kvIndptr tokenParallel16Warps state block warp token
  | .tiledGqa4 => spec.TiledTakes qoIndptr kvIndptr state block warp token

end Takes

section Valid

variable {spec : Bf16RaggedPrefillSpec} {qoIndptr kvIndptr : Slice Int32}
  (valid : RaggedValid spec qoIndptr kvIndptr) {state request : Nat} (hstate : state < spec.lseNumel)
  (h : request < spec.batchSize) (lo : indptrStart qoIndptr request ≤ state / spec.numQueryHeads)
  (hi : state / spec.numQueryHeads < indptrStart qoIndptr (request + 1))
include valid hstate h lo hi

/-- The one warp of a direct block takes all tokens of its row. -/
theorem directTakes_share : ShareTokens spec.lseNumel 1 (spec.DirectTakes qoIndptr kvIndptr state)
    (indptrStart kvIndptr request)
    (raggedCausalEnd qoIndptr kvIndptr request (state / spec.numQueryHeads)) := by
  let cut : Nat → Nat
    | 0 => indptrStart kvIndptr request
    | _ + 1 => raggedCausalEnd qoIndptr kvIndptr request (state / spec.numQueryHeads)
  have mono : ∀ i < 1, cut i ≤ cut (i + 1) := fun i hi => by
    obtain rfl : i = 0 := Nat.lt_one_iff.mp hi
    exact (lt_raggedCausalEnd _ _ _ _).le
  refine shareTokens_of_cells mono (fun _ => (state, 0)) (fun _ _ => ⟨hstate, Nat.one_pos⟩) ?_
  intro block _ warp hw token
  obtain rfl : warp = 0 := Nat.lt_one_iff.mp hw
  constructor
  · rintro ⟨rfl, _, _, guard, first, last⟩
    have found := guard 0 (by decide)
    rw [raggedDirectGuard_valid valid h lo hi (by decide)] at found
    cases found
    exact ⟨0, Nat.one_pos, rfl, first, last⟩
  · rintro ⟨i, hi', home, first, last⟩
    obtain rfl : i = 0 := Nat.lt_one_iff.mp hi'
    obtain ⟨rfl, -⟩ := Prod.mk.inj home
    refine ⟨rfl, _, _, fun lane hl => ?_, first, last⟩
    rw [Nat.zero_mul, Nat.zero_add, raggedDirectGuard_valid valid h lo hi hl]

/-- The warps of a token-parallel block take the parts of a proportional cut. -/
theorem tokenParallelTakes_share {warps : Nat} (hw : 0 < warps) :
    ShareTokens spec.lseNumel warps (spec.TokenParallelTakes qoIndptr kvIndptr warps state)
      (indptrStart kvIndptr request)
      (raggedCausalEnd qoIndptr kvIndptr request (state / spec.numQueryHeads)) := by
  let count := causalCount qoIndptr (indptrLen kvIndptr request) request (state / spec.numQueryHeads)
  let cut := raggedTokenStart warps (indptrStart kvIndptr request) count
  have mono : ∀ i < warps, cut i ≤ cut (i + 1) :=
    fun i _ => Nat.add_le_add_left (floorCut_mono count warps i) _
  have first : cut 0 = indptrStart kvIndptr request := by
    simp only [cut, raggedTokenStart, floorCut_zero, Nat.add_zero]
  have last : cut warps = raggedCausalEnd qoIndptr kvIndptr request (state / spec.numQueryHeads) := by
    simp only [cut, raggedTokenStart, floorCut_last hw]
    rfl
  rw [← first, ← last]
  refine shareTokens_of_cells mono (fun warp => (state, warp)) (fun warp hwarp => ⟨hstate, hwarp⟩) ?_
  intro block _ warp hwarp token
  constructor
  · rintro ⟨rfl, _, _, guard, start, stop⟩
    rw [raggedTokenParallelGuard_valid valid h lo hi] at guard
    cases guard
    exact ⟨warp, hwarp, rfl, start, stop⟩
  · rintro ⟨i, -, home, start, stop⟩
    obtain ⟨rfl, rfl⟩ := Prod.mk.inj home
    exact ⟨rfl, _, _, raggedTokenParallelGuard_valid valid h lo hi, start, stop⟩

omit hstate in
/-- The warps that hold a row in its eight blocks take the cells of its cut. -/
theorem tiledTakes_share (group : spec.gqaGroupSize = tiledGqaGroupSize) :
    ShareTokens spec.tiledBlocks tiledWarps (spec.TiledTakes qoIndptr kvIndptr state)
      (indptrStart kvIndptr request)
      (raggedCausalEnd qoIndptr kvIndptr request (state / spec.numQueryHeads)) := by
  have blocks : ∀ p, ∃ block, p < tiledPartitions → block < spec.tiledBlocks ∧
      spec.tiledWork qoIndptr kvIndptr block =
        .ok (some (rowWork spec qoIndptr kvIndptr request state p)) := by
    intro p
    by_cases hp : p < tiledPartitions
    · obtain ⟨block, found, -⟩ := valid.existsUnique_rowWork group lo hi hp h
      exact ⟨block, fun _ => found⟩
    · exact ⟨0, fun hp' => absurd hp' hp⟩
  choose blockOf found using blocks
  let warpOfRow := rowPlace spec qoIndptr request state / 16
  have hwarp : warpOfRow < tiledWarps := by
    have place : rowPlace spec qoIndptr request state < 64 := queryPackedRow_lt _ _ _ _
    show rowPlace spec qoIndptr request state / 16 < 4
    omega
  rw [← @rowCut_zero spec qoIndptr kvIndptr request state, ← rowCut_last lo hi]
  refine shareTokens_of_cells (fun p _ => rowCut_mono state p) (fun p => (blockOf p, warpOfRow))
    (fun p hp => ⟨(found p hp).1, hwarp⟩) ?_
  intro block hb warp hw token
  constructor
  · rintro ⟨work, row, hwork, rfl, live, number, start, stop⟩
    have hrow : row < 64 := by
      have : row / 16 < 4 := hw
      omega
    obtain ⟨-, request', hr', lo', hi', rfl, rfl⟩ :=
      rowWork_of_holds group valid.qo.len valid.kv.len hwork hrow live number
    rw [valid.leading_eq] at hr'
    obtain rfl : request' = request := by
      rw [← valid.qo.requestOf_eq hr' lo' hi', valid.qo.requestOf_eq h lo hi]
    have hp : tiledPartition block < tiledPartitions := Nat.mod_lt _ (by decide)
    have same : block = blockOf (tiledPartition block) :=
      (valid.existsUnique_rowWork group lo hi hp h).unique ⟨hb, hwork⟩ (found _ hp)
    exact ⟨tiledPartition block, hp, by rw [← same], (mem_rowCut_cell state _).mpr ⟨start, stop⟩⟩
  · rintro ⟨p, hp, home, cell⟩
    obtain ⟨rfl, rfl⟩ := Prod.mk.inj home
    exact ⟨_, _, (found p hp).2, rfl, queryValid_packed lo hi _,
      (queryState_packed lo _ _).trans (Nat.div_add_mod' _ _), (mem_rowCut_cell state p).mp cell⟩

end Valid

/-! ## Plans -/

section Plan

variable {spec : Bf16RaggedPrefillSpec} {plan : Bf16RaggedPrefillPlan}
  (planned : planBf16Ragged spec = .ok plan)
include planned

/-- The launches of a plan are configured with the blocks that their entries declare. -/
theorem launches_match : ∀ launch ∈ spec.launches, launch.config.block = launch.entry.block := by
  intro launch mem
  rw [← (planBf16Ragged_eq_ok planned).2.1, List.mem_map] at mem
  obtain ⟨prepared, -, rfl⟩ := mem
  exact prepared.matches_contract

/-- No plan is for the eight-warp kernel, whose entry declares four warps. -/
theorem planned_not_tokenParallel8 : raggedPrefillAlgorithm spec ≠ .tokenParallel8 :=
  (launches_match_iff spec).mp (launches_match planned)

/-- The kernel bodies of a plan count on the warps that their blocks have. -/
theorem launches_warps : ∀ launch ∈ spec.launches,
    launch.entry.warps = launch.config.block / warpThreads := by
  have other := planned_not_tokenParallel8 planned
  unfold Bf16RaggedPrefillSpec.launches
  cases algorithm : raggedPrefillAlgorithm spec with
  | direct => simp [raggedPrefillEntry, warpThreads]
  | tokenParallel8 => exact absurd algorithm other
  | tokenParallel16 => simp [raggedPrefillTokenParallel16Entry, tokenParallel16Warps, warpThreads]
  | tiledGqa4 =>
    simp [raggedPrefillTiledGqa4Entry, raggedPrefillTiledGqa4MergeEntry, tiledWarps, warpThreads]

/-- The warps of the launch that reads the tokens share those of every row. -/
theorem attention_sharesTokens : ∃ launch, spec.launches.head? = some launch ∧
    ∀ {qoIndptr kvIndptr : Slice Int32}, RaggedValid spec qoIndptr kvIndptr →
      ∀ {state request : Nat}, state < spec.lseNumel → request < spec.batchSize →
        indptrStart qoIndptr request ≤ state / spec.numQueryHeads →
        state / spec.numQueryHeads < indptrStart qoIndptr (request + 1) →
        ShareTokens launch.config.grid launch.entry.warps
          (spec.WarpTakes qoIndptr kvIndptr state) (indptrStart kvIndptr request)
          (raggedCausalEnd qoIndptr kvIndptr request (state / spec.numQueryHeads)) := by
  have other := planned_not_tokenParallel8 planned
  have group := @gqaGroupSize_of_tiled spec
  unfold Bf16RaggedPrefillSpec.launches Bf16RaggedPrefillSpec.WarpTakes
  cases algorithm : raggedPrefillAlgorithm spec with
  | direct => exact ⟨_, rfl, fun valid _ _ hstate h lo hi => directTakes_share valid hstate h lo hi⟩
  | tokenParallel8 => exact absurd algorithm other
  | tokenParallel16 =>
    exact ⟨_, rfl, fun valid _ _ hstate h lo hi =>
      tokenParallelTakes_share valid hstate h lo hi (show 0 < tokenParallel16Warps by decide)⟩
  | tiledGqa4 =>
    exact ⟨_, rfl, fun valid _ _ _ h lo hi => tiledTakes_share valid h lo hi (group algorithm)⟩

/-- The warps of the launches of a plan, and the tokens that they share. -/
theorem launches_shareTokens :
    plan.algorithm = raggedPrefillAlgorithm spec ∧
    (∀ launch ∈ plan.launches, launch.config.block = launch.entry.block ∧
      launch.entry.warps = launch.config.block / warpThreads) ∧
    ∃ attention, plan.launches.head? = some attention ∧
      ∀ (qoIndptr kvIndptr : Slice Int32) (metadata : Bf16RaggedPrefillMetadata),
        spec.validateMetadata qoIndptr kvIndptr = .ok metadata →
        ∀ request < spec.batchSize, ∀ queryRow, indptrStart qoIndptr request ≤ queryRow →
          queryRow < indptrStart qoIndptr (request + 1) → ∀ queryHead < spec.numQueryHeads,
          ShareTokens attention.config.grid (attention.config.block / warpThreads)
            (spec.WarpTakes qoIndptr kvIndptr (queryRow * spec.numQueryHeads + queryHead))
            (indptrStart kvIndptr request) (raggedCausalEnd qoIndptr kvIndptr request queryRow) := by
  obtain ⟨algorithm, launches, -⟩ := planBf16Ragged_eq_ok planned
  obtain ⟨launch, first, share⟩ := attention_sharesTokens planned
  have warps : ∀ prepared ∈ plan.launches,
      prepared.entry.warps = prepared.config.block / warpThreads := fun prepared mem =>
    launches_warps planned _ (launches ▸ List.mem_map_of_mem mem)
  refine ⟨algorithm, fun prepared mem => ⟨prepared.matches_contract, warps prepared mem⟩, ?_⟩
  · rw [← launches, List.head?_map, Option.map_eq_some_iff] at first
    obtain ⟨attention, hattention, rfl⟩ := first
    refine ⟨attention, hattention, fun qoIndptr kvIndptr metadata accepted request hr queryRow lo hi
      queryHead hh => ?_⟩
    obtain ⟨valid, -⟩ := spec.validateMetadata_eq_ok.mp accepted
    have row : (queryRow * spec.numQueryHeads + queryHead) / spec.numQueryHeads = queryRow :=
      row_div hh
    have hstate : queryRow * spec.numQueryHeads + queryHead < spec.lseNumel :=
      rowMajor_lt (hi.trans_le (valid.qo.start_le_total hr)) hh
    have shared := share valid hstate hr (row.symm ▸ lo) (row.symm ▸ hi)
    rwa [row, warps attention (List.mem_of_mem_head? hattention)] at shared

end Plan

/-- Every launch of a plan has the block that its entry declares and the warps that its kernel body
counts on, and the warps that exist share the tokens of each query row and head. A specification for
the eight-warp kernel has no plan. -/
theorem raggedPlan_sharesTokens (spec : Bf16RaggedPrefillSpec) :
    (raggedPrefillAlgorithm spec = .tokenParallel8 →
      ∃ error, planBf16Ragged spec = .error error) ∧
    ∀ plan, planBf16Ragged spec = .ok plan →
      plan.algorithm = raggedPrefillAlgorithm spec ∧
      (∀ launch ∈ plan.launches, launch.config.block = launch.entry.block ∧
        launch.entry.warps = launch.config.block / warpThreads) ∧
      ∃ attention, plan.launches.head? = some attention ∧
        ∀ (qoIndptr kvIndptr : Slice Int32) (metadata : Bf16RaggedPrefillMetadata),
          spec.validateMetadata qoIndptr kvIndptr = .ok metadata →
          ∀ request < spec.batchSize, ∀ queryRow, indptrStart qoIndptr request ≤ queryRow →
            queryRow < indptrStart qoIndptr (request + 1) → ∀ queryHead < spec.numQueryHeads,
            ShareTokens attention.config.grid (attention.config.block / warpThreads)
              (spec.WarpTakes qoIndptr kvIndptr (queryRow * spec.numQueryHeads + queryHead))
              (indptrStart kvIndptr request)
              (raggedCausalEnd qoIndptr kvIndptr request queryRow) := by
  refine ⟨fun eight => ?_, fun plan planned => launches_shareTokens planned⟩
  cases planned : planBf16Ragged spec with
  | error error => exact ⟨error, rfl⟩
  | ok plan => exact absurd eight (planned_not_tokenParallel8 planned)

/-- A tiled plan: the four warps of 32 blocks share the 256 tokens of the one query row. -/
theorem raggedPlan_sharesTokens_oneTile : ∃ plan attention,
    planBf16Ragged oneTileSpec = .ok plan ∧ plan.launches.head? = some attention ∧
    ShareTokens attention.config.grid (attention.config.block / warpThreads)
      (oneTileSpec.WarpTakes (.ofList [0, 1]) (.ofList [0, 256]) 3) 0 256 := by
  obtain ⟨plan, planned⟩ := oneTile_planned
  obtain ⟨metadata, accepted⟩ := oneTile_accepted
  obtain ⟨-, -, attention, first, share⟩ := (raggedPlan_sharesTokens oneTileSpec).2 plan planned
  exact ⟨plan, attention, planned, first,
    share _ _ metadata accepted 0 (by decide) 0 (by decide) (by decide) 3 (by decide)⟩

end LoomKernels
