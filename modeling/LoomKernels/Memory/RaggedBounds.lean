import LoomKernels.Device.TiledWorkspace
import LoomKernels.Memory.PagedBounds
import LoomKernels.Memory.Tiled

/-!
# Ragged kernels on any indptr contents

With the lengths that the plans check, the ragged kernels are contained whatever the indptr arrays
hold, and no two blocks store the same element of the output, the log-sum-exp or the workspace
(`raggedKernels_contained`). The blocks of the direct, the token-parallel and the merge kernel own
one row of results each. A block of the tiled kernel owns the partial states of its rows, and the
number of a partial state tells its block (`tiledBlockOwn_unique`): the requests that the walk gets
to have disjoint query ranges, even where later entries are garbage.
-/

namespace LoomKernels.Memory

section Own

variable {spec : Bf16RaggedPrefillSpec} {qoIndptr kvIndptr : Slice Int32}
  (qoLen : qoIndptr.len = spec.batchSize + 1) (kvLen : kvIndptr.len = spec.batchSize + 1)
  (group : spec.gqaGroupSize = tiledGqaGroupSize)
include qoLen kvLen group

/-- What a partial state tells of the block that owns it. -/
theorem TiledBlockOwn.owner {block cell : Nat}
    (h : TiledBlockOwn spec qoIndptr kvIndptr block cell) :
    spec.EndsMatch qoIndptr kvIndptr ∧ ∃ request < spec.leading qoIndptr kvIndptr,
      indptrStart qoIndptr request ≤ cell / tiledPartitions / spec.numQueryHeads ∧
      cell / tiledPartitions / spec.numQueryHeads < indptrStart qoIndptr (request + 1) ∧
      spec.tiledWork qoIndptr kvIndptr block = .ok (some (workOf qoIndptr kvIndptr request
        (queryTile qoIndptr request (cell / tiledPartitions / spec.numQueryHeads))
        (cell / tiledPartitions % spec.numQueryHeads / tiledGqaGroupSize)
        (cell % tiledPartitions))) := by
  obtain ⟨work, hwork, row, hr, valid, hcell⟩ := h
  rcases tiledWork_cases qoLen kvLen block with none | ⟨ends, request, hrequest, i, -, -, found⟩
  · rw [none] at hwork
    cases hwork
  rw [found, Except.ok.injEq, Option.some.injEq] at hwork
  subst hwork
  have hp : tiledPartition block < tiledPartitions := Nat.mod_lt _ (by decide)
  have state : cell / tiledPartitions =
      (workOf qoIndptr kvIndptr request i (tiledKvHead spec.numKvHeads block)
        (tiledPartition block)).queryState (spec.numKvHeads * tiledGqaGroupSize) row := by
    rw [hcell, ← numQueryHeads_eq group]
    exact row_div hp
  have partition : cell % tiledPartitions = tiledPartition block := by
    rw [hcell]
    exact row_mod hp
  obtain ⟨lo, hi, tile, -, head⟩ := stored_owner (Nat.mod_lt _ spec.kvHeads_pos) hr valid state
  refine ⟨ends, request, hrequest, ?_⟩
  rw [partition, numQueryHeads_eq group, tile, head]
  exact ⟨lo, hi, found⟩

/-- A partial state is owned by one block of the grid. -/
theorem tiledBlockOwn_unique {block block' cell : Nat} (hb : block < spec.tiledBlocks)
    (hb' : block' < spec.tiledBlocks) (h : TiledBlockOwn spec qoIndptr kvIndptr block cell)
    (h' : TiledBlockOwn spec qoIndptr kvIndptr block' cell) : block = block' := by
  obtain ⟨ends, request, hr, lo, hi, work⟩ := h.owner qoLen kvLen group
  obtain ⟨-, request', hr', lo', hi', work'⟩ := h'.owner qoLen kvLen group
  have inside : cell / tiledPartitions / spec.numQueryHeads <
      indptrStart qoIndptr (spec.leading qoIndptr kvIndptr) :=
    hi.trans_le (leading_start_mono hr le_rfl)
  obtain ⟨_, -, uniqueRequest⟩ := existsUnique_cell
    (fun i hi => leading_start_mono (Nat.le_succ i) hi)
    (by rw [indptrStart, ends.1]; exact Nat.zero_le _) inside
  obtain rfl : request' = request :=
    (uniqueRequest request' ⟨hr', lo', hi'⟩).trans (uniqueRequest request ⟨hr, lo, hi⟩).symm
  have hh : cell / tiledPartitions % spec.numQueryHeads / tiledGqaGroupSize < spec.numKvHeads := by
    rw [lt_rows_iff (by decide), ← numQueryHeads_eq group]
    exact Nat.mod_lt _ spec.queryHeads_pos
  obtain ⟨_, -, uniqueBlock⟩ := existsUnique_work qoLen kvLen ends hr (queryTile_lt lo hi) hh
    (Nat.mod_lt cell (show 0 < tiledPartitions by decide))
  exact (uniqueBlock block ⟨hb, work⟩).trans (uniqueBlock block' ⟨hb', work'⟩).symm

end Own

/-! ## Kernels -/

/-- What holds of the direct kernel and the token-parallel ones. -/
structure RaggedContained (spec : Bf16RaggedPrefillSpec) (args : KernelArgs) : Prop where
  direct : ∀ state lane, RunContained (args.len 1) (OwnRow state)
    (raggedPrefill spec.batchSize spec.nnzQo spec.nnzKv spec.numQueryHeads spec.numKvHeads
      args.qoIndptr args.kvIndptr state lane)
  directApart : WritesApart spec.lseNumel warpThreads
    (raggedPrefill spec.batchSize spec.nnzQo spec.nnzKv spec.numQueryHeads spec.numKvHeads
      args.qoIndptr args.kvIndptr)
  tokenParallel : ∀ warps ∈ [tokenParallel8Warps, tokenParallel16Warps], ∀ state,
    ∀ thread < warpThreads * warps, RunContained (args.len warps) (OwnRow state)
      (raggedPrefillTokenParallel spec.batchSize spec.nnzQo spec.nnzKv spec.numQueryHeads
        spec.numKvHeads args.qoIndptr args.kvIndptr warps state thread)
  tokenParallelApart : ∀ warps ∈ [tokenParallel8Warps, tokenParallel16Warps],
    WritesApart spec.lseNumel (warpThreads * warps)
      (raggedPrefillTokenParallel spec.batchSize spec.nnzQo spec.nnzKv spec.numQueryHeads
        spec.numKvHeads args.qoIndptr args.kvIndptr warps)

/-- What holds of the two kernels of a tiled plan. The merge kernel is taken with any set of partial
states that it finds empty. -/
structure TiledContained (spec : Bf16RaggedPrefillSpec) (args : KernelArgs) : Prop where
  partials : ∀ block, ∀ thread < tiledThreads, RunContained (args.len tiledWarps)
    (TiledBlockOwn spec args.qoIndptr args.kvIndptr block)
    (raggedPrefillTiledGqa4 spec.batchSize spec.nnzQo spec.nnzKv spec.numQueryHeads
      spec.numKvHeads args.qoIndptr args.kvIndptr block thread)
  partialsApart : WritesApart spec.tiledBlocks tiledThreads
    (raggedPrefillTiledGqa4 spec.batchSize spec.nnzQo spec.nnzKv spec.numQueryHeads
      spec.numKvHeads args.qoIndptr args.kvIndptr)
  merge : ∀ populated state, ∀ lane < warpThreads, RunContained (args.len tiledWarps) (OwnRow state)
    (raggedPrefillTiledGqa4Merge spec.nnzQo spec.numQueryHeads (args.len tiledWarps .workspace)
      populated state lane)
  mergeApart : ∀ populated : Nat → Nat → Bool, WritesApart spec.lseNumel warpThreads fun state =>
    raggedPrefillTiledGqa4Merge spec.nnzQo spec.numQueryHeads (args.len tiledWarps .workspace)
      (populated state) state

section Kernels

variable {spec : Bf16RaggedPrefillSpec} {args : KernelArgs}

theorem indptrLens_of_preflight (h : args.raggedPrefillPreflight spec = .ok ()) (warps : Nat) :
    IndptrLens (args.len warps) spec.batchSize args.qoIndptr args.kvIndptr := by
  obtain ⟨-, ⟨qoLen, kvLen⟩, -⟩ := @KernelArgs.raggedPrefillPreflight_lens args warps spec h
  exact ⟨rfl, rfl, qoLen, kvLen, spec.batch_fits⟩

theorem ragged_contained (h : args.raggedPrefillPreflight spec = .ok ()) :
    RaggedContained spec args := by
  have direct : ∀ state lane, RunContained (args.len 1) (OwnRow state)
      (raggedPrefill spec.batchSize spec.nnzQo spec.nnzKv spec.numQueryHeads spec.numKvHeads
        args.qoIndptr args.kvIndptr state lane) := by
    intro state lane
    obtain ⟨lens, -, results, -⟩ := KernelArgs.raggedPrefillPreflight_lens h
    exact RunContained.of_safe
      (raggedPrefill_safe lens (indptrLens_of_preflight h 1) results state lane)
  have tokenParallel : ∀ warps ∈ [tokenParallel8Warps, tokenParallel16Warps], ∀ state,
      ∀ thread < warpThreads * warps, RunContained (args.len warps) (OwnRow state)
        (raggedPrefillTokenParallel spec.batchSize spec.nnzQo spec.nnzKv spec.numQueryHeads
          spec.numKvHeads args.qoIndptr args.kvIndptr warps state thread) := by
    intro warps mem state thread ht
    obtain ⟨lens, -, results, -⟩ := KernelArgs.raggedPrefillPreflight_lens h
    obtain ⟨hw, le⟩ := warps_mem mem
    rw [Nat.mul_comm] at ht
    exact RunContained.of_safe (raggedPrefillTokenParallel_safe lens
      (indptrLens_of_preflight h warps) results hw le rfl state ht)
  refine ⟨direct, ?_, tokenParallel, fun warps mem => ?_⟩
  · exact writesApart_of_contained (fun state _ lane _ => direct state lane) ownRow_unique
  · exact writesApart_of_contained (fun state _ thread ht => tokenParallel warps mem state thread ht)
      ownRow_unique

/-- The numbers of a planned launch leave room for those of its surplus rows. -/
theorem planned_rows_fit {plan : Bf16RaggedPrefillPlan} (planned : planBf16Ragged spec = .ok plan) :
    (spec.nnzQo + 16) * spec.numQueryHeads * 1040 < 2 ^ 64 := by
  have rows := rows_lt_of_planned planned
  have heads : spec.numQueryHeads ≤ spec.lseNumel := Nat.le_mul_of_pos_left _ spec.qo_pos
  rw [Nat.add_mul]
  unfold Bf16RaggedPrefillSpec.lseNumel at rows heads
  omega

/-- The lengths of the arrays of a tiled launch. -/
theorem tiledLens_of_preflight {plan : Bf16RaggedPrefillPlan}
    (planned : planBf16Ragged spec = .ok plan) (tiled : plan.algorithm = .tiledGqa4)
    (h : args.tiledPreflight spec plan.workspaceNumel = .ok ()) :
    TiledLens (args.len tiledWarps) spec := by
  obtain ⟨preflight, workspace⟩ := KernelArgs.tiledPreflight_eq_ok.mp h
  have algorithm := (planBf16Ragged_eq_ok planned).1.symm.trans tiled
  obtain ⟨attention, -⟩ := @KernelArgs.raggedPrefillPreflight_lens args tiledWarps spec preflight
  refine ⟨attention, ?_, rfl, numQueryHeads_eq (gqaGroupSize_of_tiled algorithm),
    planned_rows_fit planned⟩
  change args.workspaceLen.getD 0 = _
  rw [workspace, (planBf16Ragged_eq_ok planned).2.2 algorithm]
  rfl

theorem tiled_contained {plan : Bf16RaggedPrefillPlan} (planned : planBf16Ragged spec = .ok plan)
    (tiled : plan.algorithm = .tiledGqa4)
    (h : args.tiledPreflight spec plan.workspaceNumel = .ok ()) : TiledContained spec args := by
  have preflight := (KernelArgs.tiledPreflight_eq_ok.mp h).1
  have group := gqaGroupSize_of_tiled ((planBf16Ragged_eq_ok planned).1.symm.trans tiled)
  have indptr := indptrLens_of_preflight preflight tiledWarps
  have lens := tiledLens_of_preflight planned tiled h
  obtain ⟨-, -, results, -⟩ := @KernelArgs.raggedPrefillPreflight_lens args tiledWarps spec preflight
  have partials : ∀ block, ∀ thread < tiledThreads, RunContained (args.len tiledWarps)
      (TiledBlockOwn spec args.qoIndptr args.kvIndptr block)
      (raggedPrefillTiledGqa4 spec.batchSize spec.nnzQo spec.nnzKv spec.numQueryHeads
        spec.numKvHeads args.qoIndptr args.kvIndptr block thread) :=
    fun block _ ht => RunContained.of_safe (raggedPrefillTiledGqa4_safe lens indptr block ht)
  have merge : ∀ populated state, ∀ lane < warpThreads, RunContained (args.len tiledWarps)
      (OwnRow state) (raggedPrefillTiledGqa4Merge spec.nnzQo spec.numQueryHeads
        (args.len tiledWarps .workspace) populated state lane) :=
    fun populated state _ hl =>
      RunContained.of_safe (raggedPrefillTiledGqa4Merge_safe lens results populated state hl)
  refine ⟨partials, ?_, merge, fun populated => ?_⟩
  · exact writesApart_of_contained (fun block _ thread ht => partials block thread ht)
      fun block hb block' hb' cell => tiledBlockOwn_unique indptr.qo_len indptr.kv_len group hb hb'
  · exact writesApart_of_contained
      (fun state _ lane hl => merge (populated state) state lane hl) ownRow_unique

end Kernels

/-- The ragged kernels on arrays of the lengths that the plans check, whatever the indptr arrays
hold; a plan launches the tiled kernels only where it picked them. -/
theorem raggedKernels_contained (spec : Bf16RaggedPrefillSpec) (args : KernelArgs) :
    (args.raggedPrefillPreflight spec = .ok () → RaggedContained spec args) ∧
      ∀ plan, planBf16Ragged spec = .ok plan → plan.algorithm = .tiledGqa4 →
        args.tiledPreflight spec plan.workspaceNumel = .ok () → TiledContained spec args :=
  ⟨ragged_contained, fun _ => tiled_contained⟩

/-- The tiled kernel's shape, with indptr arrays that mean nothing. -/
def untrustedIndptrArgs : KernelArgs where
  queryLen := 512
  keyLen := 256 * 128
  valueLen := 256 * 128
  outputLen := 512
  lseLen := 4
  workspaceLen := some (4 * 8 * 130)
  qoIndptr := Slice.ofList [-1, 2147483647]
  kvIndptr := Slice.ofList [2147483647, -2147483648]
  pageIndptr := Slice.ofList []
  pageIndices := Slice.ofList []
  lastPageLen := Slice.ofList []
  address := fun _ => 0

theorem raggedKernels_contained_untrusted :
    RaggedContained oneTileSpec untrustedIndptrArgs ∧
      TiledContained oneTileSpec untrustedIndptrArgs := by
  obtain ⟨ragged, tiled⟩ := raggedKernels_contained oneTileSpec untrustedIndptrArgs
  obtain ⟨plan, planned⟩ := oneTile_planned
  obtain ⟨algorithm, -, workspace⟩ := planBf16Ragged_eq_ok planned
  have picked : raggedPrefillAlgorithm oneTileSpec = .tiledGqa4 := by decide
  refine ⟨ragged rfl, tiled plan planned (algorithm.trans picked) ?_⟩
  rw [workspace picked]
  rfl

end LoomKernels.Memory
