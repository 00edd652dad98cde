import LoomKernels.Device.TiledOwnership

/-!
# The workspace of a tiled plan

The partial kernel fills the workspace, the merge kernel reads it. On validated metadata every
element that the merge kernel reads has been written by exactly one lane of exactly one block of the
grid (`tiledGrid_owns`), so that nothing of the workspace's earlier contents reaches the results.
-/

namespace LoomKernels

/-! ## What the merge kernel reads -/

section Merge

variable {F B : Type} (ops : DeviceOps F B)

/-- A merge of two states whose components beyond the head are left out. -/
theorem mergeNonempty_restrict {s s' t t' : SoftmaxState F Nat} (hs : s.restrict = s'.restrict)
    (ht : t.restrict = t'.restrict) :
    (ops.mergeNonempty s t).map SoftmaxState.restrict =
      (ops.mergeNonempty s' t').map SoftmaxState.restrict := by
  obtain ⟨smax, snorm, sacc⟩ := s
  obtain ⟨tmax, tnorm, tacc⟩ := t
  simp only [SoftmaxState.restrict, SoftmaxState.mk.injEq] at hs ht
  obtain ⟨rfl, rfl, hsacc⟩ := hs
  obtain ⟨rfl, rfl, htacc⟩ := ht
  simp only [DeviceOps.mergeNonempty, DeviceOps.mergeStates]
  split
  · simp only [Except.map, SoftmaxState.restrict, hsacc]
  · split
    · simp only [Except.map, SoftmaxState.restrict, htacc]
    · cases ops.ex2Difference s'.max (ops.max s'.max t'.max) with
      | error fault => rfl
      | ok mergedWeight =>
        cases ops.ex2Difference t'.max (ops.max s'.max t'.max) with
        | error fault => rfl
        | ok weight =>
          simp only [ok_bind, pure, Except.pure, Except.map, SoftmaxState.restrict,
            fun c => congrFun hsacc c, fun c => congrFun htacc c]

theorem storeResult_restrict {s s' : SoftmaxState F Nat} (h : s.restrict = s'.restrict) (row : Nat)
    {lane : Nat} (hl : lane < warpThreads) :
    ops.storeResult row s lane = ops.storeResult row s' lane := by
  simp only [SoftmaxState.restrict, SoftmaxState.mk.injEq] at h
  obtain ⟨max, norm, acc⟩ := h
  simp only [DeviceOps.storeResult, rowResult, max, norm, AttentionWrites.mk.injEq, and_true]
  refine List.map_congr_left fun slot hslot => ?_
  have := congrFun acc ⟨laneComponent lane slot, laneComponent_lt hl (List.mem_range.mp hslot)⟩
  dsimp only at this
  rw [this]

/-- The merge kernel reads the partial states of its row and nothing else. -/
theorem merge_congr {nnzQo numQueryHeads : Nat} {mem mem' : Nat → F}
    (agree : ∀ a < nnzQo * numQueryHeads * tiledPartitions * singleDecodePartialStateWidth,
      mem a = mem' a) (state : Nat) {lane : Nat} (hl : lane < warpThreads) :
    ops.raggedPrefillTiledGqa4Merge nnzQo numQueryHeads mem state lane =
      ops.raggedPrefillTiledGqa4Merge nnzQo numQueryHeads mem' state lane := by
  unfold DeviceOps.raggedPrefillTiledGqa4Merge
  split
  · rfl
  · rename_i inside
    have load : ∀ partition < tiledPartitions,
        (loadState mem ((state * tiledPartitions + partition) *
          singleDecodePartialStateWidth)).restrict =
        (loadState mem' ((state * tiledPartitions + partition) *
          singleDecodePartialStateWidth)).restrict := by
      intro partition hp
      have number := rowMajor_lt (Nat.lt_of_not_le inside) hp
      have field : ∀ i < singleDecodePartialStateWidth,
          mem ((state * tiledPartitions + partition) * singleDecodePartialStateWidth + i) =
            mem' ((state * tiledPartitions + partition) * singleDecodePartialStateWidth + i) :=
        fun i hi => agree _ (rowMajor_lt number hi)
      simp only [loadState, SoftmaxState.restrict, SoftmaxState.mk.injEq]
      refine ⟨field 0 (by decide), field 1 (by decide), funext fun c => ?_⟩
      rw [Nat.add_assoc]
      exact field (2 + c) (by
        have := c.isLt
        simp only [singleDecodePartialStateWidth, singleDecodeHeadDim]
        omega)
    refine bind_view (forRangeM_view SoftmaxState.restrict (Nat.zero_le tiledPartitions) rfl
      fun partition s s' _ hp hs => mergeNonempty_restrict ops hs (load partition hp)) ?_
    intro s s' hs
    rw [storeResult_restrict ops hs state hl]

end Merge

/-! ## What the partial kernel writes -/

section Partial

variable {F B : Type} (ops : DeviceOps F B) {spec : Bf16RaggedPrefillSpec}
  {qoIndptr kvIndptr : Slice Int32} (qoLen : qoIndptr.len = spec.batchSize + 1)
  (kvLen : kvIndptr.len = spec.batchSize + 1)
include qoLen kvLen

/-- No thread of the partial kernel faults, and a block with work stores the registers that its loop
leaves. -/
theorem raggedPrefillTiledGqa4_writes (softmaxScaleLog2 : F) (query key value : Nat → B)
    (shared : Nat → Nat → B) :
    ∃ regs : Nat → Nat → TiledRegisters F,
      (∀ block thread, ops.raggedPrefillTiledGqa4 spec.batchSize spec.nnzQo spec.nnzKv
        spec.numQueryHeads spec.numKvHeads softmaxScaleLog2 query key value qoIndptr kvIndptr
        (shared block) block thread = .ok (spec.tiledWrites qoIndptr kvIndptr regs block thread)) ∧
      ∀ block work, spec.tiledWork qoIndptr kvIndptr block = .ok (some work) →
        regs block = (ops.tiledLoop work spec.numQueryHeads spec.numKvHeads softmaxScaleLog2 query
          key value (shared block)).1 := by
  have final : ∀ block, ∃ regs : Nat → TiledRegisters F, ∀ work,
      spec.tiledWork qoIndptr kvIndptr block = .ok (some work) →
        regs = (ops.tiledLoop work spec.numQueryHeads spec.numKvHeads softmaxScaleLog2 query key
          value (shared block)).1 := by
    intro block
    rcases tiledWork_cases qoLen kvLen block with none | ⟨-, request, -, i, -, -, some⟩
    · exact ⟨fun _ => ⟨fun _ => ops.zero, fun _ => ops.zero, fun _ _ => ops.zero⟩, fun work h => by
        rw [none] at h
        cases h⟩
    · refine ⟨(ops.tiledLoop (workOf qoIndptr kvIndptr request i (tiledKvHead spec.numKvHeads block)
        (tiledPartition block)) spec.numQueryHeads spec.numKvHeads softmaxScaleLog2 query key value
        (shared block)).1, fun work h => ?_⟩
      rw [some] at h
      cases h
      rfl
  choose regs hregs using final
  refine ⟨regs, fun block thread => ?_, hregs⟩
  rcases tiledWork_cases qoLen kvLen block with none | ⟨-, request, -, i, -, -, some⟩
  · have work := none
    unfold Bf16RaggedPrefillSpec.tiledWork at work
    rw [DeviceOps.raggedPrefillTiledGqa4, work, Bf16RaggedPrefillSpec.tiledWrites, none]
    rfl
  · have work := some
    unfold Bf16RaggedPrefillSpec.tiledWork at work
    rw [DeviceOps.raggedPrefillTiledGqa4, work, Bf16RaggedPrefillSpec.tiledWrites, some,
      hregs block _ some]
    rfl

end Partial

/-! ## The plan -/

section Plan

variable {spec : Bf16RaggedPrefillSpec} {qoIndptr kvIndptr : Slice Int32}

/-- A grid has exactly one block for each request, query tile, key/value head and partition, and its
other blocks have no work. -/
structure TiledGridCovers (spec : Bf16RaggedPrefillSpec) (qoIndptr kvIndptr : Slice Int32)
    (grid : Nat) : Prop where
  block : ∀ request < spec.batchSize, ∀ i < requestTiles qoIndptr request,
    ∀ head < spec.numKvHeads, ∀ p < tiledPartitions,
      ∃! block, block < grid ∧ spec.tiledWork qoIndptr kvIndptr block =
        .ok (some (workOf qoIndptr kvIndptr request i head p))
  surplus : ∀ block < grid, spec.tiledWork qoIndptr kvIndptr block = .ok none ∨
    ∃ request < spec.batchSize, ∃ i < requestTiles qoIndptr request, ∃ head < spec.numKvHeads,
      ∃ p < tiledPartitions, spec.tiledWork qoIndptr kvIndptr block =
        .ok (some (workOf qoIndptr kvIndptr request i head p))

theorem tiledGridCovers (valid : RaggedValid spec qoIndptr kvIndptr) :
    TiledGridCovers spec qoIndptr kvIndptr spec.tiledBlocks := by
  refine ⟨fun request hr i hi head hh p hp => ?_, fun block _ => ?_⟩
  · rw [← valid.leading_eq] at hr
    exact existsUnique_work valid.qo.len valid.kv.len valid.endsMatch hr hi hh hp
  · rcases tiledWork_cases valid.qo.len valid.kv.len block with none | ⟨-, request, hr, i, hi, -, some⟩
    · exact Or.inl none
    · rw [valid.leading_eq] at hr
      exact Or.inr ⟨request, hr, i, hi, _, Nat.mod_lt _ spec.kvHeads_pos, _,
        Nat.mod_lt _ (by decide), some⟩

/-- On validated metadata every element of the workspace is written exactly once. -/
theorem workspace_once {F : Type} (group : spec.gqaGroupSize = tiledGqaGroupSize)
    (valid : RaggedValid spec qoIndptr kvIndptr) (regs : Nat → Nat → TiledRegisters F) {a : Nat}
    (ha : a < spec.lseNumel * tiledPartitions * singleDecodePartialStateWidth) :
    WrittenOnce spec.tiledBlocks tiledThreads (spec.tiledWrites qoIndptr kvIndptr regs) a := by
  refine tiledWrites_once valid.qo.len valid.kv.len group valid.endsMatch ?_
  rw [valid.leading_eq, valid.qo.start_total, workspaceState, lt_rows_iff spec.queryHeads_pos,
    lt_rows_iff (by decide), lt_rows_iff (by decide)]
  exact ha

/-- The launches of a tiled plan. -/
theorem tiledPlan_launches {plan : Bf16RaggedPrefillPlan} (planned : planBf16Ragged spec = .ok plan)
    (tiled : plan.algorithm = .tiledGqa4) :
    ∃ partials merge, plan.launches = [partials, merge] ∧
      partials.config = ⟨spec.tiledBlocks, tiledThreads⟩ ∧
      merge.config = ⟨spec.lseNumel, warpThreads⟩ ∧
      plan.workspaceNumel = spec.lseNumel * tiledPartitions * singleDecodePartialStateWidth := by
  obtain ⟨algorithm, launches, workspace⟩ := planBf16Ragged_eq_ok planned
  rw [algorithm] at tiled
  rw [Bf16RaggedPrefillSpec.launches, tiled] at launches
  obtain ⟨partials, rest, hplan, hpartials, hrest⟩ := List.map_eq_cons_iff.mp launches
  obtain ⟨merge, rest, rfl, hmerge, hrest⟩ := List.map_eq_cons_iff.mp hrest
  obtain rfl := List.map_eq_nil_iff.mp hrest
  exact ⟨partials, merge, hplan, congrArg KernelLaunch.config hpartials,
    congrArg KernelLaunch.config hmerge, workspace tiled⟩

/-- The grid of a tiled plan has exactly one block for each query tile, head and partition, surplus
blocks write nothing, and the elements that the merge kernel reads are each written once, so that
its results do not depend on what the workspace held before. -/
theorem tiledGrid_owns {F B : Type} (ops : DeviceOps F B) {plan : Bf16RaggedPrefillPlan}
    (planned : planBf16Ragged spec = .ok plan) (tiled : plan.algorithm = .tiledGqa4)
    {metadata : Bf16RaggedPrefillMetadata}
    (accepted : spec.validateMetadata qoIndptr kvIndptr = .ok metadata) :
    ∃ partials merge, plan.launches = [partials, merge] ∧
      plan.workspaceNumel = spec.nnzQo * spec.numQueryHeads * 8 * 130 ∧
      TiledGridCovers spec qoIndptr kvIndptr partials.config.grid ∧
      ∀ (softmaxScaleLog2 : F) (query key value : Nat → B) (shared : Nat → Nat → B), ∃ writes,
        (∀ block < partials.config.grid, ∀ thread < partials.config.block,
          ops.raggedPrefillTiledGqa4 spec.batchSize spec.nnzQo spec.nnzKv spec.numQueryHeads
            spec.numKvHeads softmaxScaleLog2 query key value qoIndptr kvIndptr (shared block) block
            thread = .ok (writes block thread)) ∧
        (∀ block < partials.config.grid, spec.tiledWork qoIndptr kvIndptr block = .ok none →
          ∀ thread, writes block thread = []) ∧
        (∀ a < plan.workspaceNumel,
          WrittenOnce partials.config.grid partials.config.block writes a) ∧
        ∀ order, order.Perm (gridWrites partials.config.grid partials.config.block writes) →
          ∀ before before', ∀ state < merge.config.grid, ∀ lane < merge.config.block,
            ops.raggedPrefillTiledGqa4Merge spec.nnzQo spec.numQueryHeads
                (applyWrites order before) state lane =
              ops.raggedPrefillTiledGqa4Merge spec.nnzQo spec.numQueryHeads
                (applyWrites order before') state lane := by
  obtain ⟨valid, -⟩ := spec.validateMetadata_eq_ok.mp accepted
  obtain ⟨partials, merge, launches, hpartials, hmerge, workspace⟩ :=
    tiledPlan_launches planned tiled
  have group : spec.gqaGroupSize = tiledGqaGroupSize := by
    rw [(planBf16Ragged_eq_ok planned).1] at tiled
    exact gqaGroupSize_of_tiled tiled
  refine ⟨partials, merge, launches, workspace, ?_, ?_⟩
  · rw [hpartials]
    exact tiledGridCovers valid
  · intro softmaxScaleLog2 query key value shared
    obtain ⟨regs, run, -⟩ := raggedPrefillTiledGqa4_writes ops valid.qo.len valid.kv.len
      softmaxScaleLog2 query key value shared
    have once : ∀ a < plan.workspaceNumel, WrittenOnce partials.config.grid partials.config.block
        (spec.tiledWrites qoIndptr kvIndptr regs) a := by
      rw [workspace, hpartials]
      exact fun a ha => workspace_once group valid regs ha
    refine ⟨_, fun block _ thread _ => run block thread, fun block _ none thread => ?_, once,
      fun order perm before before' state _ lane hl => ?_⟩
    · rw [Bf16RaggedPrefillSpec.tiledWrites, none]
    · rw [hmerge] at hl
      refine merge_congr ops (fun a ha => ?_) state hl
      refine applyWrites_of_named ((once a ?_).named perm) before before'
      rw [workspace]
      exact ha

end Plan

theorem oneTile_queryHeads : 0 < 4 := by decide

/-- One request of one query row and 256 tokens, whose four query heads share a key/value head. -/
def oneTileSpec : Bf16RaggedPrefillSpec where
  batchSize := 1
  nnzQo := 1
  nnzKv := 256
  numQueryHeads := 4
  numKvHeads := 1
  batch_pos := Nat.one_pos
  qo_pos := Nat.one_pos
  kv_pos := by decide
  queryHeads_pos := oneTile_queryHeads
  kvHeads_pos := Nat.one_pos
  group := by decide
  qo_lt := oneRow_lt
  kv_lt := by decide
  batch_fits := oneRequest_fits
  query_fits := by decide
  kv_fits := by decide

theorem oneTile_planned : ∃ plan, planBf16Ragged oneTileSpec = .ok plan :=
  (planBf16Ragged_ok_iff rfl).mpr (by decide)

theorem oneTile_accepted : ∃ metadata,
    oneTileSpec.validateMetadata (.ofList [0, 1]) (.ofList [0, 256]) = .ok metadata :=
  ⟨_, oneTileSpec.validateMetadata_ok (oneTileSpec.checkMetadata_eq_ok.mp rfl)⟩

/-- Two requests, of one tile and of two; the grid has room for a fourth tile. -/
def threeTileSpec : Bf16RaggedPrefillSpec where
  batchSize := 2
  nnzQo := 36
  nnzKv := 600
  numQueryHeads := 4
  numKvHeads := 1
  batch_pos := Nat.two_pos
  qo_pos := by decide
  kv_pos := by decide
  queryHeads_pos := oneTile_queryHeads
  kvHeads_pos := Nat.one_pos
  group := by decide
  qo_lt := by decide
  kv_lt := by decide
  batch_fits := twoRequests_fit
  query_fits := by decide
  kv_fits := by decide

theorem tiledGrid_owns_threeTiles :
    ∃ plan partials merge, planBf16Ragged threeTileSpec = .ok plan ∧
      plan.launches = [partials, merge] ∧ plan.workspaceNumel = 36 * 4 * 8 * 130 ∧
      partials.config.grid = 32 ∧
      TiledGridCovers threeTileSpec (.ofList [0, 16, 36]) (.ofList [0, 200, 600])
        partials.config.grid ∧
      threeTileSpec.tiledWork (.ofList [0, 16, 36]) (.ofList [0, 200, 600]) 31 = .ok none ∧
      ∃ writes : Nat → Nat → List (Nat × Ext ℝ),
        (∀ thread, writes 31 thread = []) ∧
        ∀ a < plan.workspaceNumel, WrittenOnce partials.config.grid partials.config.block writes a := by
  obtain ⟨plan, planned⟩ : ∃ plan, planBf16Ragged threeTileSpec = .ok plan :=
    (planBf16Ragged_ok_iff rfl).mpr (by decide)
  have valid : RaggedValid threeTileSpec (.ofList [0, 16, 36]) (.ofList [0, 200, 600]) :=
    threeTileSpec.checkMetadata_eq_ok.mp rfl
  have tiled : plan.algorithm = .tiledGqa4 := (planBf16Ragged_eq_ok planned).1.trans (by decide)
  obtain ⟨partials, merge, launches, workspace, covers, grid⟩ :=
    tiledGrid_owns (extOps ℝ) planned tiled (threeTileSpec.validateMetadata_ok valid)
  obtain ⟨first, second, same, config, -⟩ := tiledPlan_launches planned tiled
  obtain ⟨rfl, -⟩ := List.cons.inj (launches.symm.trans same)
  obtain ⟨writes, -, silent, once, -⟩ := grid (.fin 0) (fun _ => .fin 0) (fun _ => .fin 0)
    (fun _ => .fin 0) fun _ _ => .fin 0
  have size : partials.config.grid = 32 := congrArg LaunchConfig1D.grid config
  exact ⟨plan, partials, merge, planned, launches, workspace, size, covers, rfl, writes,
    silent 31 (by rw [size]; decide) rfl, once⟩

end LoomKernels
