import LoomKernels.Device.TiledExact

/-!
# Results of invalid ragged metadata

Where a block finds its metadata invalid it returns, and the results that it would have computed
keep what they held. In the direct and the token-parallel plans the block that reads the metadata
is the one that writes the results, so that this holds on any contents of the two indptr arrays
(`RaggedRun.frame`). The tiled plan has two kernels, and only the first of them reads the metadata:
the merge kernel overwrites every row of results with a merge of what the workspace holds
(`tiledRun_overwrites`), also the rows of which no partial state was stored. So the tiled plan
preserves the results of invalid metadata only where there is no such row
(`preservesSentinels_iff`).
-/

namespace LoomKernels

/-! ## Runs -/

/-- The buffers that the kernels of an invocation write. -/
structure RaggedBuffers (F B : Type) where
  output : Nat → B
  lse : Nat → F
  workspace : Nat → F

/-- What the kernels of an invocation read besides the workspace. -/
structure RaggedInputs (spec : Bf16RaggedPrefillSpec) (F B : Type) where
  softmaxScaleLog2 : F
  query : Nat → B
  key : Nat → B
  value : Nat → B
  qoIndptr : Slice Int32
  kvIndptr : Slice Int32
  qo_len : qoIndptr.len = spec.batchSize + 1
  kv_len : kvIndptr.len = spec.batchSize + 1

section Runs

variable {F B : Type}

/-- A launch that writes results: every thread returns, and the writes take effect in some order. -/
def ResultLaunch (config : LaunchConfig1D) (kernel : Nat → Nat → DeviceM (AttentionWrites F B))
    (before after : RaggedBuffers F B) : Prop :=
  ∃ writes : Nat → Nat → AttentionWrites F B,
    (∀ block < config.grid, ∀ thread < config.block,
      kernel block thread = .ok (writes block thread)) ∧
    ∃ outputs lses,
      outputs.Perm (gridWrites config.grid config.block fun block thread =>
        (writes block thread).output) ∧
      lses.Perm (gridWrites config.grid config.block fun block thread =>
        (writes block thread).lse) ∧
      after = ⟨applyWrites outputs before.output, applyWrites lses before.lse, before.workspace⟩

/-- A launch that writes the workspace. -/
def PartialLaunch (config : LaunchConfig1D) (kernel : Nat → Nat → DeviceM (List (Nat × F)))
    (before after : RaggedBuffers F B) : Prop :=
  ∃ writes : Nat → Nat → List (Nat × F),
    (∀ block < config.grid, ∀ thread < config.block,
      kernel block thread = .ok (writes block thread)) ∧
    ∃ order, order.Perm (gridWrites config.grid config.block writes) ∧
      after = { before with workspace := applyWrites order before.workspace }

variable (ops : DeviceOps F B) (spec : Bf16RaggedPrefillSpec) (inputs : RaggedInputs spec F B)

/-- A token-parallel launch, whatever the shared memory of its blocks held. -/
def TokenParallelRun (warps : Nat) (before after : RaggedBuffers F B) : Prop :=
  ∃ partialStates : Nat → Nat → F, ResultLaunch ⟨spec.lseNumel, warpThreads * warps⟩
    (fun block => ops.raggedPrefillTokenParallel warps spec.batchSize spec.nnzQo spec.nnzKv
      spec.numQueryHeads spec.numKvHeads inputs.softmaxScaleLog2 inputs.query inputs.key
      inputs.value inputs.qoIndptr inputs.kvIndptr (partialStates block) block) before after

/-- A run of the launches that are enqueued for an invocation. -/
def RaggedRun (before after : RaggedBuffers F B) : Prop :=
  match raggedPrefillAlgorithm spec with
  | .direct => ResultLaunch ⟨spec.lseNumel, warpThreads⟩
      (ops.raggedPrefillDirect spec.batchSize spec.nnzQo spec.nnzKv spec.numQueryHeads
        spec.numKvHeads inputs.softmaxScaleLog2 inputs.query inputs.key inputs.value inputs.qoIndptr
        inputs.kvIndptr) before after
  | .tokenParallel8 => TokenParallelRun ops spec inputs tokenParallel8Warps before after
  | .tokenParallel16 => TokenParallelRun ops spec inputs tokenParallel16Warps before after
  | .tiledGqa4 => ∃ (shared : Nat → Nat → B) (filled : RaggedBuffers F B),
      PartialLaunch ⟨spec.tiledBlocks, tiledThreads⟩
        (fun block => ops.raggedPrefillTiledGqa4 spec.batchSize spec.nnzQo spec.nnzKv
          spec.numQueryHeads spec.numKvHeads inputs.softmaxScaleLog2 inputs.query inputs.key
          inputs.value inputs.qoIndptr inputs.kvIndptr (shared block) block) before filled ∧
      ResultLaunch ⟨spec.lseNumel, warpThreads⟩
        (ops.raggedPrefillTiledGqa4Merge spec.nnzQo spec.numQueryHeads filled.workspace) filled
        after

/-- No block that reads the metadata goes on to the row of results: those that have it return. -/
def Bf16RaggedPrefillSpec.Unserved (qoIndptr kvIndptr : Slice Int32) (state : Nat) : Prop :=
  match raggedPrefillAlgorithm spec with
  | .direct => ∀ lane < warpThreads, raggedDirectGuard spec.batchSize spec.nnzQo spec.nnzKv
      spec.numQueryHeads qoIndptr kvIndptr state lane = .ok none
  | .tokenParallel8 | .tokenParallel16 => raggedTokenParallelGuard spec.batchSize spec.nnzQo
      spec.nnzKv spec.numQueryHeads qoIndptr kvIndptr state = .ok none
  | .tiledGqa4 => ∀ block < spec.tiledBlocks, ∀ work,
      spec.tiledWork qoIndptr kvIndptr block = .ok (some work) →
      ∀ row < 64, work.queryValid row = true → work.queryState spec.numQueryHeads row ≠ state

/-- The results of invalid metadata keep what they held: those of every row that no block goes on to
compute, and all of them where an array does not start at zero or end at its total. -/
structure PreservesSentinels : Prop where
  rows : ∀ before after, RaggedRun ops spec inputs before after → ∀ state < spec.lseNumel,
    spec.Unserved inputs.qoIndptr inputs.kvIndptr state →
      after.lse state = before.lse state ∧ ∀ c < singleDecodeHeadDim,
        after.output (state * singleDecodeHeadDim + c) =
          before.output (state * singleDecodeHeadDim + c)
  ends : (inputs.qoIndptr.int 0 ≠ 0 ∨ inputs.kvIndptr.int 0 ≠ 0 ∨
      inputs.qoIndptr.int spec.batchSize ≠ spec.nnzQo ∨
      inputs.kvIndptr.int spec.batchSize ≠ spec.nnzKv) →
    ∀ before after, RaggedRun ops spec inputs before after →
      after.output = before.output ∧ after.lse = before.lse

end Runs

/-! ## Every kernel returns -/

section Total

variable {F B : Type} (ops : DeviceOps F B)

theorem tokenStep_total (first : Bool) (score : F) (value : Nat → F) (s : SoftmaxState F Nat) :
    ∃ s', ops.total.tokenStep first score value s = .ok s' := by
  cases first with
  | true => exact ⟨_, rfl⟩
  | false => exact ⟨_, rfl⟩

theorem tokenLoop_total (softmaxScaleLog2 initMax : F) (query key value : Nat → B)
    (queryOffset : Nat) (off : Nat → Nat) (lo hi : Nat) :
    ∃ s, ops.total.tokenLoop softmaxScaleLog2 initMax query key value queryOffset
      (fun token => .ok (off token)) lo hi = .ok s :=
  forRangeM_total (fun _ s => tokenStep_total ops _ _ _ s) _

theorem mergeNonempty_total (s t : SoftmaxState F Nat) :
    ∃ m, ops.total.mergeNonempty s t = .ok m := by
  unfold DeviceOps.mergeNonempty
  split
  · exact ⟨s, rfl⟩
  · split
    · exact ⟨t, rfl⟩
    · exact ⟨_, rfl⟩

theorem mergeShared_total (n : Nat) (init : SoftmaxState F Nat) (load : Nat → SoftmaxState F Nat) :
    ∃ m, mergeShared 0 n (fun _ => ops.total.mergeNonempty) init load = .ok m :=
  forRangeM_total (fun p s => mergeNonempty_total ops s (load p)) init

theorem tokenParallelBlock_total {warps : Nat} (init : SoftmaxState F Nat)
    {loop : Nat → DeviceM (SoftmaxState F Nat)} (loops : ∀ warp, ∃ s, loop warp = .ok s)
    (shared : Nat → F) (row thread : Nat) :
    ∃ writes, ops.total.tokenParallelBlock warps (fun _ => ops.total.mergeNonempty) init loop shared
      row thread = .ok writes := by
  obtain ⟨mem, hmem⟩ : ∃ mem, sharedStates warps loop shared = .ok mem := by
    refine forRangeM_total (fun warp mem => ?_) shared
    obtain ⟨s, hs⟩ := loops warp
    exact ⟨_, by rw [hs]; rfl⟩
  rw [DeviceOps.tokenParallelBlock, hmem, ok_bind]
  split
  · exact ⟨_, rfl⟩
  · obtain ⟨m, hm⟩ := mergeShared_total ops warps init
      fun p => loadState mem (p * singleDecodePartialStateWidth)
    exact ⟨_, by rw [hm]; rfl⟩

/-- Threads that all return make a launch. -/
theorem resultLaunch_total {config : LaunchConfig1D}
    {kernel : Nat → Nat → DeviceM (AttentionWrites F B)}
    (returns : ∀ block thread, ∃ writes, kernel block thread = .ok writes)
    (before : RaggedBuffers F B) : ∃ after, ResultLaunch config kernel before after := by
  choose writes run using returns
  exact ⟨_, writes, fun block _ thread _ => run block thread, _, _, List.Perm.refl _,
    List.Perm.refl _, rfl⟩

variable (spec : Bf16RaggedPrefillSpec) (inputs : RaggedInputs spec F B)

theorem tokenParallelRun_total (warps : Nat) (before : RaggedBuffers F B) :
    ∃ after, TokenParallelRun ops.total spec inputs warps before after := by
  have returns : ∀ state thread, ∃ writes, ops.total.raggedPrefillTokenParallel warps spec.batchSize
      spec.nnzQo spec.nnzKv spec.numQueryHeads spec.numKvHeads inputs.softmaxScaleLog2 inputs.query
      inputs.key inputs.value inputs.qoIndptr inputs.kvIndptr (fun _ => ops.zero) state thread =
        .ok writes := by
    intro state thread
    obtain ⟨found, guard⟩ := @raggedTokenParallelGuard_total _ spec.nnzQo spec.nnzKv _ _
      inputs.qo_len inputs.kv_len spec.numQueryHeads state
    rw [DeviceOps.raggedPrefillTokenParallel, guard]
    cases found with
    | none => exact ⟨_, rfl⟩
    | some tokens =>
      exact tokenParallelBlock_total ops _ (fun warp => tokenLoop_total ops _ _ _ _ _ _ _ _ _) _ _ _
  exact (resultLaunch_total returns before).imp fun _ run => ⟨_, run⟩

/-- The merge kernel writes every row of results, from what the workspace holds. -/
theorem tiledMerge_total (workspace : Nat → F) : ∃ merged : Nat → SoftmaxState F Nat,
    ∀ state lane, ops.total.raggedPrefillTiledGqa4Merge spec.nnzQo spec.numQueryHeads workspace
      state lane = .ok (if state < spec.lseNumel then ops.total.storeResult state (merged state) lane
        else ⟨[], []⟩) := by
  have merges := fun state => mergeShared_total ops tiledPartitions
    (⟨ops.negInf, ops.zero, fun _ => ops.zero⟩ : SoftmaxState F Nat) fun partition =>
      loadState workspace ((state * tiledPartitions + partition) * singleDecodePartialStateWidth)
  choose merged hmerged using merges
  refine ⟨merged, fun state lane => ?_⟩
  by_cases inside : state < spec.lseNumel
  · have live : ¬ state ≥ spec.nnzQo * spec.numQueryHeads := Nat.not_le.mpr inside
    have merge : mergeShared 0 tiledPartitions (fun _ => ops.total.mergeNonempty)
        ⟨ops.total.negInf, ops.total.zero, fun _ => ops.total.zero⟩ (fun partition => loadState
          workspace ((state * tiledPartitions + partition) * singleDecodePartialStateWidth)) =
        .ok (merged state) := hmerged state
    rw [DeviceOps.raggedPrefillTiledGqa4Merge, if_neg live, merge, if_pos inside]
    rfl
  · have surplus : state ≥ spec.nnzQo * spec.numQueryHeads := Nat.le_of_not_lt inside
    rw [DeviceOps.raggedPrefillTiledGqa4Merge, if_pos surplus, if_neg inside]
    rfl

/-- The workspace after the partial kernel, from what it held before. -/
theorem tiledPartial_total (workspace : Nat → F) :
    ∃ filled : Nat → F, ∀ (output : Nat → B) (lse : Nat → F),
      PartialLaunch ⟨spec.tiledBlocks, tiledThreads⟩
        (fun block => ops.raggedPrefillTiledGqa4 spec.batchSize spec.nnzQo spec.nnzKv
          spec.numQueryHeads spec.numKvHeads inputs.softmaxScaleLog2 inputs.query inputs.key
          inputs.value inputs.qoIndptr inputs.kvIndptr (fun _ => ops.zeroBits) block)
        ⟨output, lse, workspace⟩ ⟨output, lse, filled⟩ := by
  obtain ⟨regs, run, -⟩ := raggedPrefillTiledGqa4_writes ops inputs.qo_len inputs.kv_len
    inputs.softmaxScaleLog2 inputs.query inputs.key inputs.value fun _ _ => ops.zeroBits
  exact ⟨applyWrites (gridWrites spec.tiledBlocks tiledThreads
      (spec.tiledWrites inputs.qoIndptr inputs.kvIndptr regs)) workspace,
    fun output lse => ⟨_, fun block _ thread _ => run block thread, _, List.Perm.refl _, rfl⟩⟩

/-- Whatever the metadata and the buffers hold, the launches of an invocation run to their end. -/
theorem raggedRun_total (before : RaggedBuffers F B) :
    ∃ after, RaggedRun ops.total spec inputs before after := by
  unfold RaggedRun
  cases raggedPrefillAlgorithm spec with
  | direct =>
    refine resultLaunch_total (fun state lane => ?_) before
    obtain ⟨found, guard⟩ := @raggedDirectGuard_total _ spec.nnzQo spec.nnzKv _ _ inputs.qo_len
      inputs.kv_len spec.numQueryHeads state lane
    rw [DeviceOps.raggedPrefillDirect, guard]
    cases found with
    | none => exact ⟨_, rfl⟩
    | some tokens =>
      obtain ⟨s, loop⟩ := tokenLoop_total ops inputs.softmaxScaleLog2 ops.zero inputs.query
        inputs.key inputs.value (state * singleDecodeHeadDim)
        (fun token => (token * spec.numKvHeads + state % spec.numQueryHeads /
          (spec.numQueryHeads / spec.numKvHeads)) * singleDecodeHeadDim) tokens.1 tokens.2
      exact ⟨_, bind_eq_ok.mpr ⟨some tokens, rfl, bind_eq_ok.mpr ⟨s, loop, rfl⟩⟩⟩
  | tokenParallel8 => exact tokenParallelRun_total ops spec inputs _ before
  | tokenParallel16 => exact tokenParallelRun_total ops spec inputs _ before
  | tiledGqa4 =>
    obtain ⟨filled, partials⟩ := tiledPartial_total ops.total spec inputs before.workspace
    obtain ⟨merged, merge⟩ := tiledMerge_total ops spec filled
    exact (resultLaunch_total (fun state lane => ⟨_, merge state lane⟩)
      ⟨before.output, before.lse, filled⟩).imp fun _ result => ⟨_, _, partials _ _, result⟩

end Total

/-! ## Plans of one kernel -/

section Frame

variable {F B : Type}

/-- The writes of a thread go to one row of results. -/
structure AttentionWrites.InRow (writes : AttentionWrites F B) (row : Nat) : Prop where
  output : ∀ w ∈ writes.output, w.1 / singleDecodeHeadDim = row
  lse : ∀ w ∈ writes.lse, w.1 = row

theorem inRow_nil (row : Nat) : (⟨[], []⟩ : AttentionWrites F B).InRow row := by
  constructor <;> simp

theorem storeResult_inRow (ops : DeviceOps F B) (row : Nat) (s : SoftmaxState F Nat) {lane : Nat}
    (hl : lane < warpThreads) : (ops.storeResult row s lane).InRow row := by
  constructor
  · intro w hw
    exact ((mem_rowResult_output hl).mp (List.mem_map_of_mem hw)).1
  · intro w hw
    simp only [DeviceOps.storeResult, rowResult] at hw
    split at hw
    · rw [List.mem_singleton.mp hw]
    · simp at hw

/-- A launch whose blocks write their own rows keeps a row whose block writes nothing. -/
theorem ResultLaunch.frame {config : LaunchConfig1D}
    {kernel : Nat → Nat → DeviceM (AttentionWrites F B)} {before after : RaggedBuffers F B}
    (run : ResultLaunch config kernel before after)
    (own : ∀ block thread writes, thread < config.block → kernel block thread = .ok writes →
      writes.InRow block)
    {state : Nat} (quiet : ∀ thread < config.block, kernel state thread = .ok ⟨[], []⟩) :
    after.lse state = before.lse state ∧
      ∀ i, i / singleDecodeHeadDim = state → after.output i = before.output i := by
  obtain ⟨writes, returns, outputs, lses, outputPerm, lsePerm, rfl⟩ := run
  constructor
  · refine applyWrites_of_not_mem fun named => ?_
    obtain ⟨w, hw, here⟩ := List.mem_map.mp named
    obtain ⟨block, hb, thread, ht, hw⟩ := mem_gridWrites.mp (lsePerm.mem_iff.mp hw)
    have inRow := own block thread _ ht (returns block hb thread ht)
    obtain rfl : block = state := (inRow.lse w hw).symm.trans here
    have empty := (returns block hb thread ht).symm.trans (quiet thread ht)
    rw [Except.ok.inj empty] at hw
    simp at hw
  · intro i hi
    refine applyWrites_of_not_mem fun named => ?_
    obtain ⟨w, hw, here⟩ := List.mem_map.mp named
    obtain ⟨block, hb, thread, ht, hw⟩ := mem_gridWrites.mp (outputPerm.mem_iff.mp hw)
    have inRow := own block thread _ ht (returns block hb thread ht)
    obtain rfl : block = state := (inRow.output w hw).symm.trans (by rw [here, hi])
    have empty := (returns block hb thread ht).symm.trans (quiet thread ht)
    rw [Except.ok.inj empty] at hw
    simp at hw

variable {ops : DeviceOps F B} {spec : Bf16RaggedPrefillSpec} {inputs : RaggedInputs spec F B}
  {before after : RaggedBuffers F B} {state : Nat}

theorem TokenParallelRun.frame {warps : Nat}
    (run : TokenParallelRun ops spec inputs warps before after)
    (unserved : raggedTokenParallelGuard spec.batchSize spec.nnzQo spec.nnzKv spec.numQueryHeads
      inputs.qoIndptr inputs.kvIndptr state = .ok none) :
    after.lse state = before.lse state ∧
      ∀ i, i / singleDecodeHeadDim = state → after.output i = before.output i := by
  obtain ⟨partialStates, run⟩ := run
  refine run.frame (fun block thread writes _ h => ?_) fun thread _ => ?_
  · rw [DeviceOps.raggedPrefillTokenParallel] at h
    obtain ⟨found, -, h⟩ := bind_eq_ok.mp h
    cases found with
    | none =>
      cases h
      exact inRow_nil block
    | some tokens =>
      obtain ⟨mem, -, h⟩ := bind_eq_ok.mp h
      split at h
      · cases h
        exact inRow_nil block
      · obtain ⟨s, -, h⟩ := bind_eq_ok.mp h
        cases h
        exact storeResult_inRow ops block s (Nat.mod_lt _ (by decide))
  · rw [DeviceOps.raggedPrefillTokenParallel, unserved]
    rfl

/-- A plan of one kernel keeps the rows of results whose block returns at its guard. -/
theorem RaggedRun.frame (run : RaggedRun ops spec inputs before after)
    (other : raggedPrefillAlgorithm spec ≠ .tiledGqa4)
    (unserved : spec.Unserved inputs.qoIndptr inputs.kvIndptr state) :
    after.lse state = before.lse state ∧
      ∀ i, i / singleDecodeHeadDim = state → after.output i = before.output i := by
  unfold RaggedRun at run
  unfold Bf16RaggedPrefillSpec.Unserved at unserved
  cases algorithm : raggedPrefillAlgorithm spec with
  | direct =>
    rw [algorithm] at run unserved
    refine run.frame (fun block lane writes hl h => ?_) fun lane hl => ?_
    · obtain ⟨found, -, h⟩ := bind_eq_ok.mp h
      cases found with
      | none =>
        cases h
        exact inRow_nil block
      | some tokens =>
        obtain ⟨s, -, h⟩ := bind_eq_ok.mp h
        cases h
        exact storeResult_inRow ops block s hl
    · rw [DeviceOps.raggedPrefillDirect, unserved lane hl]
      rfl
  | tokenParallel8 =>
    rw [algorithm] at run unserved
    exact TokenParallelRun.frame run unserved
  | tokenParallel16 =>
    rw [algorithm] at run unserved
    exact TokenParallelRun.frame run unserved
  | tiledGqa4 => exact absurd algorithm other

end Frame

/-! ## Rows that no block computes -/

section Unserved

variable {batchSize nnzQo nnzKv numQueryHeads state : Nat} {qoIndptr kvIndptr : Slice Int32}
  {tokens : Nat × Nat}

theorem raggedDirectGuard_ends {lane : Nat}
    (h : raggedDirectGuard batchSize nnzQo nnzKv numQueryHeads qoIndptr kvIndptr state lane =
      .ok (some tokens)) : TiledEndsMatch nnzQo nnzKv qoIndptr kvIndptr batchSize := by
  unfold raggedDirectGuard at h
  split at h
  · cases h
  obtain ⟨_, firstQo, h⟩ := bind_eq_ok.mp h
  obtain ⟨_, firstKv, h⟩ := bind_eq_ok.mp h
  obtain ⟨_, lastQo, h⟩ := bind_eq_ok.mp h
  obtain ⟨_, lastKv, h⟩ := bind_eq_ok.mp h
  obtain rfl := Slice.read_eq_ok firstQo
  obtain rfl := Slice.read_eq_ok firstKv
  obtain rfl := Slice.read_eq_ok lastQo
  obtain rfl := Slice.read_eq_ok lastKv
  split at h
  · cases h
  · rename_i good
    simp only [not_or, not_not] at good
    exact good

theorem raggedTokenParallelGuard_ends
    (h : raggedTokenParallelGuard batchSize nnzQo nnzKv numQueryHeads qoIndptr kvIndptr state =
      .ok (some tokens)) : TiledEndsMatch nnzQo nnzKv qoIndptr kvIndptr batchSize := by
  unfold raggedTokenParallelGuard at h
  split at h
  · cases h
  obtain ⟨found, -, h⟩ := bind_eq_ok.mp h
  cases found with
  | none => cases h
  | some request =>
    obtain ⟨_, -, h⟩ := bind_eq_ok.mp h
    obtain ⟨_, -, h⟩ := bind_eq_ok.mp h
    obtain ⟨_, -, h⟩ := bind_eq_ok.mp h
    obtain ⟨_, -, h⟩ := bind_eq_ok.mp h
    obtain ⟨_, firstQo, h⟩ := bind_eq_ok.mp h
    obtain ⟨_, firstKv, h⟩ := bind_eq_ok.mp h
    obtain ⟨_, lastQo, h⟩ := bind_eq_ok.mp h
    obtain ⟨_, lastKv, h⟩ := bind_eq_ok.mp h
    obtain rfl := Slice.read_eq_ok firstQo
    obtain rfl := Slice.read_eq_ok firstKv
    obtain rfl := Slice.read_eq_ok lastQo
    obtain rfl := Slice.read_eq_ok lastKv
    split at h
    · rename_i checks
      exact ⟨checks.1, checks.2.1, checks.2.2.1, checks.2.2.2.1⟩
    · cases h

variable {spec : Bf16RaggedPrefillSpec} (qoLen : qoIndptr.len = spec.batchSize + 1)
  (kvLen : kvIndptr.len = spec.batchSize + 1)
include qoLen kvLen

/-- Where the ends of an array are wrong, no block goes on to any row. -/
theorem unserved_of_ends (bad : ¬ spec.EndsMatch qoIndptr kvIndptr) (state : Nat) :
    spec.Unserved qoIndptr kvIndptr state := by
  have tokenParallel : raggedTokenParallelGuard spec.batchSize spec.nnzQo spec.nnzKv
      spec.numQueryHeads qoIndptr kvIndptr state = .ok none := by
    obtain ⟨found, guard⟩ := @raggedTokenParallelGuard_total _ spec.nnzQo spec.nnzKv _ _ qoLen
      kvLen spec.numQueryHeads state
    cases found with
    | none => exact guard
    | some tokens => exact absurd (raggedTokenParallelGuard_ends guard) bad
  unfold Bf16RaggedPrefillSpec.Unserved
  cases raggedPrefillAlgorithm spec with
  | direct =>
    intro lane _
    obtain ⟨found, guard⟩ := @raggedDirectGuard_total _ spec.nnzQo spec.nnzKv _ _ qoLen kvLen
      spec.numQueryHeads state lane
    cases found with
    | none => exact guard
    | some tokens => exact absurd (raggedDirectGuard_ends guard) bad
  | tokenParallel8 => exact tokenParallel
  | tokenParallel16 => exact tokenParallel
  | tiledGqa4 =>
    intro block _ work hwork
    rcases tiledWork_cases qoLen kvLen block with none | ⟨ends, -⟩
    · rw [none] at hwork
      cases hwork
    · exact absurd ends bad

/-- The tiled plan computes the rows of the requests before the first one out of range, and no
others. -/
theorem tiledUnserved_iff (tiled : raggedPrefillAlgorithm spec = .tiledGqa4) :
    spec.Unserved qoIndptr kvIndptr state ↔ (spec.EndsMatch qoIndptr kvIndptr →
      indptrStart qoIndptr (spec.leading qoIndptr kvIndptr) ≤ state / spec.numQueryHeads) := by
  have group := gqaGroupSize_of_tiled tiled
  unfold Bf16RaggedPrefillSpec.Unserved
  rw [tiled]
  constructor
  · intro unserved ends
    by_contra! before
    obtain ⟨request, ⟨hr, lo, hi⟩, -⟩ := existsUnique_cell
      (fun i hi => leading_start_mono (Nat.le_succ i) hi)
      (by rw [indptrStart, ends.1]; exact Nat.zero_le _) before
    obtain ⟨block, ⟨hb, work⟩, -⟩ := existsUnique_rowWork group lo hi
      (show 0 < tiledPartitions by decide) qoLen kvLen ends hr
    exact unserved block hb _ work _ (queryPackedRow_lt _ _ _ _) (queryValid_packed lo hi _)
      ((queryState_packed lo _ _).trans (Nat.div_add_mod' _ _))
  · intro later block _ work hwork row hrow live number
    obtain ⟨ends, request, hr, -, hi, -⟩ :=
      rowWork_of_holds group qoLen kvLen hwork hrow live number
    have := leading_start_mono (show request + 1 ≤ _ from hr) le_rfl
    have := later ends
    omega

end Unserved

/-! ## The tiled plan -/

section Tiled

variable {F B : Type} (ops : DeviceOps F B) {spec : Bf16RaggedPrefillSpec}
  (inputs : RaggedInputs spec F B) (tiled : raggedPrefillAlgorithm spec = .tiledGqa4)
include tiled

/-- Whatever the metadata, a tiled plan overwrites all results: what it leaves depends on the inputs
and the workspace only. -/
theorem tiledRun_overwrites (workspace : Nat → F) : ∃ result : Nat → B,
    ∀ (output : Nat → B) (lse : Nat → F), ∃ after,
      RaggedRun ops.total spec inputs ⟨output, lse, workspace⟩ after ∧
        ∀ i < spec.outputNumel, after.output i = result i := by
  obtain ⟨filled, partials⟩ := tiledPartial_total ops.total spec inputs workspace
  obtain ⟨merged, merge⟩ := tiledMerge_total ops spec filled
  let writes := fun state lane => ops.total.storeResult state (merged state) lane
  have computes : LaunchComputes spec.lseNumel warpThreads spec.lseNumel writes _ _ :=
    launchComputes_rows le_rfl
      (fun state c =>
        ops.fromF32 (ops.mul ((merged state).acc c) (ops.div ops.one (merged state).norm)))
      (fun state => ops.add (merged state).max (ops.lg2 (merged state).norm))
      fun state _ lane hl => (if_pos hl).symm
  refine ⟨_, fun output lse => ⟨⟨applyWrites (gridWrites spec.lseNumel warpThreads fun state lane =>
    (writes state lane).output) output, applyWrites (gridWrites spec.lseNumel warpThreads
    fun state lane => (writes state lane).lse) lse, filled⟩, ?_,
    computes.output_final _ (List.Perm.refl _) output⟩⟩
  unfold RaggedRun
  rw [tiled]
  exact ⟨_, _, partials output lse, writes, fun state hstate lane _ => by rw [merge, if_pos hstate],
    _, _, List.Perm.refl _, List.Perm.refl _, rfl⟩

/-- A tiled plan does not preserve the results of a row that no block computes. -/
theorem not_preserves_of_unserved [Nontrivial B] {state : Nat} (hstate : state < spec.lseNumel)
    (unserved : spec.Unserved inputs.qoIndptr inputs.kvIndptr state) :
    ¬ PreservesSentinels ops.total spec inputs := by
  intro preserves
  obtain ⟨result, overwrites⟩ := tiledRun_overwrites ops inputs tiled fun _ => ops.zero
  -- results that hold something else than what the merge kernel stores
  obtain ⟨sentinel, other⟩ := exists_ne (result (state * singleDecodeHeadDim + 0))
  obtain ⟨after, run, stored⟩ := overwrites (fun _ => sentinel) fun _ => ops.zero
  have kept := (preserves.rows _ _ run state hstate unserved).2 0 (by decide)
  rw [stored _ (rowMajor_lt hstate (by decide))] at kept
  exact other kept.symm

end Tiled

/-! ## Every plan -/

section Plan

variable {F B : Type} {spec : Bf16RaggedPrefillSpec}

/-- The launches of an invocation run to their end on any contents of the metadata. They preserve
the results of invalid metadata exactly when the plan is not the tiled one, or no row is without a
block that computes it: the ends of both arrays match, and the requests before the first one out of
range hold all query rows. -/
theorem preservesSentinels_iff [Nontrivial B] (ops : DeviceOps F B)
    (inputs : RaggedInputs spec F B) :
    (∀ before, ∃ after, RaggedRun ops.total spec inputs before after) ∧
    (PreservesSentinels ops.total spec inputs ↔ (raggedPrefillAlgorithm spec = .tiledGqa4 →
      spec.EndsMatch inputs.qoIndptr inputs.kvIndptr ∧
      indptrStart inputs.qoIndptr (spec.leading inputs.qoIndptr inputs.kvIndptr) = spec.nnzQo)) := by
  have qoLen := inputs.qo_len
  have kvLen := inputs.kv_len
  refine ⟨raggedRun_total ops spec inputs, fun preserves tiled => ?_, fun served => ?_⟩
  · have all : ∀ state < spec.lseNumel, ¬ spec.Unserved inputs.qoIndptr inputs.kvIndptr state :=
      fun state hstate unserved =>
        not_preserves_of_unserved ops inputs tiled hstate unserved preserves
    have ends : spec.EndsMatch inputs.qoIndptr inputs.kvIndptr := by
      by_contra bad
      exact all 0 (Nat.mul_pos spec.qo_pos spec.queryHeads_pos) (unserved_of_ends qoLen kvLen bad 0)
    refine ⟨ends, (leading_start_le ends le_rfl).antisymm (Nat.le_of_not_lt fun short => ?_)⟩
    refine all _ (rowMajor_lt short spec.queryHeads_pos) ((tiledUnserved_iff qoLen kvLen tiled).mpr
      fun _ => ?_)
    rw [row_div spec.queryHeads_pos]
  · have ends_of_bad : (inputs.qoIndptr.int 0 ≠ 0 ∨ inputs.kvIndptr.int 0 ≠ 0 ∨
        inputs.qoIndptr.int spec.batchSize ≠ spec.nnzQo ∨
        inputs.kvIndptr.int spec.batchSize ≠ spec.nnzKv) →
          ¬ spec.EndsMatch inputs.qoIndptr inputs.kvIndptr := by
      rintro bad ⟨firstQo, firstKv, lastQo, lastKv⟩
      rw [asI32_of_lt spec.qo_lt] at lastQo
      rw [asI32_of_lt spec.kv_lt] at lastKv
      simp [firstQo, firstKv, lastQo, lastKv] at bad
    by_cases tiled : raggedPrefillAlgorithm spec = .tiledGqa4
    · obtain ⟨ends, rows⟩ := served tiled
      refine ⟨fun _ _ _ state hstate unserved => ?_, fun bad => absurd ends (ends_of_bad bad)⟩
      have outside := (tiledUnserved_iff qoLen kvLen tiled).mp unserved ends
      have inside : state / spec.numQueryHeads < spec.nnzQo :=
        (lt_rows_iff spec.queryHeads_pos).mpr hstate
      omega
    · refine ⟨fun before after run state _ unserved => ?_, fun bad before after run => ?_⟩
      · obtain ⟨lse, output⟩ := run.frame tiled unserved
        exact ⟨lse, fun c hc => output _ (row_div hc)⟩
      · have frame := fun state =>
          run.frame tiled (unserved_of_ends qoLen kvLen (ends_of_bad bad) state)
        exact ⟨funext fun i => (frame _).2 i rfl, funext fun state => (frame state).1⟩

/-- Validated metadata leaves no row without a block that computes it. -/
theorem RaggedValid.served {qoIndptr kvIndptr : Slice Int32}
    (valid : RaggedValid spec qoIndptr kvIndptr) : spec.EndsMatch qoIndptr kvIndptr ∧
      indptrStart qoIndptr (spec.leading qoIndptr kvIndptr) = spec.nnzQo := by
  rw [valid.leading_eq, valid.qo.start_total]
  exact ⟨valid.endsMatch, rfl⟩

end Plan

/-- One query row over 256 tokens, with some contents of `qo_indptr`. -/
def oneTileInputs {F B : Type} (softmaxScaleLog2 : F) (components : Nat → B)
    (qoIndptr : Slice Int32) (h : qoIndptr.len = 2) : RaggedInputs oneTileSpec F B where
  softmaxScaleLog2 := softmaxScaleLog2
  query := components
  key := components
  value := components
  qoIndptr := qoIndptr
  kvIndptr := .ofList [0, 256]
  qo_len := h
  kv_len := rfl

instance : Nontrivial (Ext ℝ) := ⟨.negInf, .nan, nofun⟩

/-- Nothing is without a block when the row is that of the one request. -/
theorem preservesSentinels_iff_oneTile : PreservesSentinels (extOps ℝ).total oneTileSpec
    (oneTileInputs (.fin 1) (fun i => .fin i) (.ofList [0, 1]) rfl) := by
  obtain ⟨metadata, accepted⟩ := oneTile_accepted
  obtain ⟨valid, -⟩ := oneTileSpec.validateMetadata_eq_ok.mp accepted
  exact (preservesSentinels_iff (extOps ℝ) _).2.mpr fun _ => valid.served

/-- When `qo_indptr` starts at one, every block returns, and the merge kernel overwrites the results
all the same. -/
theorem oneTile_overwritten : ¬ PreservesSentinels (extOps ℝ).total oneTileSpec
    (oneTileInputs (.fin 1) (fun i => .fin i) (.ofList [1, 1]) rfl) := by
  have tiled : raggedPrefillAlgorithm oneTileSpec = .tiledGqa4 := by decide
  refine not_preserves_of_unserved (extOps ℝ) _ tiled (show 0 < oneTileSpec.lseNumel by decide)
    (unserved_of_ends rfl rfl (fun ends => ?_) 0)
  exact absurd ends.1 (by decide)

end LoomKernels
