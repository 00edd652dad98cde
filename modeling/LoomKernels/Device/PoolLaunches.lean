import LoomKernels.Device.PrefillPlans
import LoomKernels.Device.RopePlans
import LoomKernels.Host.PagePool

/-!
# Launches on one page pool

Append launches of both plans follow one another on a page pool, each under any schedule of its
threads, and then a decode or prefill launch reads the pool. In exact arithmetic the appends leave
the pool of the host run (`launchRun_iff`), so that the results are those of single decode over the
last appended tokens (`poolLaunches_decode_eq_single`, `poolLaunches_prefill_eq_single`).
-/

namespace LoomKernels

/-! ## Complete launches -/

section Launches

variable {B : Type}

/-- A complete launch of a kernel over the arrays of an append, from `before` to `out`. -/
def CompleteLaunch (config : LaunchConfig1D)
    (kernel : Nat → Nat → DeviceM (List (Op AppendAddress B))) (query key value : Nat → B)
    (before out : AppendOut B) : Prop :=
  ∃ program : GridThread config.grid config.block → List (Op AppendAddress B),
    Launched kernel program ∧
    ∃ schedule, ((Config.start (appendMemory query key value before) program).run schedule).Complete ∧
      ((Config.start (appendMemory query key value before) program).run schedule).mem =
        appendMemory query key value out

/-- The memory of an append determines its results. -/
theorem appendMemory_injective {query key value : Nat → B} {out out' : AppendOut B}
    (same : appendMemory query key value out = appendMemory query key value out') : out = out' := by
  obtain ⟨queryOutput, keyPages, valuePages⟩ := out
  obtain ⟨queryOutput', keyPages', valuePages'⟩ := out'
  have element := congrFun same
  rw [AppendOut.mk.injEq]
  exact ⟨funext fun i => element (.queryOutput, i), funext fun i => element (.keyPages, i),
    funext fun i => element (.valuePages, i)⟩

variable [Inhabited B] {rot : Rotation B} {nan : B}

/-- On accepted metadata, a complete launch of the multi-token kernel has one outcome. -/
theorem tokensLaunch_iff {spec : Bf16RopePagedKvAppendTokensSpec}
    {batchIndices positions pageIndptr pageIndices lastPageLen : Slice Int32}
    (valid : AppendTokensValid spec batchIndices positions pageIndptr pageIndices lastPageLen)
    (query key value : Nat → B) (before out : AppendOut B) :
    CompleteLaunch ⟨spec.tokens * (spec.numQueryHeads + spec.numKvHeads), ropeBlockThreads⟩
        (tokensKernel (appendRotation rot) spec.tokens spec.batchSize spec.maxNumPages
          spec.numQueryHeads spec.numKvHeads batchIndices positions pageIndptr pageIndices lastPageLen)
        query key value before out ↔
      out = tokensAppendOut rot nan query key value batchIndices positions pageIndptr pageIndices
        before spec := by
  have effect := tokensAppendOut_effect rot nan valid query key value before
  have found : ∀ token < spec.tokens, Bf16PagedBatchDecodePageTable.physicalPageForToken
      ⟨spec.paged, pageIndptr, pageIndices, lastPageLen, valid.table⟩ (appendRequest batchIndices token)
      (appendPosition positions token) =
        some (appendSlotOf batchIndices positions pageIndptr pageIndices token) := fun token ht =>
    valid.table.physicalPageOf_eq (valid.token token ht).request_lt (valid.token token ht).position_lt
  have launched : Launched (tokensKernel (appendRotation rot) spec.tokens spec.batchSize
      spec.maxNumPages spec.numQueryHeads spec.numKvHeads batchIndices positions pageIndptr pageIndices
      lastPageLen)
      (tokensProgram (appendRotation rot) spec batchIndices positions pageIndptr pageIndices) := by
    intro t
    obtain ⟨_, run, slots⟩ := tokensGuard_ok spec valid.table.lengths valid.batch_len
      valid.positions_len t.1.isLt t.2.isLt
    obtain rfl := (slots _).mpr ⟨valid, rfl⟩
    rw [tokensKernel, run]
    rfl
  -- the threads write the results of the reference, and no thread reads a result
  have final : ∀ schedule, ((Config.start (appendMemory query key value before)
      (tokensProgram (appendRotation rot) spec batchIndices positions pageIndptr pageIndices)).run
        schedule).Complete → ((Config.start (appendMemory query key value before)
      (tokensProgram (appendRotation rot) spec batchIndices positions pageIndptr pageIndices)).run
        schedule).mem = appendMemory query key value (tokensAppendOut rot nan query key value
          batchIndices positions pageIndptr pageIndices before spec) := by
    refine fun schedule => complete_run_mem (fun _ t' _ => appendWrites_separate t'.2.isLt)
      (fun t w hw => ?_) fun a unwritten => ?_
    · exact appendStores_agree effect found t.1.isLt t.2.isLt
        ((mem_effects_appendWrites t.2.isLt).mp hw)
    · refine appendStores_covered effect found (fun i hi => ?_) fun state hs pair hp v store => ?_
      · rw [tokensAppendOut, appendLoop_queryOutput]
        exact if_neg (Nat.not_lt.mpr (valid.positions_len ▸ hi))
      · exact unwritten (⟨state, hs⟩, ⟨pair, hp⟩)
          ((mem_writeSet_appendWrites query key value hp).mpr ⟨v, store⟩)
  constructor
  · rintro ⟨program, launched', schedule, complete, mem⟩
    obtain rfl : program = _ := funext fun t => Except.ok.inj ((launched' t).symm.trans (launched t))
    exact appendMemory_injective (mem.symm.trans (final schedule complete))
  · rintro rfl
    obtain ⟨schedule, complete⟩ := exists_complete (appendMemory query key value before)
      (tokensProgram (appendRotation rot) spec batchIndices positions pageIndptr pageIndices)
      (List.finRange _ ×ˢ List.finRange _) fun t ht =>
        absurd (List.pair_mem_product.mpr ⟨List.mem_finRange t.1, List.mem_finRange t.2⟩) ht
    exact ⟨_, launched, schedule, complete, final schedule complete⟩

/-- On an accepted table, a complete launch of the single-token kernel has one outcome. -/
theorem finalLaunch_iff {spec : Bf16RopePagedKvAppendSpec}
    {positions pageIndptr pageIndices lastPageLen : Slice Int32}
    (valid : AppendTableValid spec pageIndptr pageIndices lastPageLen)
    (final : FinalPositions spec pageIndptr lastPageLen positions) (query key value : Nat → B)
    (before out : AppendOut B) :
    CompleteLaunch ⟨spec.batchSize * (spec.numQueryHeads + spec.numKvHeads), ropeBlockThreads⟩
        (appendLaunch (appendRotation rot) spec pageIndptr pageIndices lastPageLen) query key value
        before out ↔
      out = appendOut rot nan query key value positions pageIndptr pageIndices lastPageLen before
        spec := by
  constructor
  · rintro ⟨program, launched, schedule, complete, mem⟩
    exact appendMemory_injective (mem.symm.trans
      (appendLaunch_final valid final query key value before launched complete))
  · rintro rfl
    choose program launched _ using fun t : AppendThread spec =>
      appendLaunch_ok (appendRotation rot) valid.table.lengths t
    obtain ⟨schedule, complete⟩ := exists_complete (appendMemory query key value before) program
      (List.finRange _ ×ˢ List.finRange _) fun t ht =>
        absurd (List.pair_mem_product.mpr ⟨List.mem_finRange t.1, List.mem_finRange t.2⟩) ht
    exact ⟨program, launched, schedule, complete,
      appendLaunch_final valid final query key value before launched complete⟩

end Launches

/-! ## Runs of launches -/

section Runs

variable {B : Type} [Inhabited B]

theorem RopeProvider.planBf16PagedAppendTokens_eq_ok {spec : Bf16RopePagedKvAppendTokensSpec}
    {plan : Bf16RopePagedKvAppendTokensPlan} {launch : PreparedLaunch}
    (planned : RopeProvider.planBf16PagedAppendTokens spec = .ok (plan, launch)) :
    plan = ⟨spec⟩ ∧
      launch.config = ⟨spec.tokens * (spec.numQueryHeads + spec.numKvHeads), ropeBlockThreads⟩ := by
  obtain ⟨_, prepared, rest⟩ := bind_eq_ok.mp planned
  cases rest
  exact ⟨rfl, RopeProvider.prepareStates_eq_ok prepared⟩

namespace AppendCall

/-- The provider has a plan for the contract of the call. -/
def Planned : AppendCall B → Prop
  | .final spec .. => ∃ plan launch, RopeProvider.planBf16PagedAppend spec = .ok (plan, launch)
  | .tokens spec .. => ∃ plan launch, RopeProvider.planBf16PagedAppendTokens spec = .ok (plan, launch)

/-- A complete launch of the plan of the call takes the pool to `after`. -/
def Launches (rotate : Nat → Nat → B → B → B × B) (pool after : PagePool B) : AppendCall B → Prop
  | .final spec query key value queryOutput pageIndptr pageIndices lastPageLen =>
    ∃ plan launch out, RopeProvider.planBf16PagedAppend spec = .ok (plan, launch) ∧
      CompleteLaunch launch.config (appendLaunch rotate plan.spec pageIndptr pageIndices lastPageLen)
        query.get key.get value.get ⟨queryOutput.get, pool.keyPages.get, pool.valuePages.get⟩ out ∧
      after = pool.store out
  | .tokens spec query key value queryOutput batchIndices positions pageIndptr pageIndices
      lastPageLen =>
    ∃ plan launch out, RopeProvider.planBf16PagedAppendTokens spec = .ok (plan, launch) ∧
      CompleteLaunch launch.config
        (tokensKernel rotate plan.spec.tokens plan.spec.batchSize plan.spec.maxNumPages
          plan.spec.numQueryHeads plan.spec.numKvHeads batchIndices positions pageIndptr pageIndices
          lastPageLen)
        query.get key.get value.get ⟨queryOutput.get, pool.keyPages.get, pool.valuePages.get⟩ out ∧
      after = pool.store out

end AppendCall

/-- Launches of calls, one after another. -/
inductive LaunchRun (rotate : Nat → Nat → B → B → B × B) :
    PagePool B → List (AppendCall B) → PagePool B → Prop
  | nil (pool : PagePool B) : LaunchRun rotate pool [] pool
  | cons {pool next after : PagePool B} {call : AppendCall B} {calls : List (AppendCall B)} :
      call.Launches rotate pool next → LaunchRun rotate next calls after →
      LaunchRun rotate pool (call :: calls) after

variable {rot : Rotation B} {nan : B}

/-- A launch of an accepted call has one outcome, that of the reference. -/
theorem AppendCall.launches_iff {call : AppendCall B} (planned : call.Planned)
    {pool after : PagePool B} (accepted : (call.result rot nan pool).isOk = true) :
    call.Launches (appendRotation rot) pool after ↔ after = call.step rot nan pool := by
  obtain ⟨out, result⟩ := isOk_iff.mp accepted
  rw [step, result]
  cases call with
  | final spec query key value queryOutput pageIndptr pageIndices lastPageLen =>
    obtain ⟨plan, launch, planned⟩ := planned
    obtain ⟨rfl, config⟩ := RopeProvider.planBf16PagedAppend_eq_ok planned
    obtain ⟨-, valid, xs, final, rfl⟩ := reference_eq_ok.mp result
    constructor
    · rintro ⟨plan', launch', out, planned', complete, rfl⟩
      obtain ⟨rfl, rfl⟩ := Prod.mk.inj (Except.ok.inj (planned.symm.trans planned'))
      rw [config] at complete
      rw [(finalLaunch_iff valid final _ _ _ _ _).mp complete]
    · rintro rfl
      refine ⟨_, launch, _, planned, ?_, rfl⟩
      rw [config]
      exact (finalLaunch_iff valid final _ _ _ _ _).mpr rfl
  | tokens spec query key value queryOutput batchIndices positions pageIndptr pageIndices
      lastPageLen =>
    obtain ⟨plan, launch, planned⟩ := planned
    obtain ⟨rfl, config⟩ := RopeProvider.planBf16PagedAppendTokens_eq_ok planned
    obtain ⟨-, valid, rfl⟩ := tokensReference_eq_ok.mp result
    constructor
    · rintro ⟨plan', launch', out, planned', complete, rfl⟩
      obtain ⟨rfl, rfl⟩ := Prod.mk.inj (Except.ok.inj (planned.symm.trans planned'))
      rw [config] at complete
      rw [(tokensLaunch_iff valid _ _ _ _ _).mp complete]
    · rintro rfl
      refine ⟨_, launch, _, planned, ?_, rfl⟩
      rw [config]
      exact (tokensLaunch_iff valid _ _ _ _ _).mpr rfl

/-- Launches of accepted calls have one outcome, the pool of the host run. -/
theorem launchRun_iff {calls : List (AppendCall B)} (planned : ∀ call ∈ calls, call.Planned)
    {pool after : PagePool B} (accepted : ∀ call ∈ calls, (call.result rot nan pool).isOk = true) :
    LaunchRun (appendRotation rot) pool calls after ↔ after = pool.run rot nan calls := by
  induction calls generalizing pool with
  | nil =>
    constructor
    · rintro ⟨⟩
      rfl
    · rintro rfl
      exact .nil _
  | cons call calls ih =>
    have first : ∀ {next}, call.Launches (appendRotation rot) pool next ↔ next = _ :=
      AppendCall.launches_iff (planned call List.mem_cons_self) (accepted call List.mem_cons_self)
    have rest := @ih (fun other later => planned other (List.mem_cons_of_mem _ later))
      (call.step rot nan pool) fun other later => by
        obtain ⟨keys, values⟩ := @AppendCall.step_len _ rot nan pool call
        rw [AppendCall.result_isOk_congr keys values]
        exact accepted other (List.mem_cons_of_mem _ later)
    constructor
    · rintro (_ | ⟨launch, later⟩)
      rw [first.mp launch] at later
      exact rest.mp later
    · intro eq
      exact .cons (first.mpr rfl) (rest.mpr eq)

end Runs

/-! ## Reading after the launches -/

section Exact

variable {K : Type} [Field K] [LinearOrder K] [IsStrictOrderedRing K] [ExactExp K] [ExactTrig K]
  [Inhabited K] {ofF32 : UInt32 → K} {nan : K} {numKvHeads : Nat} {pool : PagePool K}
  {calls : List (AppendCall K)} {query output lse : Slice K}
  {qoIndptr pageIndptr pageIndices lastPageLen : Slice Int32} {launch : PreparedLaunch}

/-- Launches of accepted appends have one outcome, and a decode plan launched on it leaves what single
decode computes over the last appended tokens. -/
theorem poolLaunches_decode_eq_single (one : ofF32 f32One = 1) (base : 0 < ofF32 f32TenThousand)
    (heads : 0 < numKvHeads) (shape : ∀ call ∈ calls, call.numKvHeads = numKvHeads)
    (appendsPlanned : ∀ call ∈ calls, call.Planned)
    (appendsAccepted : ∀ call ∈ calls,
      (call.result (ropeRotation (exactRopeOps K ofF32)) nan pool).isOk = true)
    {spec : Bf16PagedBatchDecodeSpec} (kvHeads : spec.numKvHeads = numKvHeads)
    {plan : Bf16PagedBatchDecodePlan}
    (planned : DecodeProvider.planBf16PagedBatch spec = .ok (plan, launch))
    (hq : query.len = spec.queryNumel) (hk : pool.keyPages.len = spec.kvPagesNumel)
    (hv : pool.valuePages.len = spec.kvPagesNumel) (ho : output.len = spec.outputNumel)
    (hl : lse.len = spec.lseNumel) {table : Bf16PagedBatchDecodePageTable}
    (accepted : spec.validatePageTable pageIndptr pageIndices lastPageLen = .ok table) :
    ∃ filled : PagePool K,
      (∀ after, LaunchRun (appendDeviceRotation (exactRopeOps K ofF32)) pool calls after ↔
        after = filled) ∧
      ∃ out : AttentionOut K K,
        (∀ after, PagedBatchDecodeRun (extOps K) plan.spec launch.config
            (.exact query.get filled.keyPages.get filled.valuePages.get pageIndptr pageIndices
              lastPageLen) (AttentionOut.onDevice ⟨output.get, lse.get⟩) after ↔
          after = out.onDevice) ∧
        DecodesAppended (exactOps K) heads
          (pool.log (ropeRotation (exactRopeOps K ofF32)) nan numKvHeads calls) table query out := by
  obtain ⟨rfl, config⟩ := DecodeProvider.planBf16PagedBatch_eq_ok planned
  obtain ⟨valid, rfl⟩ := spec.validatePageTable_eq_ok.mp accepted
  obtain ⟨keys, values⟩ := @PagePool.run_len _ (ropeRotation (exactRopeOps K ofF32)) nan pool calls
  refine ⟨pool.run (ropeRotation (exactRopeOps K ofF32)) nan calls, fun after => ?_, ?_⟩
  · rw [appendDeviceRotation_exact one base]
    exact launchRun_iff appendsPlanned appendsAccepted
  · obtain ⟨out, run, computed⟩ := pagedBatchDecodeBf16Reference_computed (exactOps K) spec hq
      (keys.trans hk) (values.trans hv) ho hl valid
    obtain ⟨_, run', filled⟩ := pagedBatchDecodeBf16Reference_exact spec hq (keys.trans hk)
      (values.trans hv) ho hl valid
    obtain rfl := Except.ok.inj (run.symm.trans run')
    refine ⟨out, fun after => ?_, decodesAppended_of_computed heads shape kvHeads computed⟩
    rw [config, pagedBatchDecodeRun_iff valid.indptr_len valid.tail_len, servedOut_filled filled]
    · intro row h
      exact if_pos ⟨h, Memory.requestValid_of_table valid ((lt_rows_iff spec.queryHeads_pos).mpr h)⟩
    · exact fun row outside => if_neg fun live => absurd live.1 (Nat.not_lt.mpr outside)

/-- Launches of accepted appends have one outcome, and a prefill plan launched on it leaves, row by
row, what single decode computes over the last appended causal tokens. -/
theorem poolLaunches_prefill_eq_single (one : ofF32 f32One = 1) (base : 0 < ofF32 f32TenThousand)
    (heads : 0 < numKvHeads) (shape : ∀ call ∈ calls, call.numKvHeads = numKvHeads)
    (appendsPlanned : ∀ call ∈ calls, call.Planned)
    (appendsAccepted : ∀ call ∈ calls,
      (call.result (ropeRotation (exactRopeOps K ofF32)) nan pool).isOk = true)
    {spec : Bf16PagedPrefillSpec} (kvHeads : spec.numKvHeads = numKvHeads)
    {plan : Bf16PagedPrefillPlan}
    (planned : PrefillProvider.planBf16Paged spec = .ok (plan, launch))
    (hq : query.len = spec.queryNumel) (hk : pool.keyPages.len = spec.kvPagesNumel)
    (hv : pool.valuePages.len = spec.kvPagesNumel) (ho : output.len = spec.outputNumel)
    (hl : lse.len = spec.lseNumel) {metadata : Bf16PagedPrefillMetadata}
    (accepted : spec.validateMetadata qoIndptr pageIndptr pageIndices lastPageLen = .ok metadata) :
    ∃ filled : PagePool K,
      (∀ after, LaunchRun (appendDeviceRotation (exactRopeOps K ofF32)) pool calls after ↔
        after = filled) ∧
      ∃ out : AttentionOut K K,
        (∀ after, PagedPrefillRun (extOps K) plan.spec launch.config
            (.exact query.get filled.keyPages.get filled.valuePages.get qoIndptr pageIndptr
              pageIndices lastPageLen) (AttentionOut.onDevice ⟨output.get, lse.get⟩) after ↔
          after = out.onDevice) ∧
        PrefillsAppended (exactOps K) heads
          (pool.log (ropeRotation (exactRopeOps K ofF32)) nan numKvHeads calls) metadata query out := by
  obtain ⟨rfl, config⟩ := PrefillProvider.planBf16Paged_eq_ok planned
  obtain ⟨valid, rfl⟩ := spec.validateMetadata_eq_ok.mp accepted
  obtain ⟨keys, values⟩ := @PagePool.run_len _ (ropeRotation (exactRopeOps K ofF32)) nan pool calls
  refine ⟨pool.run (ropeRotation (exactRopeOps K ofF32)) nan calls, fun after => ?_, ?_⟩
  · rw [appendDeviceRotation_exact one base]
    exact launchRun_iff appendsPlanned appendsAccepted
  · obtain ⟨out, run, computed⟩ := pagedPrefillBf16Reference_computed (exactOps K) spec hq
      (keys.trans hk) (values.trans hv) ho hl valid
    obtain ⟨_, run', filled⟩ := pagedPrefillBf16Reference_exact spec hq (keys.trans hk)
      (values.trans hv) ho hl valid
    obtain rfl := Except.ok.inj (run.symm.trans run')
    refine ⟨out, fun after => ?_, prefillsAppended_of_computed heads shape kvHeads computed⟩
    rw [config, pagedPrefillRun_iff valid.qo.len valid.table.indptr_len valid.table.tail_len,
      servedOut_filled filled]
    · exact fun row h => if_pos (Memory.prefillRowValid_of_valid valid h)
    · exact fun row outside => if_neg fun live => absurd live.1 (Nat.not_lt.mpr outside)

end Exact

theorem oneTokenCalls_planned : ∀ call ∈ [oneTokenCall 1, oneTokenCall 2], call.Planned := by
  intro call hc
  rcases List.mem_pair.mp hc with rfl | rfl
  all_goals exact ⟨_, _, rfl⟩

/-- Two append launches, and a decode launch that reads both tokens. -/
theorem poolLaunches_decode_eq_single_twoCalls : ∃ filled out single,
    LaunchRun (appendDeviceRotation (exactRopeOps ℝ appendConstants)) emptyPool
      [oneTokenCall 1, oneTokenCall 2] filled ∧
    PagedBatchDecodeRun (extOps ℝ) onePageSpec ⟨1, 32⟩
      (.exact (fun _ => 1) filled.keyPages.get filled.valuePages.get (.ofList [0, 1]) (.ofList [0])
        (.ofList [2])) (AttentionOut.onDevice ⟨fun _ => 0, fun _ => 0⟩)
      (AttentionOut.onDevice out) ∧
    singleDecodeBf16Reference (exactOps ℝ) (Slice.window ⟨128, fun _ => 1⟩ (0 * (1 * 128)) (1 * 128))
      (flatTokens Nat.one_pos 2 fun token =>
        (oneTokenHistory (ropeRotation (exactRopeOps ℝ appendConstants)) token).key)
      (flatTokens Nat.one_pos 2 fun token =>
        (oneTokenHistory (ropeRotation (exactRopeOps ℝ appendConstants)) token).value)
      ⟨128, fun _ => 0⟩ ⟨1, fun _ => 0⟩ twoPartitionSpec.decode = .ok single ∧
    out.output 5 = single.output 5 ∧ out.lse 0 = single.lse 0 := by
  have table : onePageSpec.validatePageTable (.ofList [0, 1]) (.ofList [0]) (.ofList [2]) = .ok _ :=
    onePageSpec.validatePageTable_ok (onePageSpec.checkPageTable_eq_ok.mp rfl)
  obtain ⟨filled, appends, out, decodes, requests⟩ := @poolLaunches_decode_eq_single ℝ _ _ _ _ _ _
    appendConstants 0 1 emptyPool _ ⟨128, fun _ => 1⟩ ⟨128, fun _ => 0⟩ ⟨1, fun _ => 0⟩ _ _ _ _
    (if_pos rfl) appendConstants_base Nat.one_pos oneTokenCalls_shape oneTokenCalls_planned
    (oneTokenCalls_accepted _) onePageSpec rfl _ rfl rfl rfl rfl rfl rfl _ table
  obtain ⟨kvLen, length, rows⟩ := requests 0 Nat.one_pos
  obtain rfl : 2 = kvLen := Option.some.inj length
  have row := rows _ (oneTokenCalls_last _) 0 Nat.one_pos
  obtain ⟨single, run, same⟩ := @row twoPartitionSpec.decode
    (Bf16SingleDecodeSpec.new_self twoPartitionSpec.decode) ⟨128, fun _ => 0⟩ ⟨1, fun _ => 0⟩ rfl rfl
  exact ⟨filled, out, single, (appends _).mpr rfl, (decodes _).mpr rfl, run, same.1 5 (by decide),
    same.2⟩

/-- Two append launches, and a prefill launch whose second row reads both tokens. -/
theorem poolLaunches_prefill_eq_single_twoCalls : ∃ filled out single,
    LaunchRun (appendDeviceRotation (exactRopeOps ℝ appendConstants)) emptyPool
      [oneTokenCall 1, oneTokenCall 2] filled ∧
    PagedPrefillRun (extOps ℝ) onePagePrefillSpec ⟨2, 32⟩
      (.exact (fun _ => 1) filled.keyPages.get filled.valuePages.get (.ofList [0, 2])
        (.ofList [0, 1]) (.ofList [0]) (.ofList [2]))
      (AttentionOut.onDevice ⟨fun _ => 0, fun _ => 0⟩) (AttentionOut.onDevice out) ∧
    singleDecodeBf16Reference (exactOps ℝ) (Slice.window ⟨256, fun _ => 1⟩ (1 * (1 * 128)) (1 * 128))
      (flatTokens Nat.one_pos 2 fun token =>
        (oneTokenHistory (ropeRotation (exactRopeOps ℝ appendConstants)) token).key)
      (flatTokens Nat.one_pos 2 fun token =>
        (oneTokenHistory (ropeRotation (exactRopeOps ℝ appendConstants)) token).value)
      ⟨128, fun _ => 0⟩ ⟨1, fun _ => 0⟩ twoPartitionSpec.decode = .ok single ∧
    out.output 133 = single.output 5 ∧ out.lse 1 = single.lse 0 := by
  have metadata : onePagePrefillSpec.validateMetadata (.ofList [0, 2]) (.ofList [0, 1]) (.ofList [0])
      (.ofList [2]) = .ok _ :=
    onePagePrefillSpec.validateMetadata_ok (onePagePrefillSpec.checkMetadata_eq_ok.mp rfl)
  obtain ⟨filled, appends, out, prefills, requests⟩ := @poolLaunches_prefill_eq_single ℝ _ _ _ _ _ _
    appendConstants 0 1 emptyPool _ ⟨256, fun _ => 1⟩ ⟨256, fun _ => 0⟩ ⟨2, fun _ => 0⟩ _ _ _ _ _
    (if_pos rfl) appendConstants_base Nat.one_pos oneTokenCalls_shape oneTokenCalls_planned
    (oneTokenCalls_accepted _) onePagePrefillSpec rfl _ rfl rfl rfl rfl rfl rfl _ metadata
  obtain ⟨qoStart, qoEnd, range, rows⟩ := requests 0 Nat.one_pos
  obtain ⟨rfl, rfl⟩ : 0 = qoStart ∧ 2 = qoEnd := Prod.mk.inj (Option.some.inj range)
  obtain ⟨causalEnd, count, rows⟩ := rows 1 (by decide) (by decide)
  obtain rfl : 2 = causalEnd := Option.some.inj count
  have row := rows _ (oneTokenCalls_last _) 0 Nat.one_pos
  obtain ⟨single, run, same⟩ := @row twoPartitionSpec.decode
    (Bf16SingleDecodeSpec.new_self twoPartitionSpec.decode) ⟨128, fun _ => 0⟩ ⟨1, fun _ => 0⟩ rfl rfl
  exact ⟨filled, out, single, (appends _).mpr rfl, (prefills _).mpr rfl, run, same.1 5 (by decide),
    same.2⟩

end LoomKernels
