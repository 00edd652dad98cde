import LoomKernels.Device.DecodePlans
import LoomKernels.Device.RaggedSentinels

/-!
# Prefill plans

The paged plan of the prefill provider takes one warp, eight or sixteen by its shape. As in decode,
it has one outcome on any metadata of the right lengths: the rows whose own request is valid are
served, and nothing else changes.

A ragged plan takes one of four ways. On metadata that the host accepts, every run of every ragged
plan leaves the results of the reference, the tiled plan with its two kernels and its workspace
included.
-/

namespace LoomKernels

open Memory (PrefillRowValid)

/-! ## The paged plan -/

inductive PagedPrefillPlanError where
  | stateCountOutOfRange (states : Nat)
  | launch (configured declared : Nat)
  deriving DecidableEq, Repr

/-- `paged_prefill_bf16_nhd_causal` -/
def pagedPrefillEntry : KernelEntry := ⟨32, 1⟩

/-- `paged_prefill_bf16_nhd_causal_token_parallel8` -/
def pagedPrefillTokenParallel8Entry : KernelEntry := ⟨256, tokenParallel8Warps⟩

/-- `paged_prefill_bf16_nhd_causal_token_parallel16` -/
def pagedPrefillTokenParallel16Entry : KernelEntry := ⟨512, tokenParallel16Warps⟩

def PrefillProvider.planBf16Paged (spec : Bf16PagedPrefillSpec) :
    Except PagedPrefillPlanError (Bf16PagedPrefillPlan × PreparedLaunch) := do
  let states ← okOrElse (checkedMul spec.nnzQo spec.numQueryHeads)
    (.stateCountOutOfRange (usizeSize - 1))
  let states ← gridOr states (.stateCountOutOfRange states)
  let launch ← match pagedPrefillAlgorithm spec with
    | .direct => KernelLaunch.prepareOr ⟨pagedPrefillEntry, ⟨states, warpThreads⟩⟩ .launch
    | .tokenParallel8 =>
      KernelLaunch.prepareOr ⟨pagedPrefillTokenParallel8Entry,
        ⟨states, warpThreads * tokenParallel8Warps⟩⟩ .launch
    | .tokenParallel16 =>
      KernelLaunch.prepareOr ⟨pagedPrefillTokenParallel16Entry,
        ⟨states, warpThreads * tokenParallel16Warps⟩⟩ .launch
  return (⟨spec⟩, launch)

/-- The block of each algorithm. -/
def Bf16PagedPrefillAlgorithm.threads : Bf16PagedPrefillAlgorithm → Nat
  | .direct => 32
  | .tokenParallel8 => 256
  | .tokenParallel16 => 512

theorem PrefillProvider.planBf16Paged_eq_ok {spec : Bf16PagedPrefillSpec}
    {plan : Bf16PagedPrefillPlan} {launch : PreparedLaunch}
    (planned : PrefillProvider.planBf16Paged spec = .ok (plan, launch)) :
    plan = ⟨spec⟩ ∧ launch.config = ⟨spec.lseNumel, (pagedPrefillAlgorithm spec).threads⟩ := by
  obtain ⟨_, states, rest⟩ := bind_eq_ok.mp planned
  obtain ⟨-, rfl⟩ := checkedMul_eq_some.mp (okOrElse_eq_ok.mp states)
  obtain ⟨_, grid, rest⟩ := bind_eq_ok.mp rest
  obtain ⟨-, rfl⟩ := gridOr_eq_ok.mp grid
  cases algorithm : pagedPrefillAlgorithm spec with
  | direct =>
    rw [algorithm, KernelLaunch.prepareOr_ok rfl] at rest
    cases rest
    exact ⟨rfl, rfl⟩
  | tokenParallel8 =>
    rw [algorithm, KernelLaunch.prepareOr_ok rfl] at rest
    cases rest
    exact ⟨rfl, rfl⟩
  | tokenParallel16 =>
    rw [algorithm, KernelLaunch.prepareOr_ok rfl] at rest
    cases rest
    exact ⟨rfl, rfl⟩

/-- What the kernels of paged prefill read. -/
structure PagedPrefillInputs (F B : Type) where
  softmaxScaleLog2 : F
  query : Nat → B
  keyPages : Nat → B
  valuePages : Nat → B
  qoIndptr : Slice Int32
  pageIndptr : Slice Int32
  pageIndices : Slice Int32
  lastPageLen : Slice Int32

section Runs

variable {F B : Type} (ops : DeviceOps F B)

/-- A launch of a token-parallel kernel, whatever the shared memory of its blocks held. -/
def PagedPrefillTokenParallelRun (warps : Nat) (spec : Bf16PagedPrefillSpec)
    (config : LaunchConfig1D) (inputs : PagedPrefillInputs F B) (before after : AttentionOut F B) :
    Prop :=
  ∃ partialStates : Nat → Nat → F, RowLaunch config
    (fun block => ops.pagedPrefillTokenParallel warps spec.batchSize spec.nnzQo spec.maxNumPages
      spec.numQueryHeads spec.numKvHeads inputs.softmaxScaleLog2 inputs.query inputs.keyPages
      inputs.valuePages inputs.qoIndptr inputs.pageIndptr inputs.pageIndices inputs.lastPageLen
      (partialStates block) block) before after

/-- A run of the paged plan. -/
def PagedPrefillRun (spec : Bf16PagedPrefillSpec) (config : LaunchConfig1D)
    (inputs : PagedPrefillInputs F B) (before after : AttentionOut F B) : Prop :=
  match pagedPrefillAlgorithm spec with
  | .direct => RowLaunch config (ops.pagedPrefillDirect spec.batchSize spec.nnzQo spec.maxNumPages
      spec.numQueryHeads spec.numKvHeads inputs.softmaxScaleLog2 inputs.query inputs.keyPages
      inputs.valuePages inputs.qoIndptr inputs.pageIndptr inputs.pageIndices inputs.lastPageLen)
      before after
  | .tokenParallel8 =>
    PagedPrefillTokenParallelRun ops tokenParallel8Warps spec config inputs before after
  | .tokenParallel16 =>
    PagedPrefillTokenParallelRun ops tokenParallel16Warps spec config inputs before after

end Runs

section Paged

variable {K : Type} [Field K] [LinearOrder K] [ExactExp K]

/-- Inputs of the host, as the device holds them. -/
def PagedPrefillInputs.exact (query keyPages valuePages : Nat → K)
    (qoIndptr pageIndptr pageIndices lastPageLen : Slice Int32) :
    PagedPrefillInputs (Ext K) (Ext K) where
  softmaxScaleLog2 := .fin (scaleLog2 K)
  query := finArray query
  keyPages := finArray keyPages
  valuePages := finArray valuePages
  qoIndptr
  pageIndptr
  pageIndices
  lastPageLen

open Classical in
/-- The attention of the rows whose requests are valid. -/
noncomputable def Bf16PagedPrefillSpec.servedRows (spec : Bf16PagedPrefillSpec)
    (query keyPages valuePages : Nat → K) (qoIndptr pageIndptr pageIndices lastPageLen : Slice Int32)
    (row : Nat) : Option (RowValue (Ext K) (Ext K)) :=
  if PrefillRowValid spec qoIndptr pageIndptr pageIndices lastPageLen row then
    some (attentionRow (spec.tokensOfRow query keyPages valuePages qoIndptr pageIndptr pageIndices
      lastPageLen row))
  else none

variable [IsStrictOrderedRing K] {spec : Bf16PagedPrefillSpec}
  {qoIndptr pageIndptr pageIndices lastPageLen : Slice Int32}
  (qoLen_eq : qoIndptr.len = spec.batchSize + 1) (indptrLen_eq : pageIndptr.len = spec.batchSize + 1)
  (tailLen_eq : lastPageLen.len = spec.batchSize) (query keyPages valuePages : Nat → K)
include qoLen_eq indptrLen_eq tailLen_eq

theorem pagedPrefillDirect_serves : ServesRows ⟨spec.lseNumel, 32⟩
    ((extOps K).pagedPrefillDirect spec.batchSize spec.nnzQo spec.maxNumPages spec.numQueryHeads
      spec.numKvHeads (.fin (scaleLog2 K)) (finArray query) (finArray keyPages) (finArray valuePages)
      qoIndptr pageIndptr pageIndices lastPageLen)
    (spec.servedRows query keyPages valuePages qoIndptr pageIndptr pageIndices lastPageLen) where
  warp := le_rfl
  returns row h lane hl := by
    by_cases valid : PrefillRowValid spec qoIndptr pageIndptr pageIndices lastPageLen row
    · rw [pagedPrefillDirect_served qoLen_eq indptrLen_eq tailLen_eq h hl valid,
        Bf16PagedPrefillSpec.servedRows, if_pos valid]
      exact directRow_exact query keyPages valuePages row _ (Nat.succ_pos _) hl
    · rw [pagedPrefillDirect_unserved qoLen_eq indptrLen_eq tailLen_eq h hl valid,
        Bf16PagedPrefillSpec.servedRows, if_neg valid]
      rfl
  inside row outside := if_neg fun live => absurd live.1 (Nat.not_lt.mpr outside)

theorem pagedPrefillTokenParallel_serves (pageIndices : Slice Int32) {warps : Nat} (hw : 0 < warps)
    (partialStates : Nat → Nat → Ext K) : ServesRows ⟨spec.lseNumel, 32 * warps⟩
      (fun block => (extOps K).pagedPrefillTokenParallel warps spec.batchSize spec.nnzQo
        spec.maxNumPages spec.numQueryHeads spec.numKvHeads (.fin (scaleLog2 K)) (finArray query)
        (finArray keyPages) (finArray valuePages) qoIndptr pageIndptr pageIndices lastPageLen
        (partialStates block) block)
      (spec.servedRows query keyPages valuePages qoIndptr pageIndptr pageIndices lastPageLen) where
  warp := Nat.le_mul_of_pos_right _ hw
  returns row h thread _ := by
    by_cases valid : PrefillRowValid spec qoIndptr pageIndptr pageIndices lastPageLen row
    · rw [pagedPrefillTokenParallel_served qoLen_eq indptrLen_eq tailLen_eq h hw _ _ valid,
        Bf16PagedPrefillSpec.servedRows, if_pos valid]
      have block := tokenParallelRow_exact hw (mergeNonempty_appends hw) query keyPages valuePages row
        (spec.rowOffset qoIndptr pageIndptr pageIndices row) 0
        (show 0 < spec.rowLen qoIndptr pageIndptr lastPageLen row from Nat.succ_pos _)
        (partialStates row) thread
      rw [Nat.zero_add] at block
      exact block
    · rw [pagedPrefillTokenParallel_unserved qoLen_eq indptrLen_eq tailLen_eq h hw _ _ valid,
        Bf16PagedPrefillSpec.servedRows, if_neg valid]
      rfl
  inside row outside := if_neg fun live => absurd live.1 (Nat.not_lt.mpr outside)

/-- A launch of a token-parallel kernel has one outcome. -/
theorem pagedPrefillTokenParallelRun_iff {warps : Nat} (hw : 0 < warps)
    {before after : AttentionOut (Ext K) (Ext K)} :
    PagedPrefillTokenParallelRun (extOps K) warps spec ⟨spec.lseNumel, 32 * warps⟩
        (.exact query keyPages valuePages qoIndptr pageIndptr pageIndices lastPageLen) before after ↔
      after = servedOut
        (spec.servedRows query keyPages valuePages qoIndptr pageIndptr pageIndices lastPageLen)
        before := by
  have serves := pagedPrefillTokenParallel_serves qoLen_eq indptrLen_eq tailLen_eq query keyPages
    valuePages pageIndices hw
  constructor
  · rintro ⟨partialStates, launch⟩
    exact (serves partialStates).rowLaunch_iff.mp launch
  · intro eq
    exact ⟨fun _ _ => .nan, (serves _).rowLaunch_iff.mpr eq⟩

/-- A paged launch has one outcome, whichever algorithm the shape asks for. -/
theorem pagedPrefillRun_iff {before after : AttentionOut (Ext K) (Ext K)} :
    PagedPrefillRun (extOps K) spec ⟨spec.lseNumel, (pagedPrefillAlgorithm spec).threads⟩
        (.exact query keyPages valuePages qoIndptr pageIndptr pageIndices lastPageLen) before after ↔
      after = servedOut
        (spec.servedRows query keyPages valuePages qoIndptr pageIndptr pageIndices lastPageLen)
        before := by
  unfold PagedPrefillRun
  cases pagedPrefillAlgorithm spec with
  | direct =>
    exact (pagedPrefillDirect_serves qoLen_eq indptrLen_eq tailLen_eq query keyPages
      valuePages).rowLaunch_iff
  | tokenParallel8 =>
    exact pagedPrefillTokenParallelRun_iff qoLen_eq indptrLen_eq tailLen_eq query keyPages valuePages
      (show 0 < tokenParallel8Warps by decide)
  | tokenParallel16 =>
    exact pagedPrefillTokenParallelRun_iff qoLen_eq indptrLen_eq tailLen_eq query keyPages valuePages
      (show 0 < tokenParallel16Warps by decide)

variable (spec qoIndptr pageIndptr pageIndices lastPageLen) {plan : Bf16PagedPrefillPlan}
  {launch : PreparedLaunch} (planned : PrefillProvider.planBf16Paged spec = .ok (plan, launch))
include planned

/-- Whatever the metadata holds, a paged plan has one outcome: a row whose own request is valid gets
the attention of its tokens, and the results of every other row are as before. -/
theorem pagedPrefillPlan_isolates (before : AttentionOut (Ext K) (Ext K)) :
    ∃ after, (∀ other, PagedPrefillRun (extOps K) plan.spec launch.config
        (.exact query keyPages valuePages qoIndptr pageIndptr pageIndices lastPageLen) before other ↔
          other = after) ∧
      ∀ row, (PrefillRowValid spec qoIndptr pageIndptr pageIndices lastPageLen row →
          let tokens := spec.tokensOfRow query keyPages valuePages qoIndptr pageIndptr pageIndices
            lastPageLen row
          after.lse row = .fin (attentionLse tokens) ∧
            ∀ c : Fin 128, after.output (row * 128 + c) = .fin (attentionMean tokens c)) ∧
        (¬ PrefillRowValid spec qoIndptr pageIndptr pageIndices lastPageLen row →
          after.lse row = before.lse row ∧
            ∀ c : Fin 128, after.output (row * 128 + c) = before.output (row * 128 + c)) := by
  obtain ⟨rfl, config⟩ := PrefillProvider.planBf16Paged_eq_ok planned
  let rows := spec.servedRows query keyPages valuePages qoIndptr pageIndptr pageIndices lastPageLen
  refine ⟨servedOut rows before, fun other => ?_, fun row => ⟨fun valid => ?_, fun other => ?_⟩⟩
  · rw [config]
    exact pagedPrefillRun_iff qoLen_eq indptrLen_eq tailLen_eq query keyPages valuePages
  · have value : rows row = some (attentionRow (spec.tokensOfRow query keyPages valuePages qoIndptr
      pageIndptr pageIndices lastPageLen row)) := if_pos valid
    obtain ⟨lse, output⟩ := servedOut_some value before
    refine ⟨lse, fun c => (output c c.isLt).trans ?_⟩
    simp only [attentionRow, Fin.ofNat_val_eq_self]
  · have untouched : rows row = none := if_neg other
    obtain ⟨lse, output⟩ := servedOut_none untouched before
    exact ⟨lse, fun c => output _ (row_div c.isLt)⟩

omit qoLen_eq indptrLen_eq tailLen_eq in
/-- On metadata that the host accepts, a paged plan leaves the memories of the reference. -/
theorem pagedPrefillPlan_eq_reference (query keyPages valuePages output lse : Slice K)
    (hq : query.len = spec.queryNumel) (hk : keyPages.len = spec.kvPagesNumel)
    (hv : valuePages.len = spec.kvPagesNumel) (ho : output.len = spec.outputNumel)
    (hl : lse.len = spec.lseNumel) {metadata : Bf16PagedPrefillMetadata}
    (accepted : spec.validateMetadata qoIndptr pageIndptr pageIndices lastPageLen = .ok metadata) :
    ∃ out, pagedPrefillBf16Reference (exactOps K) query keyPages valuePages qoIndptr pageIndptr
        pageIndices lastPageLen output lse spec = .ok out ∧
      ∀ after, PagedPrefillRun (extOps K) plan.spec launch.config
          (.exact query.get keyPages.get valuePages.get qoIndptr pageIndptr pageIndices lastPageLen)
          (AttentionOut.onDevice ⟨output.get, lse.get⟩) after ↔ after = out.onDevice := by
  obtain ⟨rfl, config⟩ := PrefillProvider.planBf16Paged_eq_ok planned
  obtain ⟨valid, -⟩ := spec.validateMetadata_eq_ok.mp accepted
  obtain ⟨out, reference, filled⟩ := pagedPrefillBf16Reference_exact spec hq hk hv ho hl valid
  refine ⟨out, reference, fun after => ?_⟩
  rw [config, pagedPrefillRun_iff valid.qo.len valid.table.indptr_len valid.table.tail_len,
    servedOut_filled filled]
  · exact fun row h => if_pos (Memory.prefillRowValid_of_valid valid h)
  · exact fun row outside => if_neg fun live => absurd live.1 (Nat.not_lt.mpr outside)

end Paged

/-- Two requests of one query row and head over one page. -/
def twoQuerySpec : Bf16PagedPrefillSpec where
  batchSize := 2
  nnzQo := 2
  maxNumPages := 1
  numQueryHeads := 1
  numKvHeads := 1
  batch_pos := Nat.two_pos
  qo_pos := Nat.two_pos
  pages_pos := Nat.one_pos
  queryHeads_pos := Nat.one_pos
  kvHeads_pos := Nat.one_pos
  group := oneHead_divides
  qo_lt := twoRows_lt
  batch_fits := twoRequests_fit
  query_fits := twoRows_fit
  pages_fit := onePage_fits

/-- The second request names a page that does not exist: its row stays, and the first is served. -/
theorem pagedPrefillPlan_isolates_twoQuery :
    ∃ (after : AttentionOut (Ext ℝ) (Ext ℝ)) (tokens : List (Token ℝ (Fin 128))),
      PagedPrefillRun (extOps ℝ) twoQuerySpec ⟨2, 32⟩
        (.exact (fun i => i) (fun i => i + 1) (fun i => 2 * i) (.ofList [0, 1, 2])
          (.ofList [0, 1, 2]) (.ofList [0, 7]) (.ofList [1, 1])) ⟨fun _ => .nan, fun _ => .nan⟩
        after ∧
      after.lse 0 = .fin (attentionLse tokens) ∧ after.lse 1 = .nan := by
  obtain ⟨after, run, rows⟩ := pagedPrefillPlan_isolates twoQuerySpec
    (.ofList [0, 1, 2]) (.ofList [0, 1, 2]) (.ofList [0, 7]) (.ofList [1, 1]) rfl rfl rfl
    (fun i => (i : ℝ)) (fun i => i + 1) (fun i => 2 * i) rfl ⟨fun _ => .nan, fun _ => .nan⟩
  have first : PrefillRowValid twoQuerySpec (.ofList [0, 1, 2]) (.ofList [0, 1, 2]) (.ofList [0, 7])
      (.ofList [1, 1]) 0 := by
    refine ⟨Nat.two_pos, 0, Nat.two_pos, ⟨fun r hr => absurd hr (Nat.not_lt_zero r), ?_, ?_⟩, {
      start := rfl
      total := rfl
      pageStart := by decide
      pageEnd := by decide
      inside := by decide
      tail_pos := by decide
      tail_le := by decide
      pages := fun i _ h => by
        obtain rfl : i = 0 := Nat.lt_one_iff.mp h
        decide
      qoStart := rfl
      qoTotal := rfl
      range := ?_
      causal := by decide }⟩
    · exact ⟨by decide, by decide, by decide⟩
    · exact ⟨by decide, by decide⟩
    · exact ⟨by decide, by decide, by decide⟩
  have second : ¬ PrefillRowValid twoQuerySpec (.ofList [0, 1, 2]) (.ofList [0, 1, 2])
      (.ofList [0, 7]) (.ofList [1, 1]) 1 := by
    rintro ⟨-, request, small, finds, valid⟩
    rcases Nat.lt_or_ge request 1 with zero | one
    · obtain rfl : request = 0 := Nat.lt_one_iff.mp zero
      exact absurd finds.row.2 (by decide)
    · obtain rfl : request = 1 := Nat.le_antisymm (Nat.le_of_lt_succ small) one
      exact absurd (valid.pages 1 (by decide) (by decide)).2 (by decide)
  exact ⟨after, _, (run after).mpr rfl, ((rows 0).1 first).1, ((rows 1).2 second).1⟩

/-- Two requests that share a page, of which the second has two tokens. -/
theorem pagedPrefillPlan_eq_reference_sharedPage :
    ∃ out, pagedPrefillBf16Reference (exactOps ℝ) ⟨256, fun i => i⟩ ⟨2048, fun i => i + 1⟩
        ⟨2048, fun i => 2 * i⟩ (.ofList [0, 1, 2]) (.ofList [0, 1, 2]) (.ofList [0, 0])
        (.ofList [1, 2]) ⟨256, fun _ => 0⟩ ⟨2, fun _ => 0⟩ twoQuerySpec = .ok out ∧
      PagedPrefillRun (extOps ℝ) twoQuerySpec ⟨2, 32⟩
        (.exact (fun i => i) (fun i => i + 1) (fun i => 2 * i) (.ofList [0, 1, 2])
          (.ofList [0, 1, 2]) (.ofList [0, 0]) (.ofList [1, 2]))
        (AttentionOut.onDevice ⟨fun _ => 0, fun _ => 0⟩) out.onDevice := by
  obtain ⟨out, reference, run⟩ := pagedPrefillPlan_eq_reference twoQuerySpec (.ofList [0, 1, 2])
    (.ofList [0, 1, 2]) (.ofList [0, 0]) (.ofList [1, 2]) rfl ⟨256, fun i => (i : ℝ)⟩
    ⟨2048, fun i => i + 1⟩ ⟨2048, fun i => 2 * i⟩ ⟨256, fun _ => 0⟩ ⟨2, fun _ => 0⟩ rfl rfl rfl rfl rfl
    (twoQuerySpec.validateMetadata_ok (twoQuerySpec.checkMetadata_eq_ok.mp rfl))
  exact ⟨out, reference, (run _).mpr rfl⟩

/-! ## Ragged plans -/

section Ragged

/-- A launch of a ragged kernel, seen on its results. -/
theorem resultLaunch_iff {F B : Type} {config : LaunchConfig1D}
    {kernel : Nat → Nat → DeviceM (AttentionWrites F B)} {before after : RaggedBuffers F B} :
    ResultLaunch config kernel before after ↔
      RowLaunch config kernel ⟨before.output, before.lse⟩ ⟨after.output, after.lse⟩ ∧
        after.workspace = before.workspace := by
  constructor
  · rintro ⟨writes, run, outputs, lses, outputPerm, lsePerm, rfl⟩
    exact ⟨⟨writes, run, outputs, lses, outputPerm, lsePerm, rfl⟩, rfl⟩
  · rintro ⟨⟨writes, run, outputs, lses, outputPerm, lsePerm, results⟩, workspace⟩
    obtain ⟨output, lse, held⟩ := after
    cases results
    cases workspace
    exact ⟨writes, run, outputs, lses, outputPerm, lsePerm, rfl⟩

variable {K : Type} [Field K] [LinearOrder K] [ExactExp K]

/-- Inputs of the host, as the device holds them. -/
def RaggedInputs.exact {spec : Bf16RaggedPrefillSpec} {qoIndptr kvIndptr : Slice Int32}
    (valid : RaggedValid spec qoIndptr kvIndptr) (query key value : Nat → K) :
    RaggedInputs spec (Ext K) (Ext K) where
  softmaxScaleLog2 := .fin (scaleLog2 K)
  query := finArray query
  key := finArray key
  value := finArray value
  qoIndptr
  kvIndptr
  qo_len := valid.qo.len
  kv_len := valid.kv.len

/-- The attention of every row of results. -/
def Bf16RaggedPrefillSpec.stateRows (spec : Bf16RaggedPrefillSpec) (query key value : Nat → K)
    (qoIndptr kvIndptr : Slice Int32) (state : Nat) : Option (RowValue (Ext K) (Ext K)) :=
  if state < spec.lseNumel then
    some (attentionRow (spec.tokensOfRow query key value qoIndptr kvIndptr state))
  else none

variable [IsStrictOrderedRing K] {spec : Bf16RaggedPrefillSpec} {qoIndptr kvIndptr : Slice Int32}
  (valid : RaggedValid spec qoIndptr kvIndptr) (query key value : Nat → K)
include valid

theorem raggedPrefillDirect_serves : ServesRows ⟨spec.lseNumel, warpThreads⟩
    ((extOps K).raggedPrefillDirect spec.batchSize spec.nnzQo spec.nnzKv spec.numQueryHeads
      spec.numKvHeads (.fin (scaleLog2 K)) (finArray query) (finArray key) (finArray value) qoIndptr
      kvIndptr) (spec.stateRows query key value qoIndptr kvIndptr) where
  warp := le_rfl
  returns state h lane hl := by
    obtain ⟨request, ⟨hr, lo, hi⟩, -⟩ :=
      valid.qo.existsUnique_request ((lt_rows_iff spec.queryHeads_pos).mpr h)
    have row : spec.stateRows query key value qoIndptr kvIndptr state =
      some (attentionRow (spec.tokensOfRow query key value qoIndptr kvIndptr state)) := if_pos h
    rw [DeviceOps.raggedPrefillDirect, raggedDirectGuard_valid valid hr lo hi hl, ok_bind, row,
      Bf16RaggedPrefillSpec.tokensOfRow, valid.qo.requestOf_eq hr lo hi]
    exact directRow_exact query key value state
      (fun token => (token * spec.numKvHeads + state % spec.numQueryHeads / spec.gqaGroupSize) * 128)
      (lt_raggedCausalEnd _ _ _ _) hl
  inside state outside := if_neg (Nat.not_lt.mpr outside)

theorem raggedPrefillTokenParallel_serves {warps : Nat} (hw : 0 < warps)
    (partialStates : Nat → Nat → Ext K) : ServesRows ⟨spec.lseNumel, warpThreads * warps⟩
      (fun block => (extOps K).raggedPrefillTokenParallel warps spec.batchSize spec.nnzQo spec.nnzKv
        spec.numQueryHeads spec.numKvHeads (.fin (scaleLog2 K)) (finArray query) (finArray key)
        (finArray value) qoIndptr kvIndptr (partialStates block) block)
      (spec.stateRows query key value qoIndptr kvIndptr) where
  warp := Nat.le_mul_of_pos_right _ hw
  returns state h thread _ := by
    obtain ⟨request, ⟨hr, lo, hi⟩, -⟩ :=
      valid.qo.existsUnique_request ((lt_rows_iff spec.queryHeads_pos).mpr h)
    have row : spec.stateRows query key value qoIndptr kvIndptr state =
      some (attentionRow (spec.tokensOfRow query key value qoIndptr kvIndptr state)) := if_pos h
    rw [DeviceOps.raggedPrefillTokenParallel, raggedTokenParallelGuard_valid valid hr lo hi, ok_bind,
      row, Bf16RaggedPrefillSpec.tokensOfRow, valid.qo.requestOf_eq hr lo hi]
    exact tokenParallelRow_exact hw (mergeNonempty_appends hw) query key value state
      (fun token => (token * spec.numKvHeads + state % spec.numQueryHeads / spec.gqaGroupSize) * 128)
      (indptrStart kvIndptr request) (Nat.succ_pos _) (partialStates state) thread
  inside state outside := if_neg (Nat.not_lt.mpr outside)

/-- The merge kernel of the tiled plan, over a workspace that the partial kernel has filled. -/
theorem raggedPrefillTiledMerge_serves (tiled : raggedPrefillAlgorithm spec = .tiledGqa4)
    {shared : Nat → Nat → Ext K} {before filled : RaggedBuffers (Ext K) (Ext K)}
    (partials : PartialLaunch ⟨spec.tiledBlocks, tiledThreads⟩
      (fun block => (extOps K).raggedPrefillTiledGqa4 spec.batchSize spec.nnzQo spec.nnzKv
        spec.numQueryHeads spec.numKvHeads (.fin (scaleLog2 K)) (finArray query) (finArray key)
        (finArray value) qoIndptr kvIndptr (shared block) block) before filled) :
    ServesRows ⟨spec.lseNumel, warpThreads⟩
      ((extOps K).raggedPrefillTiledGqa4Merge spec.nnzQo spec.numQueryHeads filled.workspace)
      (spec.stateRows query key value qoIndptr kvIndptr) := by
  obtain ⟨writes, run, order, perm, rfl⟩ := partials
  obtain ⟨regs, returns, final⟩ := raggedPrefillTiledGqa4_writes (extOps K) valid.qo.len valid.kv.len
    (.fin (scaleLog2 K)) (finArray query) (finArray key) (finArray value) shared
  have same : ∀ block < spec.tiledBlocks, ∀ thread < tiledThreads,
      writes block thread = spec.tiledWrites qoIndptr kvIndptr regs block thread :=
    fun block hb thread ht =>
      Except.ok.inj ((run block hb thread ht).symm.trans (returns block thread))
  rw [gridWrites_congr same] at perm
  refine ⟨le_rfl, fun state h lane hl => ?_, fun state outside => if_neg (Nat.not_lt.mpr outside)⟩
  have row : spec.stateRows query key value qoIndptr kvIndptr state =
    some (attentionRow (spec.tokensOfRow query key value qoIndptr kvIndptr state)) := if_pos h
  rw [row, rowOrNothing_attention, if_pos hl]
  exact tiledMerge_exact (gqaGroupSize_of_tiled tiled) valid query key value shared final perm
    before.workspace h hl

omit [IsStrictOrderedRing K] in
/-- The partial kernel comes to its end. -/
theorem raggedPrefillTiled_launches (before : RaggedBuffers (Ext K) (Ext K)) :
    ∃ filled : RaggedBuffers (Ext K) (Ext K), PartialLaunch ⟨spec.tiledBlocks, tiledThreads⟩
      (fun block => (extOps K).raggedPrefillTiledGqa4 spec.batchSize spec.nnzQo spec.nnzKv
        spec.numQueryHeads spec.numKvHeads (.fin (scaleLog2 K)) (finArray query) (finArray key)
        (finArray value) qoIndptr kvIndptr (fun _ => .nan) block) before filled ∧
      filled.output = before.output ∧ filled.lse = before.lse := by
  obtain ⟨regs, returns, -⟩ := raggedPrefillTiledGqa4_writes (extOps K) valid.qo.len valid.kv.len
    (.fin (scaleLog2 K)) (finArray query) (finArray key) (finArray value) fun _ _ => .nan
  exact ⟨_, ⟨_, fun block _ thread _ => returns block thread, _, List.Perm.refl _, rfl⟩, rfl, rfl⟩

/-- A ragged run has one outcome in its results, whichever algorithm the shape asks for. -/
theorem raggedRun_results (before : RaggedBuffers (Ext K) (Ext K)) :
    (∃ after, RaggedRun (extOps K) spec (.exact valid query key value) before after) ∧
      ∀ after, RaggedRun (extOps K) spec (.exact valid query key value) before after →
        (⟨after.output, after.lse⟩ : AttentionOut (Ext K) (Ext K)) =
          servedOut (spec.stateRows query key value qoIndptr kvIndptr)
            ⟨before.output, before.lse⟩ := by
  let results : RaggedBuffers (Ext K) (Ext K) → RaggedBuffers (Ext K) (Ext K) := fun held =>
    let served := servedOut (spec.stateRows query key value qoIndptr kvIndptr)
      ⟨before.output, before.lse⟩
    ⟨served.output, served.lse, held.workspace⟩
  have launched : ∀ {config kernel}, ServesRows config kernel
      (spec.stateRows query key value qoIndptr kvIndptr) → ∀ held : RaggedBuffers (Ext K) (Ext K),
      held.output = before.output → held.lse = before.lse → ∀ after,
      ResultLaunch config kernel held after ↔ after = results held := by
    rintro config kernel serves ⟨_, _, held⟩ rfl rfl ⟨output, lse, workspace⟩
    rw [resultLaunch_iff, serves.rowLaunch_iff]
    simp only [results, RaggedBuffers.mk.injEq]
    exact ⟨fun ⟨eq, kept⟩ => ⟨congrArg AttentionOut.output eq, congrArg AttentionOut.lse eq, kept⟩,
      fun ⟨outputs, lses, kept⟩ => ⟨by rw [outputs, lses], kept⟩⟩
  unfold RaggedRun
  cases algorithm : raggedPrefillAlgorithm spec with
  | direct =>
    have run := launched (raggedPrefillDirect_serves valid query key value) before rfl rfl
    exact ⟨⟨_, (run _).mpr rfl⟩, fun after launch => by rw [(run after).mp launch]⟩
  | tokenParallel8 =>
    have run := fun partialStates => launched (raggedPrefillTokenParallel_serves valid query key value
      (show 0 < tokenParallel8Warps by decide) partialStates) before rfl rfl
    exact ⟨⟨_, fun _ _ => .nan, (run _ _).mpr rfl⟩,
      fun after ⟨partialStates, launch⟩ => by rw [(run partialStates after).mp launch]⟩
  | tokenParallel16 =>
    have run := fun partialStates => launched (raggedPrefillTokenParallel_serves valid query key value
      (show 0 < tokenParallel16Warps by decide) partialStates) before rfl rfl
    exact ⟨⟨_, fun _ _ => .nan, (run _ _).mpr rfl⟩,
      fun after ⟨partialStates, launch⟩ => by rw [(run partialStates after).mp launch]⟩
  | tiledGqa4 =>
    constructor
    · obtain ⟨filled, partials, output, lse⟩ := raggedPrefillTiled_launches valid query key value
        before
      have serves := raggedPrefillTiledMerge_serves valid query key value algorithm partials
      exact ⟨_, _, filled, partials, (launched serves filled output lse _).mpr rfl⟩
    · rintro after ⟨shared, filled, partials, launch⟩
      have serves := raggedPrefillTiledMerge_serves valid query key value algorithm partials
      have kept : filled.output = before.output ∧ filled.lse = before.lse := by
        obtain ⟨-, -, order, -, rfl⟩ := partials
        exact ⟨rfl, rfl⟩
      rw [(launched serves filled kept.1 kept.2 after).mp launch]

omit valid in
/-- On metadata that the host accepts, every run of a ragged plan leaves the results of the
reference, whatever the workspace and the shared memory held, and there is such a run. -/
theorem raggedPlan_eq_reference (query key value output lse : Slice K)
    (hq : query.len = spec.queryNumel) (hk : key.len = spec.kvNumel) (hv : value.len = spec.kvNumel)
    (ho : output.len = spec.outputNumel) (hl : lse.len = spec.lseNumel)
    (valid : RaggedValid spec qoIndptr kvIndptr) (workspace : Nat → Ext K) :
    ∃ out, raggedPrefillBf16Reference (exactOps K) query key value qoIndptr kvIndptr output lse spec =
        .ok out ∧
      (∃ after, RaggedRun (extOps K) spec (.exact valid query.get key.get value.get)
        ⟨finArray output.get, finArray lse.get, workspace⟩ after) ∧
      ∀ after, RaggedRun (extOps K) spec (.exact valid query.get key.get value.get)
          ⟨finArray output.get, finArray lse.get, workspace⟩ after →
        after.output = finArray out.output ∧ after.lse = finArray out.lse := by
  obtain ⟨out, reference, filled⟩ := raggedPrefillBf16Reference_exact spec hq hk hv ho hl valid
  have served : servedOut (spec.stateRows query.get key.get value.get qoIndptr kvIndptr)
      (AttentionOut.onDevice ⟨output.get, lse.get⟩) = out.onDevice :=
    servedOut_filled filled (fun row h => if_pos h)
      fun row outside => if_neg (Nat.not_lt.mpr outside)
  obtain ⟨runs, results⟩ := raggedRun_results valid query.get key.get value.get
    ⟨finArray output.get, finArray lse.get, workspace⟩
  refine ⟨out, reference, runs, fun after run => ?_⟩
  have same := (results after run).trans served
  exact ⟨congrArg AttentionOut.output same, congrArg AttentionOut.lse same⟩

end Ragged

/-- One query row over 256 tokens, in the tiled plan. -/
theorem raggedPlan_eq_reference_oneTile :
    ∃ out, ∃ valid : RaggedValid oneTileSpec (.ofList [0, 1]) (.ofList [0, 256]), ∃ after,
      raggedPrefillBf16Reference (exactOps ℝ) ⟨512, fun i => i⟩ ⟨32768, fun i => i + 1⟩
        ⟨32768, fun i => 2 * i⟩ (.ofList [0, 1]) (.ofList [0, 256]) ⟨512, fun _ => 0⟩
        ⟨4, fun _ => 0⟩ oneTileSpec = .ok out ∧
      RaggedRun (extOps ℝ) oneTileSpec (.exact valid (fun i => i) (fun i => i + 1) fun i => 2 * i)
        ⟨finArray fun _ => 0, finArray fun _ => 0, fun _ => .nan⟩ after ∧
      after.output = finArray out.output ∧ after.lse = finArray out.lse := by
  have valid : RaggedValid oneTileSpec (.ofList [0, 1]) (.ofList [0, 256]) :=
    oneTileSpec.checkMetadata_eq_ok.mp rfl
  obtain ⟨out, reference, ⟨after, run⟩, results⟩ := raggedPlan_eq_reference
    ⟨512, fun i => (i : ℝ)⟩ ⟨32768, fun i => i + 1⟩ ⟨32768, fun i => 2 * i⟩ ⟨512, fun _ => 0⟩
    ⟨4, fun _ => 0⟩ rfl rfl rfl rfl rfl valid fun _ => .nan
  exact ⟨out, valid, after, reference, run, results after run⟩

end LoomKernels
