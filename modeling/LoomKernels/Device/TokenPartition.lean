import LoomKernels.Device.SplitK

/-!
# Token-partitioned kernels against their references

The launches of the three families of kernels that split a row's tokens: paged decode over 8 warps,
paged prefill over 8 or 16 warps, and split-K over partitions and then over warps. On every input
that the host validates, no block returns from its guard, no thread faults, and the launch computes
what the host reference computes. A thread that formed `-∞ - -∞` would have faulted, so no thread
does, also where a row has fewer tokens than the block has warps.
-/

namespace LoomKernels

section Exact

variable {K : Type} [Field K] [LinearOrder K] [ExactExp K]

/-- Every thread of the launch returns, and the launch computes the results of a reference. -/
def Computes (blocks threads rows : Nat)
    (kernel : Nat → Nat → DeviceM (AttentionWrites (Ext K) (Ext K))) (out : AttentionOut K K) :
    Prop :=
  ∃ writes, (∀ block < blocks, ∀ thread < threads, kernel block thread = .ok (writes block thread)) ∧
    LaunchComputes blocks threads rows writes (finArray out.output) (finArray out.lse)

theorem computes_of_rows {tokens : Nat → List (Token K (Fin 128))} {before out : AttentionOut K K}
    {rows threads : Nat} {kernel : Nat → Nat → DeviceM (AttentionWrites (Ext K) (Ext K))}
    (ht : warpThreads ≤ threads) (filled : Filled tokens before rows out)
    (run : ∀ row < rows, ∀ thread < threads, kernel row thread =
      .ok (if thread < warpThreads then resultWrites row (tokens row) thread else ⟨[], []⟩)) :
    Computes rows threads rows kernel out :=
  ⟨_, run, launchComputes_filled ht filled fun _ _ _ _ => rfl⟩

/-- Paged decode over 8 warps does what its reference does. -/
def PagedBatchDecodeMatches (K : Type) [Field K] [LinearOrder K] [ExactExp K]
    (spec : Bf16PagedBatchDecodeSpec) : Prop :=
  ∀ (query keyPages valuePages output lse : Slice K)
    (pageIndptr pageIndices lastPageLen : Slice Int32) (partialStates : Nat → Nat → Ext K)
    (table : Bf16PagedBatchDecodePageTable),
    query.len = spec.queryNumel → keyPages.len = spec.kvPagesNumel →
    valuePages.len = spec.kvPagesNumel → output.len = spec.outputNumel → lse.len = spec.lseNumel →
    spec.validatePageTable pageIndptr pageIndices lastPageLen = .ok table →
    (∀ state < spec.lseNumel, ∃ row, pagedBatchDecodeGuard spec.batchSize spec.maxNumPages
      spec.numQueryHeads pageIndptr pageIndices lastPageLen state = .ok (some row)) ∧
    ∃ out, pagedBatchDecodeBf16Reference (exactOps K) query keyPages valuePages pageIndptr
        pageIndices lastPageLen output lse spec = .ok out ∧
      Computes spec.lseNumel (pagedBatchDecodeWarpsPerBlock * warpThreads) spec.lseNumel
        (fun state => (extOps K).pagedBatchDecodeTokenParallel spec.batchSize spec.maxNumPages
          spec.numQueryHeads spec.numKvHeads (.fin (scaleLog2 K)) (finArray query.get)
          (finArray keyPages.get) (finArray valuePages.get) pageIndptr pageIndices lastPageLen
          (partialStates state) state) out

/-- Paged prefill over `warps` warps does what its reference does. -/
def PagedPrefillMatches (K : Type) [Field K] [LinearOrder K] [ExactExp K] (warps : Nat)
    (spec : Bf16PagedPrefillSpec) : Prop :=
  ∀ (query keyPages valuePages output lse : Slice K)
    (qoIndptr pageIndptr pageIndices lastPageLen : Slice Int32) (partialStates : Nat → Nat → Ext K)
    (metadata : Bf16PagedPrefillMetadata),
    query.len = spec.queryNumel → keyPages.len = spec.kvPagesNumel →
    valuePages.len = spec.kvPagesNumel → output.len = spec.outputNumel → lse.len = spec.lseNumel →
    spec.validateMetadata qoIndptr pageIndptr pageIndices lastPageLen = .ok metadata →
    (∀ state < spec.lseNumel, ∃ row, pagedPrefillGuard warps spec.batchSize spec.nnzQo
      spec.maxNumPages spec.numQueryHeads qoIndptr pageIndptr pageIndices lastPageLen state =
        .ok (some row)) ∧
    ∃ out, pagedPrefillBf16Reference (exactOps K) query keyPages valuePages qoIndptr pageIndptr
        pageIndices lastPageLen output lse spec = .ok out ∧
      Computes spec.lseNumel (warps * warpThreads) spec.lseNumel
        (fun state => (extOps K).pagedPrefillTokenParallel warps spec.batchSize spec.nnzQo
          spec.maxNumPages spec.numQueryHeads spec.numKvHeads (.fin (scaleLog2 K))
          (finArray query.get) (finArray keyPages.get) (finArray valuePages.get) qoIndptr pageIndptr
          pageIndices lastPageLen (partialStates state) state) out

/-- The split-K kernels do what their reference does: the partials kernel writes every element of the
workspace exactly once, and the merge kernel over it computes the results. -/
def SplitKMatches (K : Type) [Field K] [LinearOrder K] [ExactExp K]
    (spec : Bf16SingleDecodeSplitKSpec) : Prop :=
  ∀ (query key value workspace output lse : Slice K) (mergeStates : Nat → Nat → Ext K),
    query.len = spec.decode.queryNumel → key.len = spec.decode.kvNumel →
    value.len = spec.decode.kvNumel → workspace.len = spec.workspaceNumel →
    output.len = spec.decode.outputNumel → lse.len = spec.decode.lseNumel →
    ∃ partials out, singleDecodeBf16SplitKReference (exactOps K) query key value workspace output
        lse spec = .ok (partials, out) ∧
      ∃ states, (∀ state < spec.partialStateCount, ∀ lane < warpThreads,
        (extOps K).splitKPartials spec.decode.kvLen spec.decode.numQueryHeads
          spec.decode.numKvHeads spec.partitions (.fin (scaleLog2 K)) (finArray query.get)
          (finArray key.get) (finArray value.get) state lane = .ok (states state lane)) ∧
      (∀ a < spec.workspaceNumel, WrittenOnce spec.partialStateCount warpThreads states a) ∧
      ∀ order, order.Perm (gridWrites spec.partialStateCount warpThreads states) → ∀ before,
        Computes spec.decode.lseNumel (splitKMergeWarpsPerBlock * warpThreads) spec.decode.lseNumel
          (fun queryHead => (extOps K).splitKMerge spec.decode.numQueryHeads spec.partitions
            (applyWrites order before) (mergeStates queryHead) queryHead) out

variable [IsStrictOrderedRing K]

theorem pagedBatchDecode_matches (spec : Bf16PagedBatchDecodeSpec) :
    PagedBatchDecodeMatches K spec := by
  intro query keyPages valuePages output lse pageIndptr pageIndices lastPageLen partialStates table
    hq hk hv ho hl valid
  obtain ⟨wellFormed, -⟩ := spec.validatePageTable_eq_ok.mp valid
  obtain ⟨out, reference, filled⟩ :=
    pagedBatchDecodeBf16Reference_exact spec hq hk hv ho hl wellFormed
  exact ⟨fun state h => ⟨_, pagedBatchDecodeGuard_valid wellFormed h⟩, out, reference,
    computes_of_rows (by decide) filled fun state h thread _ =>
      pagedBatchDecodeTokenParallel_exact wellFormed _ _ _ _ h thread⟩

/-- Any positive number of warps will do. -/
theorem pagedPrefill_matches {warps : Nat} (hw : 0 < warps) (spec : Bf16PagedPrefillSpec) :
    PagedPrefillMatches K warps spec := by
  intro query keyPages valuePages output lse qoIndptr pageIndptr pageIndices lastPageLen
    partialStates metadata hq hk hv ho hl valid
  obtain ⟨wellFormed, -⟩ := spec.validateMetadata_eq_ok.mp valid
  obtain ⟨out, reference, filled⟩ := pagedPrefillBf16Reference_exact spec hq hk hv ho hl wellFormed
  refine ⟨fun state h => ?_, out, reference,
    computes_of_rows (Nat.le_mul_of_pos_left _ hw) filled fun state h thread _ =>
      pagedPrefillTokenParallel_exact hw wellFormed _ _ _ _ h thread⟩
  obtain ⟨request, ⟨hr, lo, hi⟩, -⟩ :=
    wellFormed.qo.existsUnique_request ((lt_rows_iff spec.queryHeads_pos).mpr h)
  exact ⟨_, pagedPrefillGuard_valid hw wellFormed hr lo hi⟩

theorem splitK_matches (spec : Bf16SingleDecodeSplitKSpec) : SplitKMatches K spec := by
  intro query key value workspace output lse mergeStates hq hk hv hw ho hl
  obtain ⟨partials, hpartials, done⟩ := splitKPartialsReference_exact spec hq hk hv hw
  have len : (⟨workspace.len, partials⟩ : Slice K).len = spec.workspaceNumel := hw
  obtain ⟨out, hout, filled⟩ := splitKMergeReference_exact spec len ho hl done fun state _ =>
    spec.stateTokens_ne_nil _ _ _ state
  obtain ⟨states, hstates⟩ := splitKPartials_exact spec query.get key.get value.get
  refine ⟨partials, out, ?_, fun state =>
    storeState (state * singleDecodePartialStateWidth) (states state),
    fun state h lane hlane => (hstates state h).2 lane hlane,
    fun a ha => storeStates_once (fun _ _ _ _ => rfl) ha, fun order perm before => ?_⟩
  · rw [singleDecodeBf16SplitKReference, hpartials, ok_bind, hout]
    rfl
  · refine computes_of_rows (by decide) filled fun head hh thread _ => ?_
    exact splitKMerge_exact spec _ hh
      (fun a ha => storeStates_final (fun _ _ _ _ => rfl) perm before ha)
      (fun state h => ⟨(hstates state h).1, spec.stateTokens_ne_nil _ _ _ state⟩) thread

/-- The kernels that split a row's tokens over warps do what the single-pass references do. -/
theorem tokenPartitioned_eq_reference :
    (∀ spec, PagedBatchDecodeMatches K spec) ∧
    (∀ warps, warps = 8 ∨ warps = 16 → ∀ spec, PagedPrefillMatches K warps spec) ∧
    ∀ spec, SplitKMatches K spec := by
  refine ⟨pagedBatchDecode_matches, ?_, splitK_matches⟩
  rintro warps (rfl | rfl) spec
  · exact pagedPrefill_matches (by decide) spec
  · exact pagedPrefill_matches (by decide) spec

end Exact

/-- One request of one query row and head, with one page that holds one token. -/
def oneTokenPrefillSpec : Bf16PagedPrefillSpec where
  batchSize := 1
  nnzQo := 1
  maxNumPages := 1
  numQueryHeads := 1
  numKvHeads := 1
  batch_pos := Nat.one_pos
  qo_pos := Nat.one_pos
  pages_pos := Nat.one_pos
  queryHeads_pos := Nat.one_pos
  kvHeads_pos := Nat.one_pos
  group := oneHead_divides
  qo_lt := oneRow_lt
  batch_fits := oneRequest_fits
  query_fits := oneRow_fits
  pages_fit := by decide

/-- One token for 8 and 16 warps, and two tokens in two partitions. -/
theorem tokenPartitioned_eq_reference_oneToken :
    (∃ out, pagedBatchDecodeBf16Reference (exactOps ℝ) ⟨128, fun i => i⟩ ⟨2048, fun i => i + 1⟩
        ⟨2048, fun i => 2 * i⟩ (.ofList [0, 1]) (.ofList [0]) (.ofList [1]) ⟨128, fun _ => 0⟩
        ⟨1, fun _ => 0⟩ onePageSpec = .ok out ∧
      Computes 1 (8 * warpThreads) 1
        (fun state => (extOps ℝ).pagedBatchDecodeTokenParallel 1 1 1 1 (.fin (scaleLog2 ℝ))
          (finArray fun i => i) (finArray fun i => i + 1) (finArray fun i => 2 * i) (.ofList [0, 1])
          (.ofList [0]) (.ofList [1]) (fun _ => .nan) state) out) ∧
    (∃ out, pagedPrefillBf16Reference (exactOps ℝ) ⟨128, fun i => i⟩ ⟨2048, fun i => i + 1⟩
        ⟨2048, fun i => 2 * i⟩ (.ofList [0, 1]) (.ofList [0, 1]) (.ofList [0]) (.ofList [1])
        ⟨128, fun _ => 0⟩ ⟨1, fun _ => 0⟩ oneTokenPrefillSpec = .ok out ∧
      Computes 1 (16 * warpThreads) 1
        (fun state => (extOps ℝ).pagedPrefillTokenParallel 16 1 1 1 1 1 (.fin (scaleLog2 ℝ))
          (finArray fun i => i) (finArray fun i => i + 1) (finArray fun i => 2 * i) (.ofList [0, 1])
          (.ofList [0, 1]) (.ofList [0]) (.ofList [1]) (fun _ => .nan) state) out) ∧
    ∃ partials out, singleDecodeBf16SplitKReference (exactOps ℝ) ⟨128, fun i => i⟩
        ⟨256, fun i => i + 1⟩ ⟨256, fun i => 2 * i⟩ ⟨260, fun _ => 7⟩ ⟨128, fun _ => 0⟩
        ⟨1, fun _ => 0⟩ twoPartitionSpec = .ok (partials, out) := by
  obtain ⟨decode, prefill, splitK⟩ := tokenPartitioned_eq_reference (K := ℝ)
  refine ⟨(decode onePageSpec ⟨128, fun i => i⟩ ⟨2048, fun i => i + 1⟩ ⟨2048, fun i => 2 * i⟩
      ⟨128, fun _ => 0⟩ ⟨1, fun _ => 0⟩ _ _ _ (fun _ _ => .nan) _ rfl rfl rfl rfl rfl
      (onePageSpec.validatePageTable_ok onePage_wellFormed)).2,
    (prefill 16 (Or.inr rfl) oneTokenPrefillSpec ⟨128, fun i => i⟩ ⟨2048, fun i => i + 1⟩
      ⟨2048, fun i => 2 * i⟩ ⟨128, fun _ => 0⟩ ⟨1, fun _ => 0⟩ _ _ _ _ (fun _ _ => .nan) _ rfl rfl
      rfl rfl rfl (oneTokenPrefillSpec.validateMetadata_ok
        (oneTokenPrefillSpec.checkMetadata_eq_ok.mp rfl))).2, ?_⟩
  obtain ⟨partials, out, run, -⟩ := splitK twoPartitionSpec ⟨128, fun i => i⟩ ⟨256, fun i => i + 1⟩
    ⟨256, fun i => 2 * i⟩ ⟨260, fun _ => 7⟩ ⟨128, fun _ => 0⟩ ⟨1, fun _ => 0⟩ (fun _ _ => .nan) rfl
    rfl rfl rfl rfl rfl
  exact ⟨partials, out, run⟩

end LoomKernels
