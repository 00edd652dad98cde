import LoomKernels.Word.Lookups
import LoomKernels.Word.RmsNorm
import LoomKernels.Word.SplitK

/-!
# References that return an error

A reference that returns an error has changed none of the buffers it writes: its checks all come
before its first write, also in the append references, which run the rotary reference after their
own checks. The one exception is the split-K reference. Its second stage checks the output and the
log-sum-exp after its first stage has written the workspace, so it is atomic exactly on the lengths
where no second stage fails after a first one has succeeded (`splitKReference_atomic_iff`).
-/

namespace LoomKernels.Word

/-- The function returns `Err`. -/
def ReturnsErr (e : Halt HostFailure) : Prop := ∃ error, e = .failed (.contract error)

theorem returnsErr_iff {e : Halt HostFailure} : ReturnsErr e ↔ isDefect e = false := by
  rcases e with fault | error | message
  · exact ⟨nofun, nofun⟩
  · exact ⟨fun _ => rfl, fun _ => ⟨error, rfl⟩⟩
  · exact ⟨nofun, nofun⟩

theorem panics_not_returnsErr {e : Halt HostFailure} (h : Panics e) : ¬ ReturnsErr e := by
  obtain ⟨message, rfl⟩ := h
  exact nofun

/-- A program that ends well from every memory. -/
theorem atomic_of_succeeds {σ α : Type} {x : Program HostFailure σ α} (h : Succeeds x) :
    Atomic ReturnsErr x :=
  h.atomic fun _ impossible => impossible.elim

section References

variable {F B : Type} (ops : FloatOps F B) {w : Nat}

/-! ## References that check first -/

theorem singleDecodeBf16Reference_atomic (query key value : Slice B) (outputLen lseLen : Nat)
    (spec : Bf16SingleDecodeSpec w) :
    Atomic ReturnsErr (singleDecodeBf16Reference ops query key value outputLen lseLen spec) :=
  atomic_of_check rfl fun _ accepted => atomic_of_succeeds fun before =>
    (singleDecodeBf16Reference_ends ops spec accepted before).mono (fun _ _ _ => trivial)
      fun _ _ h => h

theorem singleDecodeBf16SplitKPartialsReference_atomic (query key value : Slice B)
    (workspaceLen : Nat) (spec : Bf16SingleDecodeSplitKSpec w) :
    Atomic ReturnsErr
      (singleDecodeBf16SplitKPartialsReference ops query key value workspaceLen spec) :=
  atomic_of_check rfl fun _ accepted => atomic_of_succeeds fun before =>
    (singleDecodeBf16SplitKPartialsReference_ends ops accepted before).mono (fun _ _ _ => trivial)
      fun _ _ h => h

theorem singleDecodeBf16SplitKMergeReference_atomic (workspace : Slice F) (outputLen lseLen : Nat)
    (spec : Bf16SingleDecodeSplitKSpec w) :
    Atomic ReturnsErr
      (singleDecodeBf16SplitKMergeReference (B := B) ops workspace outputLen lseLen spec) :=
  atomic_of_check rfl fun _ accepted => atomic_of_succeeds fun before =>
    (singleDecodeBf16SplitKMergeReference_ends ops accepted before).mono (fun _ _ _ => trivial)
      fun _ _ h => h

theorem pagedBatchDecodeBf16Reference_atomic (query keyPages valuePages : Slice B)
    (pageIndptr pageIndices lastPageLen : Slice Int32) (outputLen lseLen : Nat)
    (spec : Bf16PagedBatchDecodeSpec w) :
    Atomic ReturnsErr (pagedBatchDecodeBf16Reference ops query keyPages valuePages pageIndptr
      pageIndices lastPageLen outputLen lseLen spec) :=
  atomic_of_check rfl fun _ accepted before =>
    (pagedBatchDecodeBf16Reference_ends ops spec accepted before).mono (fun _ _ _ => trivial)
      fun _ _ failed returned => absurd returned (panics_not_returnsErr failed.1)

theorem raggedPrefillBf16Reference_atomic (query key value : Slice B)
    (qoIndptr kvIndptr : Slice Int32) (outputLen lseLen : Nat) (spec : Bf16RaggedPrefillSpec w) :
    Atomic ReturnsErr
      (raggedPrefillBf16Reference ops query key value qoIndptr kvIndptr outputLen lseLen spec) :=
  atomic_of_check rfl fun _ accepted => atomic_of_succeeds fun before =>
    (raggedPrefillBf16Reference_ends ops spec accepted before).mono (fun _ _ _ => trivial)
      fun _ _ h => h

theorem pagedPrefillBf16Reference_atomic (query keyPages valuePages : Slice B)
    (qoIndptr pageIndptr pageIndices lastPageLen : Slice Int32) (outputLen lseLen : Nat)
    (spec : Bf16PagedPrefillSpec w) :
    Atomic ReturnsErr (pagedPrefillBf16Reference ops query keyPages valuePages qoIndptr pageIndptr
      pageIndices lastPageLen outputLen lseLen spec) :=
  atomic_of_check rfl fun _ accepted => atomic_of_succeeds fun before =>
    (pagedPrefillBf16Reference_ends ops spec accepted before).mono (fun _ _ _ => trivial)
      fun _ _ h => h

theorem ropePosIdsBf16Reference_atomic (rot : Rotation B) (query key : Slice B)
    (positionIds : Slice Int32) (queryOutputLen keyOutputLen : Nat) (spec : Bf16RopePosIdsSpec w) :
    Atomic ReturnsErr
      (ropePosIdsBf16Reference rot query key positionIds queryOutputLen keyOutputLen spec) :=
  atomic_of_check rfl fun _ accepted =>
    atomic_of_succeeds (ropePosIdsBf16Reference_succeeds rot accepted)

theorem ropePagedKvAppendBf16Reference_atomic (rot : Rotation B) (nan : B)
    (query key value : Slice B) (pageIndptr pageIndices lastPageLen : Slice Int32)
    (queryOutputLen keyPagesLen valuePagesLen : Nat) (spec : Bf16RopePagedKvAppendSpec w) :
    Atomic ReturnsErr (ropePagedKvAppendBf16Reference rot nan query key value pageIndptr pageIndices
      lastPageLen queryOutputLen keyPagesLen valuePagesLen spec) :=
  atomic_of_check rfl fun _ accepted =>
    atomic_of_succeeds (ropePagedKvAppendBf16Reference_succeeds rot nan accepted)

theorem ropePagedKvAppendTokensBf16Reference_atomic (rot : Rotation B) (nan : B)
    (query key value : Slice B)
    (batchIndices positions pageIndptr pageIndices lastPageLen : Slice Int32)
    (queryOutputLen keyPagesLen valuePagesLen : Nat) (spec : Bf16RopePagedKvAppendTokensSpec w) :
    Atomic ReturnsErr (ropePagedKvAppendTokensBf16Reference rot nan query key value batchIndices
      positions pageIndptr pageIndices lastPageLen queryOutputLen keyPagesLen valuePagesLen spec) :=
  atomic_of_check rfl fun _ accepted =>
    atomic_of_succeeds (ropePagedKvAppendTokensBf16Reference_succeeds rot nan accepted)

theorem rmsNormReference_atomic (ofF32 : UInt32 → F) (input weight : Slice B) (outputLen : Nat)
    (spec : RmsNormSpec w) (expectedDType : DType) :
    Atomic ReturnsErr (rmsNormReference ops ofF32 input weight outputLen spec expectedDType) := by
  refine atomic_of_check rfl fun _ accepted => atomic_of_succeeds ?_
  rw [rmsNormReference, accepted, compute_ok, pure_bind]
  exact haltsOnly_forEach fun _ _ _ => haltsOnly_modify _

/-! ## The split-K reference -/

/-- The lengths that the first stage accepts. -/
def PartialsAccept (spec : Bf16SingleDecodeSplitKSpec w)
    (queryLen keyLen valueLen workspaceLen : Nat) : Prop :=
  queryLen = spec.decode.numQueryHeads * singleDecodeHeadDim ∧
    keyLen = spec.decode.kvLen * spec.decode.numKvHeads * singleDecodeHeadDim ∧
    valueLen = spec.decode.kvLen * spec.decode.numKvHeads * singleDecodeHeadDim ∧
    workspaceLen = spec.decode.numQueryHeads * spec.partitions * singleDecodePartialStateWidth

/-- The lengths that the second stage accepts beside that of the workspace. -/
def OutputsAccept (spec : Bf16SingleDecodeSplitKSpec w) (outputLen lseLen : Nat) : Prop :=
  outputLen = spec.decode.numQueryHeads * singleDecodeHeadDim ∧ lseLen = spec.decode.numQueryHeads

/-- The locals agree on the maximum and the normalizer. -/
def SameScalars (row row' : PartialLocals F) : Prop :=
  row.maxScoreLog2 = row'.maxScoreLog2 ∧ row.normalizer = row'.normalizer

/-- The normalizer of a partition does not depend on what the workspace held before. -/
theorem partialRow_normalizer (spec : Bf16SingleDecodeSplitKSpec w) (query key value : Nat → B)
    (queryHead part : Nat) (workspace workspace' : Nat → F) :
    (partialRow ops spec query key value queryHead part workspace).normalizer =
      (partialRow ops spec query key value queryHead part workspace').normalizer := by
  have le := balancedCut_mono spec.decode.kvLen spec.partitions part
  obtain ⟨tokens, stop⟩ := Nat.exists_eq_add_of_le le
  rw [partialRow, partialRow, FloatOps.partialLoop, FloatOps.partialLoop, stop]
  -- the two scalars of a partition are computed without reading the weighted values
  have start : SameScalars ⟨ops.zero, ops.zero, workspace⟩ ⟨ops.zero, ops.zero, workspace'⟩ :=
    ⟨rfl, rfl⟩
  refine (forRange_lockstep start ?_).2
  rintro i _ ⟨max, norm, w⟩ ⟨_, _, w'⟩ ⟨rfl, rfl⟩
  simp only [FloatOps.partialStep, FloatOps.softmaxStep, PartialLocals.state]
  split
  · exact ⟨rfl, rfl⟩
  · exact ⟨rfl, rfl⟩

/-- The last state that the first stage writes is complete, whatever the workspace held before. -/
theorem partialsWorkspace_last (spec : Bf16SingleDecodeSplitKSpec w) (query key value : Nat → B) :
    ∃ i normalizer, ∀ workspace : Nat → F,
      partialsWorkspace ops spec query key value workspace i = normalizer := by
  obtain ⟨head, heads⟩ := Nat.exists_eq_succ_of_ne_zero spec.decode.queryHeads_pos.ne'
  obtain ⟨part, parts⟩ := Nat.exists_eq_succ_of_ne_zero spec.partitions_pos.ne'
  refine ⟨(head * spec.partitions + part) * singleDecodePartialStateWidth + 1,
    (partialRow ops spec query key value head part fun _ => ops.zero).normalizer, fun before => ?_⟩
  rw [partialsWorkspace, heads, forRange_succ (Nat.zero_le _), parts, forRange_succ (Nat.zero_le _),
    ← parts, partialWrite]
  exact (Function.update_self _ _ _).trans (partialRow_normalizer ops spec query key value _ _ _ _)

/-- When only the second stage rejects its arguments, the first one has written the workspace. -/
theorem splitKReference_fails {spec : Bf16SingleDecodeSplitKSpec w} {query key value : Slice B}
    {workspaceLen outputLen lseLen : Nat}
    (partials : checkPartials query key value workspaceLen spec = .ok ())
    (rejected : ¬ OutputsAccept spec outputLen lseLen) (before : SplitKBuffers F B) :
    Ends (singleDecodeBf16SplitKReference ops query key value workspaceLen outputLen lseLen spec)
      before (fun _ _ => False) (fun e after => ReturnsErr e ∧
        after.workspace = partialsWorkspace ops spec query.get key.get value.get before.workspace) := by
  have avoids : Avoids isDefect (checkMerge workspaceLen outputLen lseLen spec) := by
    rw [checkMerge, spec.workspaceNumel_ok, spec.decode.outputNumel_ok]
    exact (avoids_requireLen _ _ _).bind fun _ => (avoids_requireLen _ _ _).bind fun _ =>
      avoids_requireLen _ _ _
  refine singleDecodeBf16SplitKReference_ends ops partials rfl ?_
  cases merge : checkMerge workspaceLen outputLen lseLen spec with
  | ok => exact absurd (checkMerge_eq_ok.mp merge).2 rejected
  | error e =>
    rw [singleDecodeBf16SplitKMergeReference, merge]
    exact ⟨returnsErr_iff.mpr (avoids e merge), rfl⟩

/-- The split-K reference is atomic exactly on the lengths where the second stage accepts whatever
the first one does. -/
theorem splitKReference_atomic_iff [Nontrivial F] [Nonempty B] (spec : Bf16SingleDecodeSplitKSpec w)
    (queryLen keyLen valueLen workspaceLen outputLen lseLen : Nat) :
    (∀ query key value : Nat → B, Atomic ReturnsErr
      (singleDecodeBf16SplitKReference ops ⟨queryLen, query⟩ ⟨keyLen, key⟩ ⟨valueLen, value⟩
        workspaceLen outputLen lseLen spec)) ↔
      (PartialsAccept spec queryLen keyLen valueLen workspaceLen →
        OutputsAccept spec outputLen lseLen) := by
  constructor
  · intro atomic lengths
    by_contra rejected
    obtain ⟨b⟩ := ‹Nonempty B›
    have partials : checkPartials ⟨queryLen, fun _ => b⟩ ⟨keyLen, fun _ => b⟩
        ⟨valueLen, fun _ => b⟩ workspaceLen spec = .ok () := checkPartials_eq_ok.mpr lengths
    obtain ⟨i, normalizer, last⟩ := partialsWorkspace_last ops spec (fun _ => b) (fun _ => b)
      (fun _ => b)
    obtain ⟨other, different⟩ := exists_ne normalizer
    -- a workspace that does not already hold the normalizer
    have fails := splitKReference_fails ops partials rejected
      ⟨fun _ => other, fun _ => b, fun _ => other⟩
    refine not_ends_false ((fails.and (atomic _ _ _ _)).mono (fun _ _ h => h.1) ?_)
    rintro _ after ⟨⟨returned, changed⟩, kept⟩
    have written := (congrFun changed i).trans (last _)
    rw [kept returned] at written
    exact different written
  · intro accepts query key value
    cases partials : checkPartials ⟨queryLen, query⟩ ⟨keyLen, key⟩ ⟨valueLen, value⟩ workspaceLen
      spec with
    | ok =>
      have lengths := checkPartials_eq_ok.mp partials
      have merge := checkMerge_eq_ok.mpr ⟨lengths.2.2.2, accepts lengths⟩
      exact atomic_of_succeeds fun before => singleDecodeBf16SplitKReference_ends ops partials rfl
        ((singleDecodeBf16SplitKMergeReference_ends ops merge before.out).mono
          (fun _ _ _ => trivial) fun _ _ h => h)
    | error e =>
      rw [singleDecodeBf16SplitKReference, singleDecodeBf16SplitKPartialsReference, partials]
      exact fun _ _ => rfl

/-! ## All references -/

/-- Every reference but the split-K one is atomic on error, on all arguments. -/
structure AtomicReferences (ofF32 : UInt32 → F) (rot : Rotation B) (nan : B) (w : Nat) : Prop where
  singleDecode : ∀ (query key value : Slice B) (outputLen lseLen : Nat)
    (spec : Bf16SingleDecodeSpec w),
    Atomic ReturnsErr (singleDecodeBf16Reference ops query key value outputLen lseLen spec)
  splitKPartials : ∀ (query key value : Slice B) (workspaceLen : Nat)
    (spec : Bf16SingleDecodeSplitKSpec w), Atomic ReturnsErr
      (singleDecodeBf16SplitKPartialsReference ops query key value workspaceLen spec)
  splitKMerge : ∀ (workspace : Slice F) (outputLen lseLen : Nat)
    (spec : Bf16SingleDecodeSplitKSpec w), Atomic ReturnsErr
      (singleDecodeBf16SplitKMergeReference (B := B) ops workspace outputLen lseLen spec)
  pagedDecode : ∀ (query keyPages valuePages : Slice B)
    (pageIndptr pageIndices lastPageLen : Slice Int32) (outputLen lseLen : Nat)
    (spec : Bf16PagedBatchDecodeSpec w), Atomic ReturnsErr
      (pagedBatchDecodeBf16Reference ops query keyPages valuePages pageIndptr pageIndices lastPageLen
        outputLen lseLen spec)
  raggedPrefill : ∀ (query key value : Slice B) (qoIndptr kvIndptr : Slice Int32)
    (outputLen lseLen : Nat) (spec : Bf16RaggedPrefillSpec w), Atomic ReturnsErr
      (raggedPrefillBf16Reference ops query key value qoIndptr kvIndptr outputLen lseLen spec)
  pagedPrefill : ∀ (query keyPages valuePages : Slice B)
    (qoIndptr pageIndptr pageIndices lastPageLen : Slice Int32) (outputLen lseLen : Nat)
    (spec : Bf16PagedPrefillSpec w), Atomic ReturnsErr
      (pagedPrefillBf16Reference ops query keyPages valuePages qoIndptr pageIndptr pageIndices
        lastPageLen outputLen lseLen spec)
  rope : ∀ (query key : Slice B) (positionIds : Slice Int32) (queryOutputLen keyOutputLen : Nat)
    (spec : Bf16RopePosIdsSpec w), Atomic ReturnsErr
      (ropePosIdsBf16Reference rot query key positionIds queryOutputLen keyOutputLen spec)
  append : ∀ (query key value : Slice B) (pageIndptr pageIndices lastPageLen : Slice Int32)
    (queryOutputLen keyPagesLen valuePagesLen : Nat) (spec : Bf16RopePagedKvAppendSpec w),
    Atomic ReturnsErr (ropePagedKvAppendBf16Reference rot nan query key value pageIndptr pageIndices
      lastPageLen queryOutputLen keyPagesLen valuePagesLen spec)
  appendTokens : ∀ (query key value : Slice B)
    (batchIndices positions pageIndptr pageIndices lastPageLen : Slice Int32)
    (queryOutputLen keyPagesLen valuePagesLen : Nat) (spec : Bf16RopePagedKvAppendTokensSpec w),
    Atomic ReturnsErr (ropePagedKvAppendTokensBf16Reference rot nan query key value batchIndices
      positions pageIndptr pageIndices lastPageLen queryOutputLen keyPagesLen valuePagesLen spec)
  rmsNorm : ∀ (input weight : Slice B) (outputLen : Nat) (spec : RmsNormSpec w),
    Atomic ReturnsErr (rmsNormF32Reference ops ofF32 input weight outputLen spec) ∧
    Atomic ReturnsErr (rmsNormF16Reference ops ofF32 input weight outputLen spec) ∧
    Atomic ReturnsErr (rmsNormBf16Reference ops ofF32 input weight outputLen spec)

theorem atomicReferences (ofF32 : UInt32 → F) (rot : Rotation B) (nan : B) (w : Nat) :
    AtomicReferences ops ofF32 rot nan w where
  singleDecode := singleDecodeBf16Reference_atomic ops
  splitKPartials := singleDecodeBf16SplitKPartialsReference_atomic ops
  splitKMerge := singleDecodeBf16SplitKMergeReference_atomic ops
  pagedDecode := pagedBatchDecodeBf16Reference_atomic ops
  raggedPrefill := raggedPrefillBf16Reference_atomic ops
  pagedPrefill := pagedPrefillBf16Reference_atomic ops
  rope := ropePosIdsBf16Reference_atomic rot
  append := ropePagedKvAppendBf16Reference_atomic rot nan
  appendTokens := ropePagedKvAppendTokensBf16Reference_atomic rot nan
  rmsNorm input weight outputLen spec :=
    ⟨rmsNormReference_atomic ops ofF32 input weight outputLen spec .f32,
      rmsNormReference_atomic ops ofF32 input weight outputLen spec .f16,
      rmsNormReference_atomic ops ofF32 input weight outputLen spec .bf16⟩

/-- A reference that returns an error has changed nothing. For the split-K reference this holds
exactly when the output and the log-sum-exp have their lengths wherever the other arguments do. -/
theorem references_atomic_iff [Nontrivial F] (ofF32 : UInt32 → F) (rot : Rotation B) (nan : B)
    (w : Nat) :
    AtomicReferences ops ofF32 rot nan w ∧
    ∀ (spec : Bf16SingleDecodeSplitKSpec w)
      (queryLen keyLen valueLen workspaceLen outputLen lseLen : Nat),
      (∀ query key value : Nat → B, Atomic ReturnsErr
        (singleDecodeBf16SplitKReference ops ⟨queryLen, query⟩ ⟨keyLen, key⟩ ⟨valueLen, value⟩
          workspaceLen outputLen lseLen spec)) ↔
        (PartialsAccept spec queryLen keyLen valueLen workspaceLen →
          OutputsAccept spec outputLen lseLen) := by
  have : Nonempty B := ⟨nan⟩
  exact ⟨atomicReferences ops ofF32 rot nan w, splitKReference_atomic_iff ops⟩

end References

/-! ## Tokens in partitions -/

theorem oneToken_row_fits : 1 * singleDecodeHeadDim < 2 ^ 64 := by decide

theorem oneToken_kv_fits : 1 * (1 * singleDecodeHeadDim) < 2 ^ 64 := by decide

theorem oneToken_workspace_fits : 1 * 1 * singleDecodePartialStateWidth * 4 < 2 ^ 64 := by decide

/-- One token, one head and one partition. -/
def oneTokenSplitKSpec : Bf16SingleDecodeSplitKSpec 64 where
  decode := {
    kvLen := 1
    numQueryHeads := 1
    numKvHeads := 1
    kvLen_pos := Nat.one_pos
    queryHeads_pos := Nat.one_pos
    kvHeads_pos := Nat.one_pos
    group := oneHead_divides
    query_fits := oneToken_row_fits
    token_fits := oneToken_row_fits
    kv_fits := oneToken_kv_fits }
  partitions := 1
  partitions_pos := Nat.one_pos
  partitions_le := le_refl 1
  workspace_fits := oneToken_workspace_fits

theorem twoTokens_kv_fits : 2 * (1 * singleDecodeHeadDim) < 2 ^ 64 := by decide

theorem twoPartitions_workspace_fits : 1 * 2 * singleDecodePartialStateWidth * 4 < 2 ^ 64 := by
  decide

/-- Two tokens in two partitions. -/
def twoTokenSplitKSpec : Bf16SingleDecodeSplitKSpec 64 where
  decode := {
    kvLen := 2
    numQueryHeads := 1
    numKvHeads := 1
    kvLen_pos := Nat.two_pos
    queryHeads_pos := Nat.one_pos
    kvHeads_pos := Nat.one_pos
    group := oneHead_divides
    query_fits := oneToken_row_fits
    token_fits := oneToken_row_fits
    kv_fits := twoTokens_kv_fits }
  partitions := 2
  partitions_pos := Nat.two_pos
  partitions_le := le_refl 2
  workspace_fits := twoPartitions_workspace_fits

/-- With an output of 128 elements every error leaves the buffers as they were, with one of 127 not. -/
theorem references_atomic_iff_twoTokens :
    (∀ query key value : Nat → ℝ,
      Atomic ReturnsErr (singleDecodeBf16SplitKReference (exactOps ℝ) ⟨128, query⟩ ⟨256, key⟩
        ⟨256, value⟩ 260 128 1 twoTokenSplitKSpec)) ∧
    ¬ ∀ query key value : Nat → ℝ,
      Atomic ReturnsErr (singleDecodeBf16SplitKReference (exactOps ℝ) ⟨128, query⟩ ⟨256, key⟩
        ⟨256, value⟩ 260 127 1 twoTokenSplitKSpec) := by
  have iff := references_atomic_iff (exactOps ℝ) (fun _ => (1 : ℝ))
    (fun _ _ _ _ _ x y => ((x, y) : ℝ × ℝ)) (0 : ℝ) 64
  rw [iff.2 twoTokenSplitKSpec 128 256 256 260 128 1, iff.2 twoTokenSplitKSpec 128 256 256 260 127 1]
  refine ⟨fun _ => ⟨rfl, rfl⟩, fun implies => ?_⟩
  exact absurd (implies ⟨rfl, rfl, rfl, rfl⟩).1 (by decide)

/-- The buffers before the call, all zero. -/
def zeroBuffers : SplitKBuffers ℝ ℝ := ⟨fun _ => 0, fun _ => 0, fun _ => 0⟩

theorem oneToken_normalizer :
    partialsWorkspace (exactOps ℝ) oneTokenSplitKSpec (⟨128, fun _ => 1⟩ : Slice ℝ).get
      (⟨128, fun _ => 1⟩ : Slice ℝ).get (⟨128, fun _ => 1⟩ : Slice ℝ).get zeroBuffers.workspace 1 =
      1 := rfl

theorem zeroBuffers_workspace : zeroBuffers.workspace 1 = 0 := rfl

theorem oneToken_partials :
    checkPartials (⟨128, fun _ => 1⟩ : Slice ℝ) ⟨128, fun _ => 1⟩ ⟨128, fun _ => 1⟩ 130
      oneTokenSplitKSpec = .ok () :=
  checkPartials_eq_ok.mpr ⟨rfl, rfl, rfl, rfl⟩

theorem emptyOutput_rejected : ¬ OutputsAccept oneTokenSplitKSpec 0 1 := fun accepts =>
  absurd accepts.1 (by decide)

/-- With an empty output, the reference returns an error and leaves a one in the workspace. -/
theorem splitKReference_not_atomic : ¬ Atomic ReturnsErr
    (singleDecodeBf16SplitKReference (exactOps ℝ) ⟨128, fun _ => 1⟩ ⟨128, fun _ => 1⟩
      ⟨128, fun _ => 1⟩ 130 0 1 oneTokenSplitKSpec) := by
  intro atomic
  have fails := splitKReference_fails (exactOps ℝ) oneToken_partials emptyOutput_rejected zeroBuffers
  refine not_ends_false ((fails.and (atomic zeroBuffers)).mono (fun _ _ h => h.1) ?_)
  rintro _ after ⟨⟨returned, changed⟩, kept⟩
  rw [kept returned] at changed
  have written := (congrFun changed 1).trans oneToken_normalizer
  rw [zeroBuffers_workspace] at written
  exact zero_ne_one written

end LoomKernels.Word
