import LoomKernels.Word.Append
import LoomKernels.Word.SplitK

/-!
# Accepted contracts cannot overflow

For every word size, and every attention contract that its constructor accepts: each accessor has
the value that exact arithmetic gives, and the matching reference, on arguments that pass its
checks, has no defect, so every index it computes is a word and lies inside its buffer
(`accepted_specs_cannot_overflow`). A constructor checks only some of the products; the others are
below them, because every factor is positive and there are no more key/value heads than query heads.
-/

namespace LoomKernels.Word

/-- From every memory, the program ends without a defect. -/
abbrev FaultFree {σ α : Type} (x : Program HostFailure σ α) : Prop :=
  HaltsOnly (fun e => e.isFault = false) x

theorem faultFree_of_succeeds {σ α : Type} {x : Program HostFailure σ α} (h : Succeeds x) :
    FaultFree x :=
  h.mono fun _ impossible => impossible.elim

section Contracts

variable {w : Nat}

/-- The accessors and the reference of a decode contract. -/
structure SingleDecodeExact (spec : Bf16SingleDecodeSpec w) : Prop where
  gqaGroupSize : spec.gqaGroupSize = .ok (spec.numQueryHeads / spec.numKvHeads)
  queryNumel : spec.queryNumel = .ok (spec.numQueryHeads * singleDecodeHeadDim)
  kvNumel : spec.kvNumel = .ok (spec.kvLen * spec.numKvHeads * singleDecodeHeadDim)
  outputNumel : spec.outputNumel = .ok (spec.numQueryHeads * singleDecodeHeadDim)
  kvHead : ∀ queryHead, spec.kvHeadForQueryHead queryHead =
    .ok (if queryHead < spec.numQueryHeads then
      some (queryHead / (spec.numQueryHeads / spec.numKvHeads)) else none)
  reference : ∀ {F B : Type} (ops : FloatOps F B) (query key value : Slice B)
    (outputLen lseLen : Nat),
    requireBuffers "K" "V" query key value outputLen lseLen spec.queryNumel spec.kvNumel
      spec.outputNumel (.ok spec.lseNumel) = .ok () →
    FaultFree (singleDecodeBf16Reference ops query key value outputLen lseLen spec)

theorem singleDecode_exact (spec : Bf16SingleDecodeSpec w) : SingleDecodeExact spec where
  gqaGroupSize := spec.gqaGroupSize_ok
  queryNumel := spec.queryNumel_ok
  kvNumel := spec.kvNumel_ok
  outputNumel := spec.outputNumel_ok
  kvHead := kvHeadForQueryHead_ok spec.queryHeads_pos spec.group spec.kvHeads_pos
  reference ops _ _ _ _ _ accepted before :=
    (singleDecodeBf16Reference_ends ops spec accepted before).mono (fun _ _ _ => trivial)
      fun _ _ h => h

/-- The accessors and the references of a split-K contract. -/
structure SplitKExact (spec : Bf16SingleDecodeSplitKSpec w) : Prop where
  partialStateCount : spec.partialStateCount = .ok (spec.decode.numQueryHeads * spec.partitions)
  workspaceNumel : spec.workspaceNumel =
    .ok (spec.decode.numQueryHeads * spec.partitions * singleDecodePartialStateWidth)
  workspaceBytes : spec.workspaceBytes =
    .ok (spec.decode.numQueryHeads * spec.partitions * singleDecodePartialStateWidth * 4)
  partitionTokenRange : ∀ part, spec.partitionTokenRange part =
    .ok (if part < spec.partitions then
      some (balancedCut spec.decode.kvLen spec.partitions part,
        balancedCut spec.decode.kvLen spec.partitions (part + 1)) else none)
  partialStateOffset : ∀ queryHead part, spec.partialStateOffset queryHead part =
    .ok (if queryHead < spec.decode.numQueryHeads ∧ part < spec.partitions then
      some ((queryHead * spec.partitions + part) * singleDecodePartialStateWidth) else none)
  partials : ∀ {F B : Type} (ops : FloatOps F B) (query key value : Slice B) (workspaceLen : Nat),
    checkPartials query key value workspaceLen spec = .ok () →
    FaultFree (singleDecodeBf16SplitKPartialsReference ops query key value workspaceLen spec)
  merge : ∀ {F B : Type} (ops : FloatOps F B) (workspace : Slice F) (outputLen lseLen : Nat),
    checkMerge workspace.len outputLen lseLen spec = .ok () →
    FaultFree (singleDecodeBf16SplitKMergeReference ops workspace outputLen lseLen spec)
  reference : ∀ {F B : Type} (ops : FloatOps F B) (query key value : Slice B)
    (workspaceLen outputLen lseLen : Nat),
    checkPartials query key value workspaceLen spec = .ok () →
    checkMerge workspaceLen outputLen lseLen spec = .ok () →
    FaultFree
      (singleDecodeBf16SplitKReference ops query key value workspaceLen outputLen lseLen spec)

theorem splitK_exact (spec : Bf16SingleDecodeSplitKSpec w) : SplitKExact spec where
  partialStateCount := spec.partialStateCount_ok
  workspaceNumel := spec.workspaceNumel_ok
  workspaceBytes := spec.workspaceBytes_ok
  partitionTokenRange := spec.partitionTokenRange_ok
  partialStateOffset := spec.partialStateOffset_ok
  partials ops _ _ _ _ accepted before :=
    (singleDecodeBf16SplitKPartialsReference_ends ops accepted before).mono
      (fun _ _ _ => trivial) fun _ _ h => h
  merge ops _ _ _ accepted before :=
    (singleDecodeBf16SplitKMergeReference_ends ops accepted before).mono
      (fun _ _ _ => trivial) fun _ _ h => h
  reference ops _ _ _ _ _ _ partials merge before :=
    singleDecodeBf16SplitKReference_ends ops partials rfl
      ((singleDecodeBf16SplitKMergeReference_ends ops merge before.out).mono
        (fun _ _ _ => trivial) fun _ _ h => h)

/-- The accessors and the reference of a paged decode contract. -/
structure PagedDecodeExact (spec : Bf16PagedBatchDecodeSpec w) : Prop where
  queryNumel : spec.queryNumel = .ok (spec.batchSize * spec.numQueryHeads * singleDecodeHeadDim)
  kvPagesNumel : spec.kvPagesNumel =
    .ok (spec.maxNumPages * pagedBatchDecodePageSize * spec.numKvHeads * singleDecodeHeadDim)
  outputNumel : spec.outputNumel = .ok (spec.batchSize * spec.numQueryHeads * singleDecodeHeadDim)
  lseNumel : spec.lseNumel = .ok (spec.batchSize * spec.numQueryHeads)
  pageIndptrNumel : spec.pageIndptrNumel = .ok (spec.batchSize + 1)
  kvHead : ∀ queryHead, spec.kvHeadForQueryHead queryHead =
    .ok (if queryHead < spec.numQueryHeads then
      some (queryHead / (spec.numQueryHeads / spec.numKvHeads)) else none)
  reference : ∀ {F B : Type} (ops : FloatOps F B) (query keyPages valuePages : Slice B)
    (pageIndptr pageIndices lastPageLen : Slice Int32) (outputLen lseLen : Nat) (table : PageTable w),
    checkDecode query keyPages valuePages pageIndptr pageIndices lastPageLen outputLen lseLen spec =
      .ok table →
    FaultFree (pagedBatchDecodeBf16Reference ops query keyPages valuePages pageIndptr pageIndices
      lastPageLen outputLen lseLen spec)

theorem pagedDecode_exact (spec : Bf16PagedBatchDecodeSpec w) : PagedDecodeExact spec where
  queryNumel := spec.queryNumel_ok
  kvPagesNumel := spec.kvPagesNumel_ok
  outputNumel := spec.queryNumel_ok
  lseNumel := spec.lseNumel_ok
  pageIndptrNumel := spec.pageIndptrNumel_ok
  kvHead := kvHeadForQueryHead_ok spec.queryHeads_pos spec.group spec.kvHeads_pos
  reference ops _ _ _ _ _ _ _ _ _ accepted before := by
    refine (pagedBatchDecodeBf16Reference_ends ops spec accepted before).mono
      (fun _ _ _ => trivial) ?_
    rintro _ _ ⟨⟨message, rfl⟩, -⟩
    rfl

/-- The accessors and the reference of a single-token append contract. -/
structure AppendExact (spec : Bf16RopePagedKvAppendSpec w) : Prop where
  paged : PagedDecodeExact spec.paged
  keyNumel : spec.keyNumel =
    .ok (spec.paged.batchSize * spec.paged.numKvHeads * singleDecodeHeadDim)
  reference : ∀ {B : Type} (rot : Rotation B) (nan : B) (query key value : Slice B)
    (pageIndptr pageIndices lastPageLen : Slice Int32)
    (queryOutputLen keyPagesLen valuePagesLen : Nat) (checked : PageTable w × List Int32),
    checkAppend query key value pageIndptr pageIndices lastPageLen queryOutputLen keyPagesLen
      valuePagesLen spec = .ok checked →
    FaultFree (ropePagedKvAppendBf16Reference rot nan query key value pageIndptr pageIndices
      lastPageLen queryOutputLen keyPagesLen valuePagesLen spec)

theorem append_exact (spec : Bf16RopePagedKvAppendSpec w) : AppendExact spec where
  paged := pagedDecode_exact spec.paged
  keyNumel := spec.keyNumel_ok
  reference rot nan _ _ _ _ _ _ _ _ _ _ accepted :=
    faultFree_of_succeeds (ropePagedKvAppendBf16Reference_succeeds rot nan accepted)

/-- The accessors and the reference of a multi-token append contract. -/
structure AppendTokensExact (spec : Bf16RopePagedKvAppendTokensSpec w) : Prop where
  paged : PagedDecodeExact spec.paged
  queryNumel : spec.queryNumel =
    .ok (spec.tokens * spec.paged.numQueryHeads * singleDecodeHeadDim)
  keyNumel : spec.keyNumel = .ok (spec.tokens * spec.paged.numKvHeads * singleDecodeHeadDim)
  reference : ∀ {B : Type} (rot : Rotation B) (nan : B) (query key value : Slice B)
    (batchIndices positions pageIndptr pageIndices lastPageLen : Slice Int32)
    (queryOutputLen keyPagesLen valuePagesLen : Nat) (checked : PageTable w × List (Nat × Nat)),
    checkAppendTokens query key value batchIndices positions pageIndptr pageIndices lastPageLen
      queryOutputLen keyPagesLen valuePagesLen spec = .ok checked →
    FaultFree (ropePagedKvAppendTokensBf16Reference rot nan query key value batchIndices positions
      pageIndptr pageIndices lastPageLen queryOutputLen keyPagesLen valuePagesLen spec)

theorem appendTokens_exact (spec : Bf16RopePagedKvAppendTokensSpec w) : AppendTokensExact spec where
  paged := pagedDecode_exact spec.paged
  queryNumel := spec.queryNumel_ok
  keyNumel := spec.keyNumel_ok
  reference rot nan _ _ _ _ _ _ _ _ _ _ _ _ accepted :=
    faultFree_of_succeeds (ropePagedKvAppendTokensBf16Reference_succeeds rot nan accepted)

/-- The accessors and the reference of a ragged prefill contract. -/
structure RaggedExact (spec : Bf16RaggedPrefillSpec w) : Prop where
  queryNumel : spec.queryNumel = .ok (spec.nnzQo * spec.numQueryHeads * singleDecodeHeadDim)
  kvNumel : spec.kvNumel = .ok (spec.nnzKv * spec.numKvHeads * singleDecodeHeadDim)
  outputNumel : spec.outputNumel = .ok (spec.nnzQo * spec.numQueryHeads * singleDecodeHeadDim)
  lseNumel : spec.lseNumel = .ok (spec.nnzQo * spec.numQueryHeads)
  indptrNumel : spec.indptrNumel = .ok (spec.batchSize + 1)
  kvHead : ∀ queryHead, spec.kvHeadForQueryHead queryHead =
    .ok (if queryHead < spec.numQueryHeads then
      some (queryHead / (spec.numQueryHeads / spec.numKvHeads)) else none)
  reference : ∀ {F B : Type} (ops : FloatOps F B) (query key value : Slice B)
    (qoIndptr kvIndptr : Slice Int32) (outputLen lseLen : Nat) (metadata : RaggedMetadata w),
    checkRagged query key value qoIndptr kvIndptr outputLen lseLen spec = .ok metadata →
    FaultFree
      (raggedPrefillBf16Reference ops query key value qoIndptr kvIndptr outputLen lseLen spec)

theorem ragged_exact (spec : Bf16RaggedPrefillSpec w) : RaggedExact spec where
  queryNumel := spec.queryNumel_ok
  kvNumel := spec.kvNumel_ok
  outputNumel := spec.queryNumel_ok
  lseNumel := spec.lseNumel_ok
  indptrNumel := spec.indptrNumel_ok
  kvHead := kvHeadForQueryHead_ok spec.queryHeads_pos spec.group spec.kvHeads_pos
  reference ops _ _ _ _ _ _ _ _ accepted before :=
    (raggedPrefillBf16Reference_ends ops spec accepted before).mono (fun _ _ _ => trivial)
      fun _ _ h => h

/-- The accessors and the reference of a paged prefill contract. -/
structure PagedPrefillExact (spec : Bf16PagedPrefillSpec w) : Prop where
  queryNumel : spec.queryNumel = .ok (spec.nnzQo * spec.numQueryHeads * singleDecodeHeadDim)
  kvPagesNumel : spec.kvPagesNumel =
    .ok (spec.maxNumPages * pagedPrefillPageSize * spec.numKvHeads * singleDecodeHeadDim)
  outputNumel : spec.outputNumel = .ok (spec.nnzQo * spec.numQueryHeads * singleDecodeHeadDim)
  lseNumel : spec.lseNumel = .ok (spec.nnzQo * spec.numQueryHeads)
  indptrNumel : spec.indptrNumel = .ok (spec.batchSize + 1)
  kvHead : ∀ queryHead, spec.kvHeadForQueryHead queryHead =
    .ok (if queryHead < spec.numQueryHeads then
      some (queryHead / (spec.numQueryHeads / spec.numKvHeads)) else none)
  reference : ∀ {F B : Type} (ops : FloatOps F B) (query keyPages valuePages : Slice B)
    (qoIndptr pageIndptr pageIndices lastPageLen : Slice Int32) (outputLen lseLen : Nat)
    (metadata : PrefillMetadata w),
    checkPagedPrefill query keyPages valuePages qoIndptr pageIndptr pageIndices lastPageLen outputLen
      lseLen spec = .ok metadata →
    FaultFree (pagedPrefillBf16Reference ops query keyPages valuePages qoIndptr pageIndptr
      pageIndices lastPageLen outputLen lseLen spec)

theorem pagedPrefill_exact (spec : Bf16PagedPrefillSpec w) : PagedPrefillExact spec where
  queryNumel := spec.queryNumel_ok
  kvPagesNumel := spec.kvPagesNumel_ok
  outputNumel := spec.queryNumel_ok
  lseNumel := spec.lseNumel_ok
  indptrNumel := spec.indptrNumel_ok
  kvHead := kvHeadForQueryHead_ok spec.queryHeads_pos spec.group spec.kvHeads_pos
  reference ops _ _ _ _ _ _ _ _ _ _ accepted before :=
    (pagedPrefillBf16Reference_ends ops spec accepted before).mono (fun _ _ _ => trivial)
      fun _ _ h => h

end Contracts

/-- Whatever the size of a word, the accessors of accepted contracts are exact, and the references
compute every index without overflow and inside its buffer. -/
theorem accepted_specs_cannot_overflow (w : Nat) :
    (∀ spec : Bf16SingleDecodeSpec w, SingleDecodeExact spec) ∧
    (∀ spec : Bf16SingleDecodeSplitKSpec w, SplitKExact spec) ∧
    (∀ spec : Bf16PagedBatchDecodeSpec w, PagedDecodeExact spec) ∧
    (∀ spec : Bf16RopePagedKvAppendSpec w, AppendExact spec) ∧
    (∀ spec : Bf16RopePagedKvAppendTokensSpec w, AppendTokensExact spec) ∧
    (∀ spec : Bf16RaggedPrefillSpec w, RaggedExact spec) ∧
    ∀ spec : Bf16PagedPrefillSpec w, PagedPrefillExact spec :=
  ⟨singleDecode_exact, splitK_exact, pagedDecode_exact, append_exact, appendTokens_exact,
    ragged_exact, pagedPrefill_exact⟩

end LoomKernels.Word
