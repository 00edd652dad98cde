import LoomKernels.Host.Gather
import LoomKernels.Memory.PagedPrefill
import LoomKernels.Memory.Preflight

/-!
# Paged kernels on any metadata

The plans check the lengths of the metadata arrays and none of their contents. With the lengths that
the checks leave, the paged kernels are contained whatever the arrays hold: every thread runs to its
end, every access is inside its buffer, and a block stores results only in its own row and only when
the guard accepts the request of the row (`pagedKernels_contained`).
-/

namespace LoomKernels.Memory

/-- The guard of a thread lets it pass exactly when `accepts` holds. -/
def GuardDecides {α : Type} (guard : KernelM (Option α)) (accepts : Prop) : Prop :=
  ∃ r trace, Traces guard r trace ∧ (r.isSome = true ↔ accepts)

theorem GuardDecides.of_safe {α : Type} {guard : KernelM (Option α)} {accepts : Prop}
    {len : KernelBuffer → Nat} {Q : Option α → Prop}
    (h : Safe (Contained len fun _ => False) guard fun r => (r.isSome = true ↔ accepts) ∧ Q r) :
    GuardDecides guard accepts := by
  obtain ⟨r, trace, run, ⟨decides, -⟩, -⟩ := h.traces
  exact ⟨r, trace, run, decides⟩

/-- What holds of the kernels of paged decode and their guard, for all blocks and threads. That the
guard accepts a row does not depend on the thread that asks. -/
structure DecodeContained (spec : Bf16PagedBatchDecodeSpec) (args : KernelArgs) : Prop where
  direct : ∀ state lane, RunContained (args.len 1)
    (DecodeOwn spec args.pageIndptr args.pageIndices args.lastPageLen state)
    (pagedBatchDecode spec.batchSize spec.maxNumPages spec.numQueryHeads spec.numKvHeads
      args.pageIndptr args.pageIndices args.lastPageLen state lane)
  tokenParallel : ∀ state, ∀ thread < warpThreads * pagedBatchDecodeWarpsPerBlock,
    RunContained (args.len pagedBatchDecodeWarpsPerBlock)
      (DecodeOwn spec args.pageIndptr args.pageIndices args.lastPageLen state)
      (pagedBatchDecodeTokenParallel spec.batchSize spec.maxNumPages spec.numQueryHeads
        spec.numKvHeads args.pageIndptr args.pageIndices args.lastPageLen state thread)
  guard : ∀ state, ∀ thread < warpThreads * pagedBatchDecodeWarpsPerBlock,
    GuardDecides
      (pagedBatchDecodeTokenParallelGuard spec.batchSize spec.maxNumPages spec.numQueryHeads
        args.pageIndptr args.pageIndices args.lastPageLen state thread)
      (DecodeRowValid spec args.pageIndptr args.pageIndices args.lastPageLen state)
  validated : ∀ table, spec.validatePageTable args.pageIndptr args.pageIndices args.lastPageLen =
    .ok table → ∀ state < spec.lseNumel,
      DecodeRowValid spec args.pageIndptr args.pageIndices args.lastPageLen state

theorem decode_contained {spec : Bf16PagedBatchDecodeSpec} {args : KernelArgs}
    (h : args.decodePreflight spec = .ok ()) : DecodeContained spec args where
  direct state lane := by
    obtain ⟨lens, table, results, -⟩ := KernelArgs.decodePreflight_lens h
    exact RunContained.of_safe (pagedBatchDecode_safe lens table results state lane)
  tokenParallel state thread ht := by
    obtain ⟨lens, table, results, -⟩ := KernelArgs.decodePreflight_lens h
    exact RunContained.of_safe
      (pagedBatchDecodeTokenParallel_safe lens table results rfl rfl state ht)
  guard state thread ht := by
    obtain ⟨lens, table, -, -⟩ := KernelArgs.decodePreflight_lens h
    exact GuardDecides.of_safe (pagedBatchDecodeTokenParallelGuard_safe lens table rfl ht)
  validated table accepted state hs := by
    obtain ⟨valid, -⟩ := spec.validatePageTable_eq_ok.mp accepted
    exact ⟨hs, requestValid_of_table valid ((lt_rows_iff spec.queryHeads_pos).mpr hs)⟩

/-- What holds of the kernels of paged prefill and their guard. The token-parallel kernels are one
body for both numbers of warps. -/
structure PagedPrefillContained (spec : Bf16PagedPrefillSpec) (args : KernelArgs) : Prop where
  direct : ∀ state lane, RunContained (args.len 1)
    (PrefillOwn spec args.qoIndptr args.pageIndptr args.pageIndices args.lastPageLen state)
    (pagedPrefill spec.batchSize spec.nnzQo spec.maxNumPages spec.numQueryHeads spec.numKvHeads
      args.qoIndptr args.pageIndptr args.pageIndices args.lastPageLen state lane)
  tokenParallel : ∀ warps ∈ [tokenParallel8Warps, tokenParallel16Warps], ∀ state,
    ∀ thread < warpThreads * warps, RunContained (args.len warps)
      (PrefillOwn spec args.qoIndptr args.pageIndptr args.pageIndices args.lastPageLen state)
      (pagedPrefillTokenParallel spec.batchSize spec.nnzQo spec.maxNumPages spec.numQueryHeads
        spec.numKvHeads args.qoIndptr args.pageIndptr args.pageIndices args.lastPageLen warps state
        thread)
  guard : ∀ warps ∈ [tokenParallel8Warps, tokenParallel16Warps], ∀ state,
    ∀ thread < warpThreads * warps, GuardDecides
      (pagedPrefillTokenParallelGuard spec.batchSize spec.nnzQo spec.maxNumPages spec.numQueryHeads
        args.qoIndptr args.pageIndptr args.pageIndices args.lastPageLen warps state thread)
      (PrefillRowValid spec args.qoIndptr args.pageIndptr args.pageIndices args.lastPageLen state)
  validated : ∀ metadata, spec.validateMetadata args.qoIndptr args.pageIndptr args.pageIndices
    args.lastPageLen = .ok metadata → ∀ state < spec.lseNumel,
      PrefillRowValid spec args.qoIndptr args.pageIndptr args.pageIndices args.lastPageLen state

theorem warps_mem {warps : Nat} (h : warps ∈ [tokenParallel8Warps, tokenParallel16Warps]) :
    0 < warps ∧ warps ≤ 16 := by
  simp only [List.mem_cons, List.not_mem_nil, or_false] at h
  rcases h with rfl | rfl
  · decide
  · decide

theorem pagedPrefill_contained {spec : Bf16PagedPrefillSpec} {args : KernelArgs}
    (h : args.pagedPrefillPreflight spec = .ok ()) : PagedPrefillContained spec args where
  direct state lane := by
    obtain ⟨lens, table, qoLen, results, -⟩ := KernelArgs.pagedPrefillPreflight_lens h
    exact RunContained.of_safe (pagedPrefill_safe lens table rfl qoLen results state lane)
  tokenParallel warps mem state thread ht := by
    obtain ⟨lens, table, qoLen, results, -⟩ := KernelArgs.pagedPrefillPreflight_lens h
    obtain ⟨hw, le⟩ := warps_mem mem
    rw [Nat.mul_comm] at ht
    exact RunContained.of_safe
      (pagedPrefillTokenParallel_safe lens table rfl qoLen results hw le rfl rfl state ht)
  guard warps mem state thread ht := by
    obtain ⟨lens, table, qoLen, -, -⟩ := KernelArgs.pagedPrefillPreflight_lens h
    obtain ⟨hw, le⟩ := warps_mem mem
    rw [Nat.mul_comm] at ht
    exact GuardDecides.of_safe (pagedPrefillTokenParallelGuard_safe lens table rfl qoLen hw le rfl ht)
  validated metadata accepted state hs := by
    obtain ⟨valid, -⟩ := spec.validateMetadata_eq_ok.mp accepted
    exact prefillRowValid_of_valid valid hs

/-- The paged kernels on arrays of the lengths that the plans check, whatever the metadata is. -/
theorem pagedKernels_contained (args : KernelArgs) :
    (∀ spec, args.decodePreflight spec = .ok () → DecodeContained spec args) ∧
      ∀ spec, args.pagedPrefillPreflight spec = .ok () → PagedPrefillContained spec args :=
  ⟨fun _ h => decode_contained h, fun _ h => pagedPrefill_contained h⟩

/-- One request on a pool of two pages, with metadata that means nothing. -/
def untrustedPageArgs (rows : Nat) : KernelArgs where
  queryLen := rows * 128
  keyLen := 4096
  valueLen := 4096
  outputLen := rows * 128
  lseLen := rows
  workspaceLen := none
  qoIndptr := Slice.ofList [-1, 2147483647]
  kvIndptr := Slice.ofList []
  pageIndptr := Slice.ofList [-2147483648, 2147483647]
  pageIndices := Slice.ofList [-1, 2147483647, 7]
  lastPageLen := Slice.ofList [-16]
  address := fun _ => 0

theorem pagedKernels_contained_untrusted :
    DecodeContained swappedPagesSpec (untrustedPageArgs 1) ∧
      PagedPrefillContained swappedPagesPrefillSpec (untrustedPageArgs 2) :=
  ⟨(pagedKernels_contained (untrustedPageArgs 1)).1 swappedPagesSpec rfl,
    (pagedKernels_contained (untrustedPageArgs 2)).2 swappedPagesPrefillSpec rfl⟩

end LoomKernels.Memory
