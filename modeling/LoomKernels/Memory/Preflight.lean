import LoomKernels.Device.RaggedPlan
import LoomKernels.Host.SingleDecode
import LoomKernels.Memory.Pages

/-!
# Preflight of the attention plans

Before it launches, `enqueue_into` of a plan checks the lengths of all buffers, but for single decode,
and that the packed ones start at a multiple of four. The contents of the metadata arrays are not looked at: they are in
device memory.
-/

namespace LoomKernels.Memory

/-- The buffers of an attention kernel: the lengths and addresses, and what the metadata arrays
hold. A kernel uses those it has. -/
structure KernelArgs where
  queryLen : Nat
  keyLen : Nat
  valueLen : Nat
  outputLen : Nat
  lseLen : Nat
  /-- `None` where the plan is given no workspace. -/
  workspaceLen : Option Nat
  qoIndptr : Slice Int32
  kvIndptr : Slice Int32
  pageIndptr : Slice Int32
  pageIndices : Slice Int32
  lastPageLen : Slice Int32
  /-- `cu_deviceptr()` -/
  address : KernelBuffer → Nat

/-- `TILED_KV_SHARED_PAIRS` -/
abbrev tiledKvSharedPairs : Nat := tiledKvRows * bf16PairsPerHead

/-- The lengths of all arrays that a kernel with so many warps accesses. -/
def KernelArgs.len (args : KernelArgs) (warps : Nat) : KernelBuffer → Nat
  | .query => args.queryLen
  | .key => args.keyLen
  | .value => args.valueLen
  | .qoIndptr => args.qoIndptr.len
  | .kvIndptr => args.kvIndptr.len
  | .pageIndptr => args.pageIndptr.len
  | .pageIndices => args.pageIndices.len
  | .lastPageLen => args.lastPageLen.len
  | .output => args.outputLen
  | .lse => args.lseLen
  | .workspace => args.workspaceLen.getD 0
  | .partialStates => warps * singleDecodePartialStateWidth
  | .pageValid => warps
  | .kvTile => tiledKvSharedPairs

/-- What `enqueue_into` reports of the buffers. -/
inductive EnqueueError where
  | lengthMismatch (operand : String) (expected actual : Nat)
  | pageIndicesTooShort (minimum actual : Nat)
  | missingWorkspace
  | misalignedBuffer (operand : String) (address alignment : Nat)
  deriving DecidableEq, Repr

/-- `require_exact_len` and `require_paged_exact_len` -/
def requireExactLen (operand : String) (actual expected : Nat) : Except EnqueueError Unit :=
  if actual = expected then .ok () else .error (.lengthMismatch operand expected actual)

/-- The check of `page_indices`, whose length is only bounded. -/
def requirePageIndices (minimum actual : Nat) : Except EnqueueError Unit :=
  if actual < minimum then .error (.pageIndicesTooShort minimum actual) else .ok ()

/-- `require_packed_alignment` and `require_paged_alignment` -/
def requirePackedAlignment (operand : String) (address : Nat) : Except EnqueueError Unit :=
  if address % 4 = 0 then .ok () else .error (.misalignedBuffer operand address 4)

/-! ## Checks -/

section Checks

variable (args : KernelArgs)

/-- The alignment checks, of which all attention plans have the same four. -/
def KernelArgs.requireAlignment (key value : String) : Except EnqueueError Unit := do
  requirePackedAlignment "Q" (args.address .query)
  requirePackedAlignment key (args.address .key)
  requirePackedAlignment value (args.address .value)
  requirePackedAlignment "O" (args.address .output)

/-- The length checks of a page table. -/
def KernelArgs.requirePageTable (batchSize indptrNumel lastPageLenNumel : Nat) :
    Except EnqueueError Unit := do
  requireExactLen "page_indptr" args.pageIndptr.len indptrNumel
  requirePageIndices batchSize args.pageIndices.len
  requireExactLen "last_page_len" args.lastPageLen.len lastPageLenNumel

/-- `args.workspace.ok_or(…)?` -/
def KernelArgs.requireWorkspace : Except EnqueueError Nat :=
  match args.workspaceLen with
  | some len => .ok len
  | none => .error .missingWorkspace

/-- `Bf16SingleDecodePlan::enqueue_into`, which leaves the lengths to the launch contract. -/
def KernelArgs.singleDecodePreflight : Except EnqueueError Unit := args.requireAlignment "K" "V"

/-- `Bf16SingleDecodeSplitKPlan::enqueue_into` -/
def KernelArgs.splitKPreflight (spec : Bf16SingleDecodeSplitKSpec) : Except EnqueueError Unit := do
  requireExactLen "Q" args.queryLen spec.decode.queryNumel
  requireExactLen "K" args.keyLen spec.decode.kvNumel
  requireExactLen "V" args.valueLen spec.decode.kvNumel
  requireExactLen "workspace" (args.workspaceLen.getD 0) spec.workspaceNumel
  requireExactLen "O" args.outputLen spec.decode.outputNumel
  requireExactLen "LSE" args.lseLen spec.decode.lseNumel
  args.requireAlignment "K" "V"

/-- `Bf16PagedBatchDecodePlan::enqueue_into` -/
def KernelArgs.decodePreflight (spec : Bf16PagedBatchDecodeSpec) :
    Except EnqueueError Unit := do
  requireExactLen "Q" args.queryLen spec.queryNumel
  requireExactLen "K_pages" args.keyLen spec.kvPagesNumel
  requireExactLen "V_pages" args.valueLen spec.kvPagesNumel
  args.requirePageTable spec.batchSize spec.pageIndptrNumel spec.lastPageLenNumel
  requireExactLen "O" args.outputLen spec.outputNumel
  requireExactLen "LSE" args.lseLen spec.lseNumel
  args.requireAlignment "K_pages" "V_pages"

/-- `Bf16PagedPrefillPlan::enqueue_into` -/
def KernelArgs.pagedPrefillPreflight (spec : Bf16PagedPrefillSpec) : Except EnqueueError Unit := do
  requireExactLen "Q" args.queryLen spec.queryNumel
  requireExactLen "K_pages" args.keyLen spec.kvPagesNumel
  requireExactLen "V_pages" args.valueLen spec.kvPagesNumel
  requireExactLen "qo_indptr" args.qoIndptr.len spec.indptrNumel
  args.requirePageTable spec.batchSize spec.indptrNumel spec.lastPageLenNumel
  requireExactLen "O" args.outputLen spec.outputNumel
  requireExactLen "LSE" args.lseLen spec.lseNumel
  args.requireAlignment "K_pages" "V_pages"

/-- `Bf16RaggedPrefillPlan::enqueue_into`, and the first checks of `enqueue_tiled_gqa4`. -/
def KernelArgs.raggedPrefillPreflight (spec : Bf16RaggedPrefillSpec) :
    Except EnqueueError Unit := do
  requireExactLen "Q" args.queryLen spec.queryNumel
  requireExactLen "K" args.keyLen spec.kvNumel
  requireExactLen "V" args.valueLen spec.kvNumel
  requireExactLen "qo_indptr" args.qoIndptr.len spec.indptrNumel
  requireExactLen "kv_indptr" args.kvIndptr.len spec.indptrNumel
  requireExactLen "O" args.outputLen spec.outputNumel
  requireExactLen "LSE" args.lseLen spec.lseNumel
  args.requireAlignment "K" "V"

/-- `enqueue_tiled_gqa4`, of a plan with so large a workspace. -/
def KernelArgs.tiledPreflight (spec : Bf16RaggedPrefillSpec) (workspaceNumel : Nat) :
    Except EnqueueError Unit := do
  let workspaceLen ← args.requireWorkspace
  args.raggedPrefillPreflight spec
  requireExactLen "workspace" workspaceLen workspaceNumel

end Checks

/-! ## What is known after the checks -/

theorem requireExactLen_eq_ok {operand : String} {actual expected : Nat} :
    requireExactLen operand actual expected = .ok () ↔ actual = expected := by
  unfold requireExactLen
  split
  · rename_i same
    exact iff_of_true rfl same
  · rename_i other
    exact iff_of_false nofun other

theorem requirePageIndices_eq_ok {minimum actual : Nat} :
    requirePageIndices minimum actual = .ok () ↔ minimum ≤ actual := by
  unfold requirePageIndices
  split
  · rename_i short
    exact iff_of_false nofun (Nat.not_le.mpr short)
  · rename_i enough
    exact iff_of_true rfl (Nat.le_of_not_lt enough)

theorem requirePackedAlignment_eq_ok {operand : String} {address : Nat} :
    requirePackedAlignment operand address = .ok () ↔ 4 ∣ address := by
  unfold requirePackedAlignment
  split
  · rename_i aligned
    exact iff_of_true rfl (Nat.dvd_of_mod_eq_zero aligned)
  · rename_i misaligned
    exact iff_of_false nofun fun divides => misaligned (Nat.mod_eq_zero_of_dvd divides)

/-- The packed buffers start at multiples of four. -/
structure KernelArgs.PackedAligned (args : KernelArgs) : Prop where
  query : 4 ∣ args.address .query
  key : 4 ∣ args.address .key
  value : 4 ∣ args.address .value
  output : 4 ∣ args.address .output

section Checks

variable {args : KernelArgs}

theorem KernelArgs.requireAlignment_eq_ok {key value : String} :
    args.requireAlignment key value = .ok () ↔ args.PackedAligned := by
  simp only [requireAlignment, check_bind_eq_ok, requirePackedAlignment_eq_ok]
  constructor
  · rintro ⟨query, key, value, output⟩
    exact ⟨query, key, value, output⟩
  · rintro ⟨query, key, value, output⟩
    exact ⟨query, key, value, output⟩

theorem KernelArgs.requirePageTable_eq_ok {batchSize indptrNumel lastPageLenNumel : Nat} :
    args.requirePageTable batchSize indptrNumel lastPageLenNumel = .ok () ↔
      args.pageIndptr.len = indptrNumel ∧ batchSize ≤ args.pageIndices.len ∧
        args.lastPageLen.len = lastPageLenNumel := by
  simp only [requirePageTable, check_bind_eq_ok, requireExactLen_eq_ok, requirePageIndices_eq_ok]

/-- The lengths of a page table that passes. -/
theorem KernelArgs.pageTableLens {batchSize warps : Nat}
    (indptr : args.pageIndptr.len = batchSize + 1) (tail : args.lastPageLen.len = batchSize)
    (fits : batchSize + 1 < usizeSize) :
    PageTableLens (args.len warps) batchSize args.pageIndptr args.pageIndices args.lastPageLen where
  indptr := rfl
  indices := rfl
  tail := rfl
  indptr_len := indptr
  tail_len := tail
  batch_fits := fits

variable {warps : Nat}

section Decode

variable {spec : Bf16PagedBatchDecodeSpec}

theorem KernelArgs.decodePreflight_lens (h : args.decodePreflight spec = .ok ()) :
    AttentionLens (args.len warps) spec.lseNumel (spec.maxNumPages * 16) spec.numKvHeads ∧
      PageTableLens (args.len warps) spec.batchSize args.pageIndptr args.pageIndices
        args.lastPageLen ∧
      ResultLens (args.len warps) spec.lseNumel ∧ args.PackedAligned := by
  simp only [decodePreflight, check_bind_eq_ok, requireExactLen_eq_ok,
    KernelArgs.requirePageTable_eq_ok, KernelArgs.requireAlignment_eq_ok] at h
  obtain ⟨query, key, value, ⟨indptr, -, tail⟩, output, lse, aligned⟩ := h
  exact ⟨⟨query, key, value, spec.query_fits, spec.pages_fit⟩,
    args.pageTableLens indptr tail spec.batch_fits, ⟨output, lse⟩, aligned⟩

end Decode

section PagedPrefill

variable {spec : Bf16PagedPrefillSpec}

theorem KernelArgs.pagedPrefillPreflight_lens (h : args.pagedPrefillPreflight spec = .ok ()) :
    AttentionLens (args.len warps) spec.lseNumel (spec.maxNumPages * 16) spec.numKvHeads ∧
      PageTableLens (args.len warps) spec.batchSize args.pageIndptr args.pageIndices
        args.lastPageLen ∧
      args.qoIndptr.len = spec.batchSize + 1 ∧ ResultLens (args.len warps) spec.lseNumel ∧
      args.PackedAligned := by
  simp only [pagedPrefillPreflight, check_bind_eq_ok, requireExactLen_eq_ok,
    KernelArgs.requirePageTable_eq_ok, KernelArgs.requireAlignment_eq_ok] at h
  obtain ⟨query, key, value, qo, ⟨indptr, -, tail⟩, output, lse, aligned⟩ := h
  exact ⟨⟨query, key, value, spec.query_fits, spec.pages_fit⟩,
    args.pageTableLens indptr tail spec.batch_fits, qo, ⟨output, lse⟩, aligned⟩

end PagedPrefill

section RaggedPrefill

variable {spec : Bf16RaggedPrefillSpec}

theorem KernelArgs.raggedPrefillPreflight_lens (h : args.raggedPrefillPreflight spec = .ok ()) :
    AttentionLens (args.len warps) spec.lseNumel spec.nnzKv spec.numKvHeads ∧
      (args.qoIndptr.len = spec.batchSize + 1 ∧ args.kvIndptr.len = spec.batchSize + 1) ∧
      ResultLens (args.len warps) spec.lseNumel ∧ args.PackedAligned := by
  simp only [raggedPrefillPreflight, check_bind_eq_ok, requireExactLen_eq_ok,
    KernelArgs.requireAlignment_eq_ok] at h
  obtain ⟨query, key, value, qo, kv, output, lse, aligned⟩ := h
  exact ⟨⟨query, key, value, spec.query_fits, spec.kv_fits⟩, ⟨qo, kv⟩, ⟨output, lse⟩, aligned⟩

theorem KernelArgs.splitKPreflight_aligned {spec : Bf16SingleDecodeSplitKSpec}
    (h : args.splitKPreflight spec = .ok ()) : args.PackedAligned := by
  simp only [splitKPreflight, check_bind_eq_ok, requireExactLen_eq_ok,
    KernelArgs.requireAlignment_eq_ok] at h
  exact h.2.2.2.2.2.2

theorem KernelArgs.requireWorkspace_eq_ok {len : Nat} :
    args.requireWorkspace = .ok len ↔ args.workspaceLen = some len := by
  unfold requireWorkspace
  cases args.workspaceLen with
  | none => exact iff_of_false nofun nofun
  | some other => exact ⟨fun h => congrArg some (Except.ok.inj h),
      fun h => congrArg Except.ok (Option.some.inj h)⟩

theorem KernelArgs.tiledPreflight_eq_ok {workspaceNumel : Nat} :
    args.tiledPreflight spec workspaceNumel = .ok () ↔
      args.raggedPrefillPreflight spec = .ok () ∧ args.workspaceLen = some workspaceNumel := by
  unfold tiledPreflight
  rw [bind_eq_ok]
  simp only [check_bind_eq_ok, requireExactLen_eq_ok, requireWorkspace_eq_ok]
  constructor
  · rintro ⟨_, given, passed, rfl⟩
    exact ⟨passed, given⟩
  · rintro ⟨passed, given⟩
    exact ⟨_, given, passed, rfl⟩

end RaggedPrefill

end Checks

end LoomKernels.Memory
