import LoomKernels.Memory.PagedPrefill
import LoomKernels.Memory.SplitK
import LoomKernels.Memory.Tiled

/-!
# Accesses of words

All attention kernels but the one that copies tiles access their arrays by words of four bytes at multiples of
four, whatever their arguments are and wherever they stop. Two elements of sixteen bits make a word.
-/

namespace LoomKernels.Memory

/-- An access of four bytes at a multiple of four. -/
def IsWord (a : ByteAccess KernelBuffer) : Prop := a.width = 4 ∧ 4 ∣ a.offset

/-! ## Parts of kernels -/

section Parts

theorem loadWord_words (buffer : KernelBuffer) (index : Nat) : Makes IsWord (loadWord buffer index) :=
  makes_touch ⟨rfl, Nat.dvd_mul_right 4 index⟩

theorem storeWord_words (buffer : KernelBuffer) (index : Nat) :
    Makes IsWord (storeWord buffer index) :=
  makes_touch ⟨rfl, Nat.dvd_mul_right 4 index⟩

theorem readI32_words (buffer : KernelBuffer) (array : Slice Int32) (index : Nat) :
    Makes IsWord (readI32 buffer array index) :=
  makes_compute.bind fun _ => (loadWord_words buffer index).bind fun _ => makes_pure

theorem readWorkspace_words (workspaceLen index : Nat) :
    Makes IsWord (readWorkspace workspaceLen index) :=
  makes_compute.bind fun _ => loadWord_words .workspace index

theorem loadKeyValue_words (offset : Nat) : Makes IsWord (loadKeyValue offset) := by
  refine makes_compute.bind fun second => (loadWord_words .key offset).bind fun _ => ?_
  refine (loadWord_words .key second).bind fun _ => (loadWord_words .value offset).bind fun _ => ?_
  exact loadWord_words .value second

theorem storeResult_words (state lane : Nat) (pairs : List Nat) :
    Makes IsWord (storeResult state lane pairs) := by
  have components : Makes IsWord (pairs.forM (storeWord .output)) :=
    makes_forM (storeWord_words .output) pairs
  exact makes_ite ((storeWord_words .lse state).bind fun _ => components) components

theorem storePartialState_words (buffer : KernelBuffer) (offset lane : Nat) :
    Makes IsWord (storePartialState buffer offset lane) := by
  refine makes_compute.bind fun indices => ?_
  have components : Makes IsWord (indices.forM (storeWord buffer)) :=
    makes_forM (storeWord_words buffer) indices
  refine makes_ite ((storeWord_words buffer offset).bind fun _ => ?_) components
  exact (storeWord_words buffer (offset + 1)).bind fun _ => components

theorem loadPartialState_words (buffer : KernelBuffer) (offset lane : Nat) :
    Makes IsWord (loadPartialState buffer offset lane) := by
  refine makes_compute.bind fun indices => (loadWord_words buffer offset).bind fun _ => ?_
  exact (loadWord_words buffer (offset + 1)).bind fun _ => makes_forM (loadWord_words buffer) indices

theorem tokenParallelRow_words {warps state thread : Nat} {cut : Nat → Machine Empty Nat}
    {kvPair : Nat → KernelM Nat} (h : ∀ token, Makes IsWord (kvPair token)) :
    Makes IsWord (tokenParallelRow warps state thread cut kvPair) := by
  refine makes_compute.bind fun pairs => (makes_forM (loadWord_words .query) pairs).bind fun _ => ?_
  refine makes_compute.bind fun _ => makes_compute.bind fun _ => ?_
  refine (makes_forEach fun token => (h token).bind loadKeyValue_words).bind fun _ => ?_
  refine makes_compute.bind fun offset => (storePartialState_words _ offset _).bind fun _ => ?_
  refine makes_ite (Makes.bind (makes_forEach fun part => ?_) fun _ => ?_) makes_pure
  · exact makes_compute.bind fun offset => loadPartialState_words _ offset _
  · exact storeResult_words state _ pairs

end Parts

/-! ## Single decode -/

section SingleDecode

theorem loadTokens_words {numKvHeads kvHead lane tokenStart tokenEnd : Nat} :
    Makes IsWord (loadTokens numKvHeads kvHead lane tokenStart tokenEnd) :=
  makes_forEach fun _ => makes_compute.bind loadKeyValue_words

theorem singleDecode_words {kvLen numQueryHeads numKvHeads queryHead lane : Nat} :
    Makes IsWord (singleDecode kvLen numQueryHeads numKvHeads queryHead lane) := by
  refine makes_ite makes_pure (makes_compute.bind fun kvHead => makes_compute.bind fun pairs => ?_)
  refine (makes_forM (loadWord_words .query) pairs).bind fun _ => ?_
  exact loadTokens_words.bind fun _ => storeResult_words queryHead lane pairs

theorem splitKPartials_words {kvLen numQueryHeads numKvHeads partitions state lane : Nat} :
    Makes IsWord (splitKPartials kvLen numQueryHeads numKvHeads partitions state lane) := by
  refine makes_compute.bind fun _ => makes_ite makes_pure ?_
  refine makes_compute.bind fun _ => makes_compute.bind fun _ => makes_compute.bind fun _ => ?_
  refine makes_compute.bind fun _ => makes_compute.bind fun pairs => ?_
  refine (makes_forM (loadWord_words .query) pairs).bind fun _ => ?_
  refine loadTokens_words.bind fun _ => makes_compute.bind fun offset => ?_
  exact storePartialState_words _ offset lane

theorem mergePartitions_words {partitions workspaceLen queryHead warp lane : Nat} :
    Makes IsWord (mergePartitions partitions workspaceLen queryHead warp lane) := by
  refine makes_compute.bind fun _ => makes_forEach fun _ => makes_compute.bind fun offset => ?_
  refine (readWorkspace_words _ offset).bind fun _ => ?_
  refine (readWorkspace_words _ (offset + 1)).bind fun _ => makes_compute.bind fun indices => ?_
  exact makes_forM (readWorkspace_words _) indices

theorem splitKMerge_words {numQueryHeads partitions workspaceLen queryHead thread : Nat} :
    Makes IsWord (splitKMerge numQueryHeads partitions workspaceLen queryHead thread) := by
  refine makes_ite makes_pure (mergePartitions_words.bind fun _ => ?_)
  have finish : Makes IsWord
      (if thread / warpThreads ≠ 0 then pure ()
      else do
        forEach 0 (min partitions splitKMergeWarpsPerBlock) fun warpState => do
          let offset ← compute (mulWord 64 warpState singleDecodePartialStateWidth)
          loadPartialState .partialStates offset (thread % warpThreads)
        storeResult queryHead (thread % warpThreads)
          (← compute (rowPairs queryHead (thread % warpThreads)))) := by
    refine makes_ite makes_pure (Makes.bind (makes_forEach fun _ => ?_) fun _ => ?_)
    · exact makes_compute.bind fun offset => loadPartialState_words _ offset _
    · exact makes_compute.bind fun pairs => storeResult_words _ _ pairs
  refine makes_ite (makes_compute.bind fun offset => ?_) finish
  exact (storePartialState_words _ offset _).bind fun _ => finish

end SingleDecode

/-! ## Paged kernels -/

section Paged

theorem readSlot_words {pageIndices : Slice Int32} {pageStart : Int} {pageSlot : Nat} :
    Makes IsWord (readSlot pageIndices pageStart pageSlot) :=
  makes_compute.bind (readI32_words .pageIndices pageIndices)

theorem readPage_words {pageIndices : Slice Int32} {pageStart : Int} {token : Nat} :
    Makes IsWord (readPage pageIndices pageStart token) :=
  makes_compute.bind fun _ => readSlot_words

theorem scanPages_words {threads maxNumPages : Nat} {pageIndices : Slice Int32}
    {pageStart pageEnd : Int} {thread : Nat} :
    Makes IsWord (scanPages threads maxNumPages pageIndices pageStart pageEnd thread) :=
  makes_compute.bind fun _ => makes_foldlM (fun _ _ => readSlot_words.bind fun _ =>
    makes_compute.bind fun _ => makes_pure) _ _

theorem writeFlag_words {thread : Nat} : Makes IsWord (writeFlag thread) :=
  makes_ite (storeWord_words .pageValid _) makes_pure

theorem votePages_words {warps maxNumPages : Nat} {pageIndices : Slice Int32} {range : PageRange}
    {thread : Nat} : Makes IsWord (votePages warps maxNumPages pageIndices range thread) := by
  refine writeFlag_words.bind fun _ => Makes.bind ?_ fun _ => ?_
  · exact makes_ite (scanPages_words.bind fun _ => writeFlag_words) makes_pure
  · refine makes_compute.bind fun _ => Makes.bind ?_ fun _ => makes_pure
    exact makes_forEach (loadWord_words .pageValid)

theorem pagedKvPair_words {numKvHeads : Nat} {pageIndices : Slice Int32} {pageStart : Int}
    {kvHead lane token : Nat} :
    Makes IsWord (pagedKvPair numKvHeads pageIndices pageStart kvHead lane token) :=
  readPage_words.bind fun _ => makes_compute

variable {batchSize maxNumPages numQueryHeads numKvHeads state : Nat}
  {pageIndptr pageIndices lastPageLen : Slice Int32}

theorem readPageRange_words {request : Nat} :
    Makes IsWord (readPageRange batchSize pageIndptr pageIndices lastPageLen request) := by
  have entry : ∀ i, Makes IsWord (readI32 .pageIndptr pageIndptr i) := readI32_words _ _
  refine (entry batchSize).bind fun _ => (entry request).bind fun _ => ?_
  refine makes_compute.bind fun next => (entry next).bind fun _ => ?_
  exact (readI32_words _ _ request).bind fun _ => (entry 0).bind fun _ => makes_pure

theorem pagedBatchDecode_words {lane : Nat} :
    Makes IsWord (pagedBatchDecode batchSize maxNumPages numQueryHeads numKvHeads pageIndptr
      pageIndices lastPageLen state lane) := by
  refine makes_compute.bind fun _ => makes_ite makes_pure (makes_compute.bind fun _ => ?_)
  refine readPageRange_words.bind fun range => makes_ite makes_pure ?_
  refine makes_compute.bind fun _ => makes_compute.bind fun kvHead => ?_
  refine makes_compute.bind fun pairs => (makes_forM (loadWord_words .query) pairs).bind fun _ => ?_
  refine Makes.bind (makes_searchEach (fun token _ => ?_) _ _ _) fun _ => ?_
  · refine readPage_words.bind fun _ => makes_ite (makes_compute.bind fun offset => ?_) makes_pure
    exact (loadKeyValue_words offset).bind fun _ => makes_pure
  · exact makes_ite makes_pure (storeResult_words state lane pairs)

theorem pagedBatchDecodeTokenParallel_words {thread : Nat} :
    Makes IsWord (pagedBatchDecodeTokenParallel batchSize maxNumPages numQueryHeads numKvHeads
      pageIndptr pageIndices lastPageLen state thread) := by
  refine Makes.bind (makes_compute.bind fun _ => makes_ite makes_pure ?_) fun guard => ?_
  · refine makes_compute.bind fun _ => readPageRange_words.bind fun _ => votePages_words.bind ?_
    exact fun _ => makes_ite makes_pure (makes_compute.bind fun _ => makes_pure)
  · cases guard with
    | none => exact makes_pure
    | some row => exact makes_compute.bind fun _ => tokenParallelRow_words fun _ => pagedKvPair_words

variable {nnzQo : Nat} {qoIndptr : Slice Int32}

theorem requestOfRow_words {queryRow : Nat} :
    Makes IsWord (requestOfRow batchSize nnzQo qoIndptr queryRow) := by
  refine makes_searchEach (fun request _ => ?_) _ _ _
  refine (readI32_words _ _ request).bind fun _ => makes_compute.bind fun next => ?_
  exact (readI32_words _ _ next).bind fun _ => makes_ite makes_pure (makes_ite makes_pure makes_pure)

theorem prefillEndsMatch_words :
    Makes IsWord (prefillEndsMatch batchSize nnzQo qoIndptr pageIndptr) := by
  refine (readI32_words _ _ 0).bind fun _ => makes_ite makes_pure ?_
  refine (readI32_words _ _ batchSize).bind fun _ => makes_ite makes_pure ?_
  exact (readI32_words _ _ 0).bind fun _ => makes_pure

theorem readPrefillRange_words {request : Nat} :
    Makes IsWord (readPrefillRange batchSize qoIndptr pageIndptr lastPageLen request) := by
  refine makes_compute.bind fun next => (readI32_words _ _ request).bind fun _ => ?_
  refine (readI32_words _ _ next).bind fun _ => (readI32_words _ _ request).bind fun _ => ?_
  refine (readI32_words _ _ next).bind fun _ => (readI32_words _ _ batchSize).bind fun _ => ?_
  exact (readI32_words _ _ request).bind fun _ => makes_pure

theorem pagedPrefill_words {lane : Nat} :
    Makes IsWord (pagedPrefill batchSize nnzQo maxNumPages numQueryHeads numKvHeads qoIndptr
      pageIndptr pageIndices lastPageLen state lane) := by
  refine makes_compute.bind fun _ => makes_ite makes_pure ?_
  refine prefillEndsMatch_words.bind fun _ => makes_ite makes_pure ?_
  refine (readI32_words _ _ batchSize).bind fun _ => makes_ite makes_pure ?_
  refine (readI32_words _ _ batchSize).bind fun _ => makes_ite makes_pure ?_
  refine makes_compute.bind fun _ => requestOfRow_words.bind fun found => ?_
  cases found with
  | none => exact makes_pure
  | some request =>
    refine readPrefillRange_words.bind fun range => makes_ite makes_pure ?_
    refine Makes.bind (makes_searchEach (fun pageSlot _ => ?_) _ _ _) fun _ => ?_
    · refine (readI32_words _ _ pageSlot).bind fun _ => makes_ite ?_ makes_pure
      exact makes_compute.bind fun _ => makes_pure
    · refine makes_ite makes_pure (makes_compute.bind fun causal => ?_)
      cases causal with
      | none => exact makes_pure
      | some causalKvEnd =>
        refine makes_compute.bind fun _ => makes_compute.bind fun pairs => ?_
        refine (makes_forM (loadWord_words .query) pairs).bind fun _ => ?_
        refine (makes_forEach fun _ => pagedKvPair_words.bind loadKeyValue_words).bind fun _ => ?_
        exact storeResult_words state lane pairs

theorem pagedPrefillTokenParallel_words {warps thread : Nat} :
    Makes IsWord (pagedPrefillTokenParallel batchSize nnzQo maxNumPages numQueryHeads numKvHeads
      qoIndptr pageIndptr pageIndices lastPageLen warps state thread) := by
  refine Makes.bind (makes_compute.bind fun _ => makes_ite makes_pure ?_) fun guard => ?_
  · refine makes_compute.bind fun _ => requestOfRow_words.bind fun found => ?_
    cases found with
    | none => exact makes_pure
    | some request =>
      refine readPrefillRange_words.bind fun range => prefillEndsMatch_words.bind fun _ => ?_
      refine votePages_words.bind fun _ => makes_ite makes_pure (makes_compute.bind fun causal => ?_)
      cases causal with
      | none => exact makes_pure
      | some causalTokenCount => exact makes_pure
  · cases guard with
    | none => exact makes_pure
    | some row => exact makes_compute.bind fun _ => tokenParallelRow_words fun _ => pagedKvPair_words

end Paged

/-! ## Ragged kernels -/

section Ragged

variable {batchSize nnzQo nnzKv numQueryHeads numKvHeads state : Nat}
  {qoIndptr kvIndptr : Slice Int32}

theorem raggedEndsMatch_words :
    Makes IsWord (raggedEndsMatch batchSize nnzQo nnzKv qoIndptr kvIndptr) := by
  refine (readI32_words _ _ 0).bind fun _ => makes_ite makes_pure ?_
  refine (readI32_words _ _ 0).bind fun _ => makes_ite makes_pure ?_
  refine (readI32_words _ _ batchSize).bind fun _ => makes_ite makes_pure ?_
  exact (readI32_words _ _ batchSize).bind fun _ => makes_pure

theorem raggedRequest_words {queryRow : Nat} :
    Makes IsWord (raggedRequest batchSize qoIndptr queryRow) := by
  refine makes_searchEach (fun request _ => makes_compute.bind fun next => ?_) _ _ _
  exact (readI32_words _ _ next).bind fun _ => makes_ite makes_pure makes_pure

theorem readRaggedRange_words {request : Nat} :
    Makes IsWord (readRaggedRange qoIndptr kvIndptr request) := by
  refine makes_compute.bind fun next => (readI32_words _ _ request).bind fun _ => ?_
  refine (readI32_words _ _ next).bind fun _ => (readI32_words _ _ request).bind fun _ => ?_
  exact (readI32_words _ _ next).bind fun _ => makes_pure

theorem raggedPrefill_words {lane : Nat} :
    Makes IsWord (raggedPrefill batchSize nnzQo nnzKv numQueryHeads numKvHeads qoIndptr kvIndptr
      state lane) := by
  refine makes_compute.bind fun _ => makes_ite makes_pure ?_
  refine raggedEndsMatch_words.bind fun _ => makes_ite makes_pure ?_
  refine makes_compute.bind fun _ => raggedRequest_words.bind fun found => ?_
  cases found with
  | none => exact makes_pure
  | some request =>
    refine readRaggedRange_words.bind fun range => makes_ite makes_pure ?_
    refine makes_compute.bind fun lengths => makes_ite makes_pure ?_
    refine makes_compute.bind fun _ => makes_compute.bind fun _ => makes_compute.bind fun pairs => ?_
    refine (makes_forM (loadWord_words .query) pairs).bind fun _ => ?_
    refine (makes_forEach fun _ => makes_compute.bind loadKeyValue_words).bind fun _ => ?_
    exact storeResult_words state lane pairs

theorem raggedPrefillTokenParallel_words {warps thread : Nat} :
    Makes IsWord (raggedPrefillTokenParallel batchSize nnzQo nnzKv numQueryHeads numKvHeads qoIndptr
      kvIndptr warps state thread) := by
  refine makes_compute.bind fun _ => makes_ite makes_pure ?_
  refine makes_compute.bind fun _ => raggedRequest_words.bind fun found => ?_
  cases found with
  | none => exact makes_pure
  | some request =>
    refine readRaggedRange_words.bind fun range => raggedEndsMatch_words.bind fun _ => ?_
    refine makes_ite makes_pure (makes_compute.bind fun lengths => makes_ite makes_pure ?_)
    refine makes_compute.bind fun _ => makes_compute.bind fun _ => ?_
    exact tokenParallelRow_words fun _ => makes_compute

theorem raggedPrefillTiledGqa4Merge_words {workspaceLen lane : Nat} {populated : Nat → Bool} :
    Makes IsWord (raggedPrefillTiledGqa4Merge nnzQo numQueryHeads workspaceLen populated state
      lane) := by
  refine makes_compute.bind fun _ => makes_ite makes_pure ?_
  refine Makes.bind (makes_forEach fun partition => makes_compute.bind fun offset => ?_) fun _ => ?_
  · refine (readWorkspace_words _ offset).bind fun _ => ?_
    refine (readWorkspace_words _ (offset + 1)).bind fun _ => makes_ite ?_ makes_pure
    exact makes_compute.bind fun indices => makes_forM (readWorkspace_words _) indices
  · exact makes_compute.bind fun pairs => storeResult_words state lane pairs

end Ragged

end LoomKernels.Memory
