import LoomKernels.Memory.RaggedBounds
import LoomKernels.Memory.RmsNorm
import LoomKernels.Memory.Words

/-!
# Alignment of packed accesses

Before a launch the host asks that every packed array starts at a multiple of four. For the words of
two elements that is enough. The tiled kernel also copies tiles of keys and values sixteen bytes at a
time, for which nothing more is asked: its packed accesses are aligned exactly when the keys and the
values start at multiples of sixteen, or no block has a tile to copy (`packedAccesses_aligned_iff`).
-/

namespace LoomKernels.Memory

/-! ## Accesses of the tiled kernel -/

/-- The arrays between which tiles are copied. -/
def KernelBuffer.copied : KernelBuffer → Bool
  | .key | .value | .kvTile => true
  | _ => false

/-- A word, or an access to at most sixteen bytes of an array of tiles, at a multiple of its width. -/
def IsTiledAccess (a : ByteAccess KernelBuffer) : Prop :=
  IsWord a ∨ a.buffer.copied = true ∧ a.width ∣ tiledKvCopyBytes ∧ a.width ∣ a.offset

/-- The access is one end of a copy, in `buffer`. -/
def IsCopy (buffer : KernelBuffer) (a : ByteAccess KernelBuffer) : Prop :=
  a.buffer = buffer ∧ a.width = tiledKvCopyBytes

section Makes

variable {batchSize nnzQo nnzKv numQueryHeads numKvHeads tokenEnd thread : Nat} {work : TiledBlock}
  {qoIndptr kvIndptr : Slice Int32}

theorem words_tiled {α : Type} {x : KernelM α} (h : Makes IsWord x) : Makes IsTiledAccess x :=
  h.mono fun _ => Or.inl

theorem makes_any {α : Type} {x : KernelM α} (h : Makes IsTiledAccess x) :
    Makes (fun _ => True) x :=
  h.mono fun _ _ => trivial

/-- A pair offset is a multiple of what the pair in its head is a multiple of. -/
theorem kvPairOffset_dvd {kvHead pair row offset : Nat}
    (h : kvPairOffset numKvHeads kvHead pair row = .ok offset) (hp : 4 ∣ pair) : 4 ∣ offset := by
  simp only [kvPairOffset, mulWord_bind_eq_ok, addWord_bind_eq_ok, addWord_eq_ok] at h
  obtain ⟨-, -, -, -, rfl⟩ := h
  exact Nat.dvd_add (Nat.dvd_mul_left_of_dvd (by decide) _) hp

theorem loadTiledKvAsync_makes {buffer : KernelBuffer} {kvTileStart : Nat}
    (hb : buffer.copied = true) :
    Makes IsTiledAccess
      (loadTiledKvAsync numKvHeads work buffer kvTileStart tokenEnd thread) := by
  refine makes_forEach fun iteration => makes_compute.bind fun token => ?_
  refine makes_compute.bind fun _ => makes_compute.bind fun row => ?_
  refine makes_compute_bind fun sourcePair hpair => ?_
  have source : 4 ∣ sourcePair := kvPairOffset_dvd hpair (Nat.dvd_mul_left 4 _)
  have destination : 4 ∣ (thread + iteration * tiledThreads) * tiledKvCopyPairs :=
    Nat.dvd_mul_left 4 _
  refine (makes_touch (Or.inr ⟨hb, dvd_rfl, Nat.mul_dvd_mul_left 4 source⟩)).bind fun _ => ?_
  exact makes_touch (Or.inr ⟨rfl, dvd_rfl, Nat.mul_dvd_mul_left 4 destination⟩)

theorem loadQueryFragment_words {componentTile row : Nat} :
    Makes IsWord (loadQueryFragment numQueryHeads work componentTile thread row) := by
  refine makes_compute.bind fun _ => makes_ite (makes_compute.bind fun _ => ?_) makes_pure
  refine makes_compute.bind fun _ => makes_compute.bind fun first => ?_
  exact (loadWord_words .query first).bind fun _ => makes_compute.bind (loadWord_words .query)

theorem loadKeyFragment_words {componentTile subtile : Nat} :
    Makes IsWord (loadKeyFragment componentTile thread subtile) :=
  (loadWord_words .kvTile _).bind fun _ => loadWord_words .kvTile _

theorem loadValueFragment_makes {part d : Nat} :
    Makes IsTiledAccess (loadValueFragment thread part d) := by
  refine makes_forM (fun row => makes_touch (Or.inr ⟨rfl, ?_, Nat.dvd_mul_right 2 _⟩)) _
  change 2 ∣ 16
  decide

/-- What a pass does after it has copied its tile of values. -/
theorem tileOutputs_makes {kvTileStart : Nat} : Makes IsTiledAccess (do
    forEach 0 4 fun part => forEach 0 16 (loadValueFragment thread part)
    let _next ← compute (addWord 64 kvTileStart tiledKvRows)) := by
  refine Makes.bind (makes_forEach fun _ => makes_forEach fun _ => loadValueFragment_makes) ?_
  exact fun _ => makes_compute.bind fun _ => makes_pure

/-- What a pass does after it has copied its tile of keys. -/
theorem tiledTilePass_eq (kvTileStart : Nat) : ∃ rest : Unit → KernelM Unit,
    tiledTilePass numQueryHeads numKvHeads work tokenEnd thread kvTileStart =
      loadTiledKvAsync numKvHeads work .key kvTileStart tokenEnd thread >>= rest ∧
    Makes IsTiledAccess (rest ()) := by
  refine ⟨_, rfl, Makes.bind (makes_forEach fun componentTile => ?_) fun _ => ?_⟩
  · refine (words_tiled loadQueryFragment_words).bind fun _ => ?_
    refine (words_tiled loadQueryFragment_words).bind fun _ => ?_
    exact makes_forEach fun _ => words_tiled loadKeyFragment_words
  · refine makes_compute.bind fun _ => makes_compute.bind fun _ => ?_
    refine Makes.bind (makes_forEach fun _ => makes_compute.bind fun _ => makes_pure) fun _ => ?_
    exact (loadTiledKvAsync_makes rfl).bind fun _ => tileOutputs_makes

theorem tiledTilePass_makes {kvTileStart : Nat} :
    Makes IsTiledAccess
      (tiledTilePass numQueryHeads numKvHeads work tokenEnd thread kvTileStart) := by
  obtain ⟨rest, eq, makes⟩ := tiledTilePass_eq kvTileStart
  rw [eq]
  exact (loadTiledKvAsync_makes rfl).bind fun _ => makes

theorem writePartialOutput_words {valid : Bool} {offset component : Nat} :
    Makes IsWord (writePartialOutput valid offset component) := by
  refine makes_ite (makes_compute.bind fun first => ?_) makes_pure
  exact (storeWord_words .workspace first).bind fun _ => makes_compute.bind (storeWord_words _)

theorem writePartialHeader_words {valid : Bool} {offset : Nat} :
    Makes IsWord (writePartialHeader valid offset) := by
  refine makes_ite ((storeWord_words .workspace offset).bind fun _ => ?_) makes_pure
  exact makes_compute.bind (storeWord_words .workspace)

theorem writePartials_words : Makes IsWord (writePartials numQueryHeads work thread) := by
  refine makes_compute.bind fun _ => makes_compute.bind fun _ => makes_compute.bind fun _ => ?_
  refine makes_compute.bind fun _ => Makes.bind (makes_forEach fun _ => ?_) fun _ => ?_
  · exact writePartialOutput_words.bind fun _ => writePartialOutput_words
  · refine makes_ite (writePartialHeader_words.bind fun _ => ?_) makes_pure
    exact writePartialHeader_words

theorem tiledWorkOf_words {block : Nat} :
    Makes IsWord (tiledWorkOf batchSize nnzQo nnzKv numKvHeads qoIndptr kvIndptr block) := by
  refine makes_compute.bind fun _ => makes_compute.bind fun _ => ?_
  refine raggedEndsMatch_words.bind fun _ => makes_ite makes_pure ?_
  refine Makes.bind (makes_searchEach (fun request tileIndex => ?_) _ _ _) fun found => ?_
  · refine readRaggedRange_words.bind fun range => makes_ite makes_pure ?_
    refine makes_compute.bind fun _ => makes_ite makes_pure (makes_ite makes_pure ?_)
    exact makes_compute.bind fun _ => makes_pure
  · cases found with
    | none => exact makes_pure
    | some tile => exact makes_compute.bind fun _ => makes_pure

theorem raggedPrefillTiledGqa4_makes {block : Nat} :
    Makes IsTiledAccess (raggedPrefillTiledGqa4 batchSize nnzQo nnzKv numQueryHeads numKvHeads
      qoIndptr kvIndptr block thread) := by
  refine (words_tiled tiledWorkOf_words).bind fun found => ?_
  cases found with
  | none => exact makes_pure
  | some work =>
    refine makes_compute.bind fun _ => makes_compute.bind fun _ => makes_compute.bind fun _ => ?_
    refine (makes_forM (fun _ => tiledTilePass_makes) _).bind fun _ => ?_
    exact words_tiled writePartials_words

end Makes

/-! ## Copies that are made -/

section Reaches

variable {numQueryHeads numKvHeads tokenEnd thread kvTileStart : Nat} {work : TiledBlock}

theorem loadTiledKvAsync_reaches (buffer : KernelBuffer) : Reaches (IsCopy buffer)
    (loadTiledKvAsync numKvHeads work buffer kvTileStart tokenEnd thread) := by
  have passes : List.range' 0 (8 - 0) = 0 :: List.range' 1 7 := rfl
  rw [loadTiledKvAsync, forEach, passes]
  refine reaches_forM ?_ fun _ => ?_
  · refine reaches_after fun _ => reaches_after fun _ => reaches_after fun _ => reaches_after fun _ => ?_
    exact (reaches_touch ⟨rfl, rfl⟩).bind fun _ => makes_touch trivial
  · refine makes_compute.bind fun _ => makes_compute.bind fun _ => makes_compute.bind fun _ => ?_
    exact makes_compute.bind fun _ => (makes_touch trivial).bind fun _ => makes_touch trivial

/-- A pass over a tile copies keys and values. -/
theorem tiledTilePass_reaches {buffer : KernelBuffer} (hb : buffer = .key ∨ buffer = .value) :
    Reaches (IsCopy buffer)
      (tiledTilePass numQueryHeads numKvHeads work tokenEnd thread kvTileStart) := by
  rcases hb with rfl | rfl
  · obtain ⟨rest, eq, makes⟩ := tiledTilePass_eq kvTileStart
    rw [eq]
    exact (loadTiledKvAsync_reaches .key).bind fun _ => makes_any makes
  · refine reaches_after fun _ => reaches_after fun _ => reaches_after fun _ => reaches_after fun _ => ?_
    refine reaches_after fun _ => (loadTiledKvAsync_reaches .value).bind fun _ => ?_
    exact makes_any tileOutputs_makes

/-- A block that has work in a partition with tokens copies keys and values. -/
theorem raggedPrefillTiledGqa4_reaches {spec : Bf16RaggedPrefillSpec}
    {qoIndptr kvIndptr : Slice Int32} {len : KernelBuffer → Nat} {block : Nat}
    (lens : TiledLens len spec) (indptr : IndptrLens len spec.batchSize qoIndptr kvIndptr)
    (found : spec.tiledWork qoIndptr kvIndptr block = .ok (some work))
    (nonempty : work.partitionTokenStart < work.partitionTokenEnd) {buffer : KernelBuffer}
    (hb : buffer = .key ∨ buffer = .value) {trace : List (ByteAccess KernelBuffer)}
    (run : Traces (raggedPrefillTiledGqa4 spec.batchSize spec.nnzQo spec.nnzKv spec.numQueryHeads
      spec.numKvHeads qoIndptr kvIndptr block thread) () trace) :
    ∃ a ∈ trace, IsCopy buffer a := by
  have workSafe : Safe (Contained len fun _ => True) _ _ :=
    tiledWorkOf_safe indptr lens.heads_fit block
  refine workSafe.reaches (fun r hr => ?_) run
  rw [found, Except.ok.injEq] at hr
  subst hr
  have inside := WorkInside.of_work indptr.qo_len indptr.kv_len found
  refine reaches_compute (causalTokenEnd_ok inside) ?_
  refine reaches_compute (partitionCut_ok inside inside.partition.le) ?_
  refine reaches_compute (partitionCut_ok inside inside.partition) ?_
  obtain ⟨rest, passes⟩ := exists_strided_eq_cons (show 0 < tiledKvRows by decide) nonempty
  refine Reaches.bind ?_ fun _ => makes_any (words_tiled writePartials_words)
  change Reaches _ ((strided work.partitionTokenStart _ work.partitionTokenEnd).forM _)
  rw [passes]
  exact reaches_forM (tiledTilePass_reaches hb) fun _ => makes_any tiledTilePass_makes

end Reaches

/-! ## Launches -/

/-- Where a block's tile starts in shared memory; its type asks for a multiple of sixteen. -/
structure TileAddress where
  address : Nat
  aligned : tiledKvCopyBytes ∣ address

/-- A plan that launches the tiled kernels. -/
structure TiledPlan where
  spec : Bf16RaggedPrefillSpec
  plan : Bf16RaggedPrefillPlan
  planned : planBf16Ragged spec = .ok plan
  tiled : plan.algorithm = .tiledGqa4

/-- The attention kernels with packed accesses, as plans launch them. -/
inductive PackedKernel where
  | singleDecode (spec : Bf16SingleDecodeSpec)
  | splitKPartials (spec : Bf16SingleDecodeSplitKSpec)
  | splitKMerge (spec : Bf16SingleDecodeSplitKSpec)
  | pagedBatchDecode (spec : Bf16PagedBatchDecodeSpec)
  | pagedBatchDecodeTokenParallel (spec : Bf16PagedBatchDecodeSpec)
  | pagedPrefill (spec : Bf16PagedPrefillSpec)
  | pagedPrefillTokenParallel (spec : Bf16PagedPrefillSpec) (warps : Nat)
  | raggedPrefill (spec : Bf16RaggedPrefillSpec)
  | raggedPrefillTokenParallel (spec : Bf16RaggedPrefillSpec) (warps : Nat)
  | raggedPrefillTiledGqa4 (plan : TiledPlan)
  | raggedPrefillTiledGqa4Merge (plan : TiledPlan) (populated : Nat → Nat → Bool)

namespace PackedKernel

/-- The blocks of a launch, and the threads of a block. -/
def grid : PackedKernel → Nat × Nat
  | .singleDecode spec => (spec.numQueryHeads, warpThreads)
  | .splitKPartials spec => (spec.partialStateCount, warpThreads)
  | .splitKMerge spec => (spec.decode.numQueryHeads, warpThreads * splitKMergeWarpsPerBlock)
  | .pagedBatchDecode spec => (spec.lseNumel, warpThreads)
  | .pagedBatchDecodeTokenParallel spec =>
    (spec.lseNumel, warpThreads * pagedBatchDecodeWarpsPerBlock)
  | .pagedPrefill spec => (spec.lseNumel, warpThreads)
  | .pagedPrefillTokenParallel spec warps => (spec.lseNumel, warpThreads * warps)
  | .raggedPrefill spec => (spec.lseNumel, warpThreads)
  | .raggedPrefillTokenParallel spec warps => (spec.lseNumel, warpThreads * warps)
  | .raggedPrefillTiledGqa4 plan => (plan.spec.tiledBlocks, tiledThreads)
  | .raggedPrefillTiledGqa4Merge plan _ => (plan.spec.lseNumel, warpThreads)

variable (args : KernelArgs)

/-- The code of a thread. -/
def code : PackedKernel → Nat → Nat → KernelM Unit
  | .singleDecode spec => Memory.singleDecode spec.kvLen spec.numQueryHeads spec.numKvHeads
  | .splitKPartials spec => Memory.splitKPartials spec.decode.kvLen spec.decode.numQueryHeads
      spec.decode.numKvHeads spec.partitions
  | .splitKMerge spec => Memory.splitKMerge spec.decode.numQueryHeads spec.partitions
      (args.workspaceLen.getD 0)
  | .pagedBatchDecode spec => Memory.pagedBatchDecode spec.batchSize spec.maxNumPages
      spec.numQueryHeads spec.numKvHeads args.pageIndptr args.pageIndices args.lastPageLen
  | .pagedBatchDecodeTokenParallel spec => Memory.pagedBatchDecodeTokenParallel spec.batchSize
      spec.maxNumPages spec.numQueryHeads spec.numKvHeads args.pageIndptr args.pageIndices
      args.lastPageLen
  | .pagedPrefill spec => Memory.pagedPrefill spec.batchSize spec.nnzQo spec.maxNumPages
      spec.numQueryHeads spec.numKvHeads args.qoIndptr args.pageIndptr args.pageIndices
      args.lastPageLen
  | .pagedPrefillTokenParallel spec warps => Memory.pagedPrefillTokenParallel spec.batchSize
      spec.nnzQo spec.maxNumPages spec.numQueryHeads spec.numKvHeads args.qoIndptr args.pageIndptr
      args.pageIndices args.lastPageLen warps
  | .raggedPrefill spec => Memory.raggedPrefill spec.batchSize spec.nnzQo spec.nnzKv
      spec.numQueryHeads spec.numKvHeads args.qoIndptr args.kvIndptr
  | .raggedPrefillTokenParallel spec warps => Memory.raggedPrefillTokenParallel spec.batchSize
      spec.nnzQo spec.nnzKv spec.numQueryHeads spec.numKvHeads args.qoIndptr args.kvIndptr warps
  | .raggedPrefillTiledGqa4 plan => Memory.raggedPrefillTiledGqa4 plan.spec.batchSize
      plan.spec.nnzQo plan.spec.nnzKv plan.spec.numQueryHeads plan.spec.numKvHeads args.qoIndptr
      args.kvIndptr
  | .raggedPrefillTiledGqa4Merge plan populated => fun state =>
      Memory.raggedPrefillTiledGqa4Merge plan.spec.nnzQo plan.spec.numQueryHeads
        (args.workspaceLen.getD 0) (populated state) state

/-- What `enqueue_into` of the plan checks of the buffers before the launch. -/
def preflight : PackedKernel → Except EnqueueError Unit
  | .singleDecode _ => args.singleDecodePreflight
  | .splitKPartials spec | .splitKMerge spec => args.splitKPreflight spec
  | .pagedBatchDecode spec | .pagedBatchDecodeTokenParallel spec => args.decodePreflight spec
  | .pagedPrefill spec | .pagedPrefillTokenParallel spec _ => args.pagedPrefillPreflight spec
  | .raggedPrefill spec | .raggedPrefillTokenParallel spec _ => args.raggedPrefillPreflight spec
  | .raggedPrefillTiledGqa4 plan | .raggedPrefillTiledGqa4Merge plan _ =>
    args.tiledPreflight plan.spec plan.plan.workspaceNumel

/-- The kernel copies tiles, and some block has a tile to copy: the indptr arrays start at zero and
end at the totals, and the first request is in range. -/
def CopiesTiles : PackedKernel → Prop
  | .raggedPrefillTiledGqa4 plan => plan.spec.EndsMatch args.qoIndptr args.kvIndptr ∧
      TiledRequestInRange plan.spec.nnzQo plan.spec.nnzKv args.qoIndptr args.kvIndptr 0
  | _ => False

end PackedKernel

/-- The arrays that are accessed by more than one element at a time. -/
def KernelBuffer.isPacked : KernelBuffer → Bool
  | .query | .key | .value | .output | .kvTile => true
  | _ => false

/-- Where an array starts. -/
def KernelArgs.base (args : KernelArgs) (tile : TileAddress) : KernelBuffer → Nat
  | .kvTile => tile.address
  | buffer => args.address buffer

/-- Every access of the launch to a packed array is aligned to its width. -/
def PackedKernel.AccessesAligned (kernel : PackedKernel) (args : KernelArgs) (tile : TileAddress) :
    Prop :=
  ∀ block < kernel.grid.1, ∀ thread < kernel.grid.2,
    Accesses (fun a => a.buffer.isPacked = true → a.Aligned (args.base tile))
      (kernel.code args block thread)

section Aligned

variable {kernel : PackedKernel} {args : KernelArgs} {tile : TileAddress}

theorem PackedKernel.preflight_aligned (launched : kernel.preflight args = .ok ()) :
    args.PackedAligned := by
  cases kernel with
  | singleDecode => exact KernelArgs.requireAlignment_eq_ok.mp launched
  | splitKPartials | splitKMerge => exact KernelArgs.splitKPreflight_aligned launched
  | pagedBatchDecode | pagedBatchDecodeTokenParallel =>
    exact (@KernelArgs.decodePreflight_lens args 1 _ launched).2.2.2
  | pagedPrefill | pagedPrefillTokenParallel =>
    exact (@KernelArgs.pagedPrefillPreflight_lens args 1 _ launched).2.2.2.2
  | raggedPrefill | raggedPrefillTokenParallel =>
    exact (@KernelArgs.raggedPrefillPreflight_lens args 1 _ launched).2.2.2
  | raggedPrefillTiledGqa4 | raggedPrefillTiledGqa4Merge =>
    have preflight := (KernelArgs.tiledPreflight_eq_ok.mp launched).1
    exact (@KernelArgs.raggedPrefillPreflight_lens args 1 _ preflight).2.2.2

/-- Four divides the address of every packed array. -/
theorem KernelArgs.PackedAligned.base (aligned : args.PackedAligned) {buffer : KernelBuffer}
    (packed : buffer.isPacked = true) : 4 ∣ args.base tile buffer := by
  cases buffer with
  | query => exact aligned.query
  | key => exact aligned.key
  | value => exact aligned.value
  | output => exact aligned.output
  | kvTile => exact Nat.dvd_trans (by decide) tile.aligned
  | _ => cases packed

theorem IsWord.aligned {a : ByteAccess KernelBuffer} (h : IsWord a) (aligned : args.PackedAligned)
    (packed : a.buffer.isPacked = true) : a.Aligned (args.base tile) := by
  obtain ⟨width, offset⟩ := h
  rw [ByteAccess.Aligned, width]
  exact Nat.dvd_add (aligned.base packed) offset

/-- A kernel other than the one that copies tiles makes words. -/
theorem PackedKernel.words (other : ∀ plan, kernel ≠ .raggedPrefillTiledGqa4 plan)
    (block thread : Nat) : Makes IsWord (kernel.code args block thread) := by
  cases kernel with
  | singleDecode => exact singleDecode_words
  | splitKPartials => exact splitKPartials_words
  | splitKMerge => exact splitKMerge_words
  | pagedBatchDecode => exact pagedBatchDecode_words
  | pagedBatchDecodeTokenParallel => exact pagedBatchDecodeTokenParallel_words
  | pagedPrefill => exact pagedPrefill_words
  | pagedPrefillTokenParallel => exact pagedPrefillTokenParallel_words
  | raggedPrefill => exact raggedPrefill_words
  | raggedPrefillTokenParallel => exact raggedPrefillTokenParallel_words
  | raggedPrefillTiledGqa4 plan => exact absurd rfl (other plan)
  | raggedPrefillTiledGqa4Merge => exact raggedPrefillTiledGqa4Merge_words

/-- With no tile to copy, a block of the tiled kernel makes words only. -/
theorem tiledWords_of_idle {plan : TiledPlan}
    (launched : args.tiledPreflight plan.spec plan.plan.workspaceNumel = .ok ())
    (idle : ¬ (PackedKernel.raggedPrefillTiledGqa4 plan).CopiesTiles args) (block thread : Nat) :
    Accesses IsWord ((PackedKernel.raggedPrefillTiledGqa4 plan).code args block thread) := by
  have preflight := (KernelArgs.tiledPreflight_eq_ok.mp launched).1
  have indptr := indptrLens_of_preflight preflight tiledWarps
  have lens := tiledLens_of_preflight plan.planned plan.tiled launched
  have workSafe : Safe (Contained (args.len tiledWarps) fun _ => True) _ _ :=
    tiledWorkOf_safe indptr lens.heads_fit block
  obtain ⟨found, trace, run, hfound, -⟩ := workSafe.traces
  have none : found = none := by
    rcases tiledWork_cases indptr.qo_len indptr.kv_len block with none | ⟨ends, request, hr, -⟩
    · rw [none, Except.ok.injEq] at hfound
      exact hfound.symm
    · exact absurd ⟨ends, inRange_of_lt_leading (Nat.zero_lt_of_lt hr)⟩ idle
  subst none
  have whole : Traces ((PackedKernel.raggedPrefillTiledGqa4 plan).code args block thread) () trace :=
    run.bind rfl
  exact whole.accesses_iff.mpr (run.accesses_iff.mp tiledWorkOf_words.accesses)

/-- Where keys and values start at multiples of sixteen, so does every copy. -/
theorem IsTiledAccess.aligned {a : ByteAccess KernelBuffer} (h : IsTiledAccess a)
    (aligned : args.PackedAligned) (key : tiledKvCopyBytes ∣ args.address .key)
    (value : tiledKvCopyBytes ∣ args.address .value) (packed : a.buffer.isPacked = true) :
    a.Aligned (args.base tile) := by
  rcases h with word | ⟨copied, width, offset⟩
  · exact word.aligned aligned packed
  · refine Nat.dvd_add (width.trans ?_) offset
    cases hb : a.buffer with
    | key => exact key
    | value => exact value
    | kvTile => exact tile.aligned
    | _ =>
      rw [hb] at copied
      cases copied

/-- Some block copies a tile of keys and one of values, if the first request is in range. -/
theorem exists_copies {plan : TiledPlan}
    (launched : args.tiledPreflight plan.spec plan.plan.workspaceNumel = .ok ())
    (copies : (PackedKernel.raggedPrefillTiledGqa4 plan).CopiesTiles args) :
    ∃ block < plan.spec.tiledBlocks, ∃ trace,
      Traces ((PackedKernel.raggedPrefillTiledGqa4 plan).code args block 0) () trace ∧
      (∀ a ∈ trace, a.width ∣ a.offset) ∧
      ∀ buffer, buffer = .key ∨ buffer = .value → ∃ a ∈ trace, IsCopy buffer a := by
  obtain ⟨ends, inRange⟩ := copies
  have preflight := (KernelArgs.tiledPreflight_eq_ok.mp launched).1
  have indptr := indptrLens_of_preflight preflight tiledWarps
  have lens := tiledLens_of_preflight plan.planned plan.tiled launched
  have leading : 0 < plan.spec.leading args.qoIndptr args.kvIndptr := by
    refine Nat.pos_of_ne_zero fun zero => ?_
    have stops := not_inRange_leading (zero.trans_lt plan.spec.batch_pos)
    rw [show leadingRequests _ _ _ _ _ = 0 from zero] at stops
    exact stops inRange
  have qoLt := inRange.qo_lt
  have tiles : 0 < requestTiles args.qoIndptr 0 := by
    refine Nat.div_pos ?_ (by decide)
    unfold indptrLen tiledQueryRows
    omega
  obtain ⟨block, ⟨hb, found⟩, -⟩ := existsUnique_work indptr.qo_len indptr.kv_len ends leading
    tiles plan.spec.kvHeads_pos (show 7 < tiledPartitions by decide)
  have contained := (tiled_contained plan.planned plan.tiled launched).partials block 0 (by decide)
  obtain ⟨trace, run, inside⟩ := contained
  refine ⟨block, hb, trace, run, fun a mem => (inside a mem).aligned, fun buffer hbuffer => ?_⟩
  refine raggedPrefillTiledGqa4_reaches lens indptr found ?_ hbuffer run
  -- the last partition has the last token that the tile sees
  have sees : 0 < (workOf args.qoIndptr args.kvIndptr 0 0 0 7).causalTokenEnd :=
    Nat.add_pos_right _ (Nat.lt_min.mpr ⟨Nat.zero_lt_succ 15, Nat.sub_pos_of_lt qoLt⟩)
  unfold TiledBlock.partitionTokenStart TiledBlock.partitionTokenEnd
  change floorCut _ 8 7 < floorCut _ 8 (7 + 1)
  rw [floorCut_last (by decide), floorCut]
  omega

/-- The packed accesses of a launch are aligned unless tiles are copied from keys or values that do
not start at multiples of sixteen. -/
theorem PackedKernel.accessesAligned_iff (launched : kernel.preflight args = .ok ()) :
    kernel.AccessesAligned args tile ↔ (kernel.CopiesTiles args →
      tiledKvCopyBytes ∣ args.address .key ∧ tiledKvCopyBytes ∣ args.address .value) := by
  have aligned := kernel.preflight_aligned launched
  by_cases other : ∀ plan, kernel ≠ .raggedPrefillTiledGqa4 plan
  · refine iff_of_true (fun block _ thread _ => ?_) fun copies => ?_
    · exact ((PackedKernel.words other block thread).mono fun _ word => word.aligned aligned).accesses
    · cases kernel with
      | raggedPrefillTiledGqa4 plan => exact absurd rfl (other plan)
      | _ => exact copies.elim
  rw [not_forall] at other
  obtain ⟨plan, tiled⟩ := other
  rw [not_not] at tiled
  subst tiled
  constructor
  · intro all copies
    obtain ⟨block, hb, trace, run, divides, ends⟩ := exists_copies launched copies
    have inside := run.accesses_iff.mp (all block hb 0 (Nat.zero_lt_succ 127))
    have starts : ∀ buffer, buffer.isPacked = true → buffer = .key ∨ buffer = .value →
        tiledKvCopyBytes ∣ args.base tile buffer := by
      intro buffer packed hbuffer
      obtain ⟨a, mem, rfl, width⟩ := ends buffer hbuffer
      have access := (ByteAccess.aligned_iff (divides a mem)).mp (inside a mem packed)
      rwa [width] at access
    exact ⟨starts .key rfl (Or.inl rfl), starts .value rfl (Or.inr rfl)⟩
  · intro starts block _ thread _
    by_cases copies : (PackedKernel.raggedPrefillTiledGqa4 plan).CopiesTiles args
    · obtain ⟨key, value⟩ := starts copies
      exact (raggedPrefillTiledGqa4_makes.mono
        fun _ access => access.aligned aligned key value).accesses
    · exact (tiledWords_of_idle launched copies block thread).mono
        (fun _ _ words a mem => (words a mem).aligned aligned)
        fun _ _ words a mem => (words a mem).aligned aligned

end Aligned

/-- Every access of a packed RMSNorm kernel to its packed arrays is aligned. -/
theorem rmsNormPacked2_aligned {address : RmsNormBuffer → Nat}
    (launched : rmsNormPacked2Preflight address = .ok ()) {rows hiddenSize block thread : Nat} :
    Accesses (fun a => a.buffer ≠ .warpSums → a.Aligned address)
      (rmsNormPacked2 rows hiddenSize block thread) := by
  simp only [rmsNormPacked2Preflight, check_bind_eq_ok, requirePackedAlignment_eq_ok] at launched
  obtain ⟨input, weight, output⟩ := launched
  refine (rmsNormPacked2_pairs.mono fun a pair global => ?_).accesses
  obtain ⟨width, offset⟩ := pair
  rw [ByteAccess.Aligned, width]
  refine Nat.dvd_add ?_ offset
  cases hb : a.buffer with
  | input => exact input
  | weight => exact weight
  | output => exact output
  | warpSums => exact absurd hb global

/-- A launch of a packed kernel that passes the gates of its host function. -/
inductive PackedLaunch where
  | attention (kernel : PackedKernel) (args : KernelArgs) (tile : TileAddress)
      (launched : kernel.preflight args = .ok ())
  | rmsNorm (address : RmsNormBuffer → Nat) (launched : rmsNormPacked2Preflight address = .ok ())

/-- Every packed access of every thread is aligned to its width. -/
def PackedLaunch.AccessesAligned : PackedLaunch → Prop
  | .attention kernel args tile _ => kernel.AccessesAligned args tile
  | .rmsNorm address _ => ∀ rows hiddenSize block thread,
      Accesses (fun a => a.buffer ≠ .warpSums → a.Aligned address)
        (rmsNormPacked2 rows hiddenSize block thread)

/-- The arrays that are copied in tiles start at multiples of a copy's width. -/
def PackedLaunch.CopiesAligned : PackedLaunch → Prop
  | .attention kernel args _ _ => kernel.CopiesTiles args →
      tiledKvCopyBytes ∣ args.address .key ∧ tiledKvCopyBytes ∣ args.address .value
  | .rmsNorm _ _ => True

/-- The gates of the host are enough for all packed kernels but one. -/
theorem packedAccesses_aligned_iff (launch : PackedLaunch) :
    launch.AccessesAligned ↔ launch.CopiesAligned := by
  cases launch with
  | attention kernel args tile launched => exact PackedKernel.accessesAligned_iff launched
  | rmsNorm address launched =>
    exact iff_of_true (fun _ _ _ _ => rmsNormPacked2_aligned launched) trivial

/-! ## Keys that start at a multiple of four only -/

/-- A tiled launch over 256 tokens, with keys in an allocation from its second element pair on. -/
def misalignedKeyArgs : KernelArgs where
  queryLen := 512
  keyLen := 256 * 128
  valueLen := 256 * 128
  outputLen := 512
  lseLen := 4
  workspaceLen := some (4 * 8 * 130)
  qoIndptr := Slice.ofList [0, 1]
  kvIndptr := Slice.ofList [0, 256]
  pageIndptr := Slice.ofList []
  pageIndices := Slice.ofList []
  lastPageLen := Slice.ofList []
  address
    | .key => 4
    | _ => 0

/-- The plan of the tiled kernel's shape. -/
theorem exists_oneTilePlan : ∃ plan : TiledPlan, plan.spec = oneTileSpec ∧
    plan.plan.workspaceNumel = 4 * 8 * 130 := by
  obtain ⟨plan, planned⟩ := oneTile_planned
  obtain ⟨algorithm, -, workspace⟩ := planBf16Ragged_eq_ok planned
  have picked : raggedPrefillAlgorithm oneTileSpec = .tiledGqa4 := by decide
  exact ⟨⟨oneTileSpec, plan, planned, algorithm.trans picked⟩, rfl, workspace picked⟩

/-- The same launch with all arrays at the start of their allocations. -/
theorem packedAccesses_aligned_oneTile : ∃ plan : TiledPlan, plan.spec = oneTileSpec ∧
    (PackedKernel.raggedPrefillTiledGqa4 plan).AccessesAligned
      { misalignedKeyArgs with address := fun _ => 0 } ⟨0, Nat.dvd_zero tiledKvCopyBytes⟩ := by
  obtain ⟨plan, spec, workspace⟩ := exists_oneTilePlan
  have launched : (PackedKernel.raggedPrefillTiledGqa4 plan).preflight
      { misalignedKeyArgs with address := fun _ => 0 } = .ok () := by
    rw [PackedKernel.preflight, spec, workspace]
    rfl
  have starts : tiledKvCopyBytes ∣ 0 := Nat.dvd_zero tiledKvCopyBytes
  exact ⟨plan, spec, (packedAccesses_aligned_iff (.attention _ _ _ launched)).mpr
    fun _ => ⟨starts, starts⟩⟩

theorem misalignedKey_launched : ∃ plan : TiledPlan, plan.spec = oneTileSpec ∧
    (PackedKernel.raggedPrefillTiledGqa4 plan).preflight misalignedKeyArgs = .ok () ∧
    ¬ (PackedKernel.raggedPrefillTiledGqa4 plan).AccessesAligned misalignedKeyArgs
      ⟨0, Nat.dvd_zero tiledKvCopyBytes⟩ := by
  obtain ⟨plan, spec, workspace⟩ := exists_oneTilePlan
  have launched : (PackedKernel.raggedPrefillTiledGqa4 plan).preflight misalignedKeyArgs =
      .ok () := by
    rw [PackedKernel.preflight, spec, workspace]
    rfl
  refine ⟨plan, spec, launched, fun aligned => ?_⟩
  have copies : (PackedKernel.raggedPrefillTiledGqa4 plan).CopiesTiles misalignedKeyArgs := by
    rw [PackedKernel.CopiesTiles, spec]
    exact ⟨by change TiledEndsMatch 1 256 _ _ 1; decide, by decide⟩
  obtain ⟨key, -⟩ := (PackedKernel.accessesAligned_iff launched).mp aligned copies
  exact absurd key (by decide)

end LoomKernels.Memory
