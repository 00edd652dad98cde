import LoomKernels.Device.PrefillPlans
import LoomKernels.Device.TiledWorkspace
import LoomKernels.Host.PagePool

/-!
# Rows do not depend on their batch

The results of a request should not change with the requests it is batched with, not in a single
bit. The operations are any here (`DeviceOps.total`, where every difference has a value, as in
hardware). A row of results is computed from the numbers of its query head and of its tokens
(`RowSource`), and rows over the same numbers go through the same operations, so that what a warp
leaves in the components of the head is the same (`mergedState_congr`).

The decode plan picks its kernel by its head counts, so all batches of one model compute the same
bits for the same request (`pagedBatchDecode_batchInvariant`). The prefill plan picks by the pages
there are for a request on average; batches for which it picks the same kernel compute the same bits
for the same row, also where one of them prefills a request in chunks
(`pagedPrefill_batchInvariant`). Where both plans take one warp for a row, decode and prefill agree
as well (`decodeRow_eq_prefillRow`).
-/

namespace LoomKernels

open Memory (PageRequestValid DecodeRowValid PrefillRowValid)

/-! ## Rows and their numbers -/

/-- Where a row of results finds its query head, and the keys and values of its tokens. -/
structure RowSource (B : Type) where
  query : Nat → B
  key : Nat → B
  value : Nat → B
  queryOffset : Nat
  kvOffset : Nat → Nat
  count : Nat

/-- Rows over the same numbers, wherever each of them finds them. -/
structure RowSource.SameNumbers {B : Type} (r r' : RowSource B) : Prop where
  query : ∀ c < 128, r.query (r.queryOffset + c) = r'.query (r'.queryOffset + c)
  count : r.count = r'.count
  key : ∀ token < r.count, ∀ c < 128,
    r.key (r.kvOffset token + c) = r'.key (r'.kvOffset token + c)
  value : ∀ token < r.count, ∀ c < 128,
    r.value (r.kvOffset token + c) = r'.value (r'.kvOffset token + c)

section States

variable {F B : Type} (ops : DeviceOps F B)

/-- What a warp leaves of the tokens `lo..hi` of a row. -/
def DeviceOps.warpState (softmaxScaleLog2 initMax : F) (r : RowSource B) (lo hi : Nat) :
    DeviceM (SoftmaxState F Nat) :=
  ops.tokenLoop softmaxScaleLog2 initMax r.query r.key r.value r.queryOffset
    (fun token => .ok (r.kvOffset token)) lo hi

/-- What the warps of a block leave of a row, once merged. -/
def DeviceOps.mergedState (warps : Nat)
    (merge : Nat → SoftmaxState F Nat → SoftmaxState F Nat → DeviceM (SoftmaxState F Nat))
    (init : SoftmaxState F Nat) (softmaxScaleLog2 : F) (r : RowSource B) :
    DeviceM (SoftmaxState F Nat) :=
  forRangeM 0 warps
    (fun warp s => do
      merge warp s (← ops.warpState softmaxScaleLog2 ops.negInf r (floorCut r.count warps warp)
        (floorCut r.count warps (warp + 1))))
    init

/-! ### The same operations -/

theorem reduceSum_laneDot_congr {query query' key key' : Nat → B}
    {queryOffset queryOffset' offset offset' : Nat}
    (sameQuery : ∀ c < 128, query (queryOffset + c) = query' (queryOffset' + c))
    (sameKey : ∀ c < 128, key (offset + c) = key' (offset' + c)) :
    ops.reduceSum (ops.laneDot query key queryOffset offset) =
      ops.reduceSum (ops.laneDot query' key' queryOffset' offset') := by
  refine congrArg ops.warpSum (funext fun lane => ?_)
  refine forRange_congr _ fun slot acc _ hs => ?_
  have inside := laneComponent_lt lane.isLt hs
  rw [sameQuery _ inside, sameKey _ inside]

/-- A token leaves the same components where it finds the same. -/
theorem tokenStep_restrict (first : Bool) (score : F) {v v' : Nat → F} {s s' : SoftmaxState F Nat}
    (hv : ∀ c < 128, v c = v' c) (hs : s.restrict = s'.restrict) :
    (ops.tokenStep first score v s).map SoftmaxState.restrict =
      (ops.tokenStep first score v' s').map SoftmaxState.restrict := by
  obtain ⟨max, norm, acc⟩ := s
  obtain ⟨max', norm', acc'⟩ := s'
  simp only [SoftmaxState.restrict, SoftmaxState.mk.injEq] at hs
  obtain ⟨rfl, rfl, hacc⟩ := hs
  have component : ∀ c : Fin 128, v c = v' c ∧ acc c = acc' c :=
    fun c => ⟨hv c c.isLt, congrFun hacc c⟩
  cases first with
  | true =>
    simp only [DeviceOps.tokenStep, if_true, Except.map, SoftmaxState.restrict, component]
  | false =>
    simp only [DeviceOps.tokenStep, Bool.false_eq_true, if_false]
    cases ops.ex2Difference max (ops.max max score) with
    | error fault => rfl
    | ok previousWeight =>
      cases ops.ex2Difference score (ops.max max score) with
      | error fault => rfl
      | ok currentWeight =>
        simp only [ok_bind, pure, Except.pure, Except.map, SoftmaxState.restrict, component]

variable {r r' : RowSource B}

/-- Warps over the same numbers leave the same components. -/
theorem warpState_congr (same : r.SameNumbers r') (softmaxScaleLog2 initMax : F) {lo hi : Nat}
    (h : lo ≤ hi) (inside : hi ≤ r.count) :
    (ops.warpState softmaxScaleLog2 initMax r lo hi).map SoftmaxState.restrict =
      (ops.warpState softmaxScaleLog2 initMax r' lo hi).map SoftmaxState.restrict := by
  refine forRangeM_view SoftmaxState.restrict h rfl fun token s s' _ hhi hs => ?_
  have ht := hhi.trans_le inside
  rw [ok_bind, ok_bind]
  dsimp only
  rw [reduceSum_laneDot_congr ops same.query (same.key token ht)]
  refine tokenStep_restrict ops _ _ (fun c hc => ?_) hs
  rw [same.value token ht c hc]

/-- A merge that always has a result, and depends on the components of the head only. -/
structure MergesHeads
    (merge : Nat → SoftmaxState F Nat → SoftmaxState F Nat → DeviceM (SoftmaxState F Nat)) :
    Prop where
  returns : ∀ warp s t, ∃ m, merge warp s t = .ok m
  restrict : ∀ warp {s s' t t' : SoftmaxState F Nat}, s.restrict = s'.restrict →
    t.restrict = t'.restrict →
    (merge warp s t).map SoftmaxState.restrict = (merge warp s' t').map SoftmaxState.restrict

variable {merge : Nat → SoftmaxState F Nat → SoftmaxState F Nat → DeviceM (SoftmaxState F Nat)}

theorem mergedState_congr (merges : MergesHeads merge) (same : r.SameNumbers r') (warps : Nat)
    (init : SoftmaxState F Nat) (softmaxScaleLog2 : F) :
    (ops.mergedState warps merge init softmaxScaleLog2 r).map SoftmaxState.restrict =
      (ops.mergedState warps merge init softmaxScaleLog2 r').map SoftmaxState.restrict := by
  refine forRangeM_view SoftmaxState.restrict (Nat.zero_le warps) rfl fun warp s s' _ hw hs => ?_
  have cut := warpState_congr ops same softmaxScaleLog2 ops.negInf
    (floorCut_mono r.count warps warp) (floorCut_le (show warp + 1 ≤ warps from hw))
  rw [← same.count]
  exact bind_map_view cut fun t t' ht => merges.restrict warp hs ht

/-! ### What is computed -/

/-- A state of a row, as the value that the row gets. -/
def DeviceOps.valueOf (state : DeviceM (SoftmaxState F Nat)) : Option (RowValue F B) :=
  state.toOption.map ops.rowValue

theorem rowValue_restrict {s s' : SoftmaxState F Nat} (h : s.restrict = s'.restrict) :
    (ops.rowValue s).lse = (ops.rowValue s').lse ∧
      ∀ c < 128, (ops.rowValue s).output c = (ops.rowValue s').output c := by
  simp only [SoftmaxState.restrict, SoftmaxState.mk.injEq] at h
  obtain ⟨max, norm, acc⟩ := h
  refine ⟨?_, fun c hc => ?_⟩
  · simp only [DeviceOps.rowValue, max, norm]
  · have component := congrFun acc ⟨c, hc⟩
    dsimp only at component
    simp only [DeviceOps.rowValue, norm, component]

/-- In hardware arithmetic the loop of a warp comes to its end. -/
theorem warpState_total (softmaxScaleLog2 initMax : F) (r : RowSource B) (lo hi : Nat) :
    ∃ s, ops.total.warpState softmaxScaleLog2 initMax r lo hi = .ok s :=
  tokenLoop_total ops softmaxScaleLog2 initMax r.query r.key r.value r.queryOffset r.kvOffset lo hi

theorem mergedState_total (merges : MergesHeads merge) (warps : Nat) (init : SoftmaxState F Nat)
    (softmaxScaleLog2 : F) (r : RowSource B) :
    ∃ s, ops.total.mergedState warps merge init softmaxScaleLog2 r = .ok s := by
  refine forRangeM_total (fun warp s => ?_) init
  obtain ⟨t, run⟩ := warpState_total ops softmaxScaleLog2 ops.negInf r (floorCut r.count warps warp)
    (floorCut r.count warps (warp + 1))
  obtain ⟨m, merged⟩ := merges.returns warp s t
  exact ⟨m, (congrArg (· >>= _) run).trans merged⟩

theorem mergeStates_restrict {s s' t t' : SoftmaxState F Nat} (hs : s.restrict = s'.restrict)
    (ht : t.restrict = t'.restrict) :
    (ops.mergeStates s t).map SoftmaxState.restrict =
      (ops.mergeStates s' t').map SoftmaxState.restrict := by
  obtain ⟨smax, snorm, sacc⟩ := s
  obtain ⟨tmax, tnorm, tacc⟩ := t
  simp only [SoftmaxState.restrict, SoftmaxState.mk.injEq] at hs ht
  obtain ⟨rfl, rfl, hsacc⟩ := hs
  obtain ⟨rfl, rfl, htacc⟩ := ht
  have component : ∀ c : Fin 128, sacc c = s'.acc c ∧ tacc c = t'.acc c :=
    fun c => ⟨congrFun hsacc c, congrFun htacc c⟩
  simp only [DeviceOps.mergeStates]
  cases ops.ex2Difference s'.max (ops.max s'.max t'.max) with
  | error fault => rfl
  | ok mergedWeight =>
    cases ops.ex2Difference t'.max (ops.max s'.max t'.max) with
    | error fault => rfl
    | ok weight =>
      simp only [ok_bind, pure, Except.pure, Except.map, SoftmaxState.restrict, component]

/-- The merge of the prefill kernels. -/
theorem mergeNonempty_mergesHeads : MergesHeads fun _ => ops.total.mergeNonempty where
  returns _ := mergeNonempty_total ops
  restrict _ _ _ _ _ hs ht := mergeNonempty_restrict ops.total hs ht

/-- The merge of the decode kernel. -/
theorem mergeAfterFirst_mergesHeads : MergesHeads fun p => ops.total.mergeAfterFirst (p == 0) where
  returns p s t := by
    unfold DeviceOps.mergeAfterFirst
    split
    · exact ⟨t, rfl⟩
    · split
      · exact ⟨s, rfl⟩
      · exact ⟨_, rfl⟩
  restrict p s s' t t' hs ht := by
    have norm : t.norm = t'.norm := congrArg (fun u : SoftmaxState F (Fin 128) => u.norm) ht
    unfold DeviceOps.mergeAfterFirst
    rw [norm]
    split
    · exact congrArg Except.ok ht
    · split
      · exact congrArg Except.ok hs
      · exact mergeStates_restrict ops.total hs ht

/-! ### Blocks -/

theorem valueOf_ok {state : DeviceM (SoftmaxState F Nat)} {s : SoftmaxState F Nat}
    (run : state = .ok s) : ops.valueOf state = some (ops.rowValue s) := by
  rw [run]
  rfl

/-- One warp writes the value of its row. -/
theorem directRow_value (softmaxScaleLog2 : F) (r : RowSource B) {row lane : Nat}
    (offset : r.queryOffset = row * singleDecodeHeadDim) (hl : lane < warpThreads) :
    ops.total.directRow softmaxScaleLog2 r.query r.key r.value row r.kvOffset 0 r.count lane =
      .ok (rowOrNothing row (ops.total.valueOf (ops.total.warpState softmaxScaleLog2 ops.zero r 0
        r.count)) lane) := by
  obtain ⟨s, run⟩ := warpState_total ops softmaxScaleLog2 ops.zero r 0 r.count
  rw [valueOf_ok ops.total run, ← rowOrNothing_state ops.total row s hl]
  rw [DeviceOps.warpState, offset] at run
  rw [DeviceOps.directRow]
  exact congrArg (· >>= _) run

/-- The warps of a block write the value of its row, whatever the shared memory held. -/
theorem tokenParallelRow_value (merges : MergesHeads merge) (warps : Nat)
    (init : SoftmaxState F Nat) (softmaxScaleLog2 : F) (r : RowSource B) {row : Nat}
    (offset : r.queryOffset = row * singleDecodeHeadDim) (partialStates : Nat → F) (thread : Nat) :
    ops.total.tokenParallelRow warps merge init softmaxScaleLog2 r.query r.key r.value row
        r.kvOffset 0 r.count partialStates thread =
      .ok (rowOrNothing row (ops.total.valueOf (ops.total.mergedState warps merge init
        softmaxScaleLog2 r)) thread) := by
  have loops := fun warp => warpState_total ops softmaxScaleLog2 ops.negInf r
    (floorCut r.count warps warp) (floorCut r.count warps (warp + 1))
  choose states hstates using loops
  obtain ⟨s, run⟩ := mergedState_total ops merges warps init softmaxScaleLog2 r
  rw [valueOf_ok ops.total run]
  have loop : ∀ warp < warps, ops.total.tokenLoop softmaxScaleLog2 ops.total.negInf r.query r.key
      r.value (row * singleDecodeHeadDim) (fun token => .ok (r.kvOffset token))
      (0 + floorCut r.count warps warp) (0 + floorCut r.count warps (warp + 1)) =
      .ok (states warp) := by
    intro warp _
    rw [Nat.zero_add, Nat.zero_add, ← offset]
    exact hstates warp
  obtain ⟨mem, stored, image⟩ := sharedStates_ok partialStates loop
  -- the states that are read back differ from those that were stored beyond the head only
  have read : (mergeShared 0 warps merge init fun p =>
      loadState mem (p * singleDecodePartialStateWidth)).map SoftmaxState.restrict =
      (ops.total.mergedState warps merge init softmaxScaleLog2 r).map SoftmaxState.restrict := by
    refine forRangeM_view SoftmaxState.restrict (Nat.zero_le warps) rfl fun p t t' _ hp ht => ?_
    have kept := loadState_image image hp
    rw [show ops.total.warpState softmaxScaleLog2 ops.total.negInf r (floorCut r.count warps p)
      (floorCut r.count warps (p + 1)) = .ok (states p) from hstates p, ok_bind]
    exact merges.restrict p ht kept
  rw [run] at read
  obtain ⟨m, merged, same⟩ := map_eq_ok.mp read
  rw [DeviceOps.tokenParallelRow, DeviceOps.tokenParallelBlock, stored, ok_bind]
  by_cases first : thread < warpThreads
  · rw [if_neg (by rw [Nat.div_eq_of_lt first]; exact not_not.mpr rfl), merged, ok_bind,
      Nat.mod_eq_of_lt first, storeResult_restrict ops.total same row first,
      rowOrNothing_state ops.total row s first]
    rfl
  · have other : 0 < thread / warpThreads := Nat.div_pos (Nat.le_of_not_lt first) (by decide)
    rw [if_pos other.ne', rowOrNothing, if_neg first]
    rfl

/-- Rows that got the values of states with the same components are the same. -/
theorem sameRow_of_restrict {values values' : Nat → Option (RowValue F B)} {row row' : Nat}
    {state state' : DeviceM (SoftmaxState F Nat)} {s : SoftmaxState F Nat}
    (run : state = .ok s)
    (same : state.map SoftmaxState.restrict = state'.map SoftmaxState.restrict)
    (served : values row = ops.valueOf state) (served' : values' row' = ops.valueOf state')
    (before before' : AttentionOut F B) :
    SameRow (servedOut values before) row (servedOut values' before') row' := by
  rw [run] at same
  obtain ⟨s', run', restricts⟩ := map_eq_ok.mp same.symm
  obtain ⟨sameLse, sameOutput⟩ := rowValue_restrict ops restricts
  obtain ⟨lse, output⟩ := servedOut_some (served.trans (valueOf_ok ops run)) before
  obtain ⟨lse', output'⟩ := servedOut_some (served'.trans (valueOf_ok ops run')) before'
  refine ⟨fun c hc => ?_, ?_⟩
  · rw [output c hc, output' c hc, sameOutput c hc]
  · rw [lse, lse', sameLse]

end States

/-! ## Paged decode -/

section Decode

variable {F B : Type} (ops : DeviceOps F B)

/-- The numbers of a row of paged decode. -/
def Bf16PagedBatchDecodeSpec.rowSource (spec : Bf16PagedBatchDecodeSpec)
    (inputs : PagedDecodeInputs F B) (row : Nat) : RowSource B where
  query := inputs.query
  key := inputs.keyPages
  value := inputs.valuePages
  queryOffset := row * singleDecodeHeadDim
  kvOffset := spec.rowOffset inputs.pageIndptr inputs.pageIndices row
  count := spec.rowLen inputs.pageIndptr inputs.lastPageLen row

/-- What each kernel of paged decode leaves of a row. -/
def DeviceOps.decodeState : Bf16PagedBatchDecodeAlgorithm → F → RowSource B →
    DeviceM (SoftmaxState F Nat)
  | .direct, softmaxScaleLog2, r => ops.warpState softmaxScaleLog2 ops.zero r 0 r.count
  | .tokenParallel8, softmaxScaleLog2, r =>
    ops.mergedState pagedBatchDecodeWarpsPerBlock (fun p => ops.mergeAfterFirst (p == 0))
      ⟨ops.zero, ops.zero, fun _ => ops.zero⟩ softmaxScaleLog2 r

theorem decodeState_congr (algorithm : Bf16PagedBatchDecodeAlgorithm) (softmaxScaleLog2 : F)
    {r r' : RowSource B} (same : r.SameNumbers r') :
    (ops.total.decodeState algorithm softmaxScaleLog2 r).map SoftmaxState.restrict =
      (ops.total.decodeState algorithm softmaxScaleLog2 r').map SoftmaxState.restrict := by
  cases algorithm with
  | direct =>
    have loop := warpState_congr ops.total same softmaxScaleLog2 ops.total.zero
      (Nat.zero_le r.count) le_rfl
    rw [DeviceOps.decodeState, DeviceOps.decodeState, loop, same.count]
  | tokenParallel8 =>
    exact mergedState_congr ops.total (mergeAfterFirst_mergesHeads ops) same
      pagedBatchDecodeWarpsPerBlock _ softmaxScaleLog2

open Classical in
/-- The values of the rows whose requests are valid, in hardware arithmetic. -/
noncomputable def Bf16PagedBatchDecodeSpec.rowValues (spec : Bf16PagedBatchDecodeSpec)
    (inputs : PagedDecodeInputs F B) (row : Nat) : Option (RowValue F B) :=
  if DecodeRowValid spec inputs.pageIndptr inputs.pageIndices inputs.lastPageLen row then
    ops.total.valueOf (ops.total.decodeState (pagedBatchDecodeAlgorithm spec)
      inputs.softmaxScaleLog2 (spec.rowSource inputs row))
  else none

variable {spec : Bf16PagedBatchDecodeSpec} {inputs : PagedDecodeInputs F B}
  (indptrLen_eq : inputs.pageIndptr.len = spec.batchSize + 1)
  (tailLen_eq : inputs.lastPageLen.len = spec.batchSize)
include indptrLen_eq tailLen_eq

theorem pagedBatchDecodeDirect_computes (direct : pagedBatchDecodeAlgorithm spec = .direct) :
    ServesRows ⟨spec.lseNumel, 32⟩
      (ops.total.pagedBatchDecodeDirect spec.batchSize spec.maxNumPages spec.numQueryHeads
        spec.numKvHeads inputs.softmaxScaleLog2 inputs.query inputs.keyPages inputs.valuePages
        inputs.pageIndptr inputs.pageIndices inputs.lastPageLen)
      (spec.rowValues ops inputs) where
  warp := le_rfl
  returns row h lane hl := by
    have loops : ops.total.LoopsReturn inputs.softmaxScaleLog2 inputs.query inputs.keyPages
        inputs.valuePages := fun queryOffset off lo hi _ =>
      tokenLoop_total ops _ _ _ _ _ queryOffset off lo hi
    by_cases valid : PageRequestValid spec.batchSize spec.maxNumPages inputs.pageIndptr
      inputs.pageIndices inputs.lastPageLen (row / spec.numQueryHeads)
    · rw [pagedBatchDecodeDirect_served indptrLen_eq tailLen_eq h loops hl valid,
        Bf16PagedBatchDecodeSpec.rowValues, if_pos ⟨h, valid⟩, direct]
      exact directRow_value ops inputs.softmaxScaleLog2 (spec.rowSource inputs row) rfl hl
    · rw [pagedBatchDecodeDirect_unserved indptrLen_eq tailLen_eq h loops hl valid,
        Bf16PagedBatchDecodeSpec.rowValues, if_neg fun live => valid live.2]
      rfl
  inside row outside := if_neg fun live => absurd live.1 (Nat.not_lt.mpr outside)

theorem pagedBatchDecodeTokenParallel_computes
    (tokenParallel : pagedBatchDecodeAlgorithm spec = .tokenParallel8)
    (partialStates : Nat → Nat → F) :
    ServesRows ⟨spec.lseNumel, 256⟩
      (fun block => ops.total.pagedBatchDecodeTokenParallel spec.batchSize spec.maxNumPages
        spec.numQueryHeads spec.numKvHeads inputs.softmaxScaleLog2 inputs.query inputs.keyPages
        inputs.valuePages inputs.pageIndptr inputs.pageIndices inputs.lastPageLen
        (partialStates block) block)
      (spec.rowValues ops inputs) where
  warp := show 32 ≤ 256 by decide
  returns row h thread _ := by
    by_cases valid : PageRequestValid spec.batchSize spec.maxNumPages inputs.pageIndptr
      inputs.pageIndices inputs.lastPageLen (row / spec.numQueryHeads)
    · rw [pagedBatchDecodeTokenParallel_served indptrLen_eq tailLen_eq h _ _ valid,
        Bf16PagedBatchDecodeSpec.rowValues, if_pos ⟨h, valid⟩, tokenParallel]
      exact tokenParallelRow_value ops (mergeAfterFirst_mergesHeads ops)
        pagedBatchDecodeWarpsPerBlock _ inputs.softmaxScaleLog2 (spec.rowSource inputs row) rfl
        (partialStates row) thread
    · rw [pagedBatchDecodeTokenParallel_unserved indptrLen_eq tailLen_eq h _ _ valid,
        Bf16PagedBatchDecodeSpec.rowValues, if_neg fun live => valid live.2]
      rfl
  inside row outside := if_neg fun live => absurd live.1 (Nat.not_lt.mpr outside)

/-- In hardware arithmetic a paged launch has one outcome, whatever the order of its writes and
whatever its shared memory held. -/
theorem pagedBatchDecodeRun_computes {before after : AttentionOut F B} :
    PagedBatchDecodeRun ops.total spec ⟨spec.lseNumel, (pagedBatchDecodeAlgorithm spec).threads⟩
        inputs before after ↔
      after = servedOut (spec.rowValues ops inputs) before := by
  unfold PagedBatchDecodeRun
  cases algorithm : pagedBatchDecodeAlgorithm spec with
  | direct =>
    exact (pagedBatchDecodeDirect_computes ops indptrLen_eq tailLen_eq algorithm).rowLaunch_iff
  | tokenParallel8 =>
    have computes :=
      pagedBatchDecodeTokenParallel_computes ops indptrLen_eq tailLen_eq algorithm
    constructor
    · rintro ⟨partialStates, launch⟩
      exact (computes partialStates).rowLaunch_iff.mp launch
    · intro eq
      exact ⟨fun _ _ => ops.zero, (computes _).rowLaunch_iff.mpr eq⟩

theorem pagedBatchDecodePlan_computes {plan : Bf16PagedBatchDecodePlan} {launch : PreparedLaunch}
    (planned : DecodeProvider.planBf16PagedBatch spec = .ok (plan, launch))
    {before after : AttentionOut F B} :
    PagedBatchDecodeRun ops.total plan.spec launch.config inputs before after ↔
      after = servedOut (spec.rowValues ops inputs) before := by
  obtain ⟨rfl, config⟩ := DecodeProvider.planBf16PagedBatch_eq_ok planned
  rw [config]
  exact pagedBatchDecodeRun_computes ops indptrLen_eq tailLen_eq

omit indptrLen_eq tailLen_eq in
theorem decodeState_total (algorithm : Bf16PagedBatchDecodeAlgorithm) (softmaxScaleLog2 : F)
    (r : RowSource B) : ∃ s, ops.total.decodeState algorithm softmaxScaleLog2 r = .ok s := by
  cases algorithm with
  | direct => exact warpState_total ops softmaxScaleLog2 ops.zero r 0 r.count
  | tokenParallel8 =>
    exact mergedState_total ops (mergeAfterFirst_mergesHeads ops) pagedBatchDecodeWarpsPerBlock _
      softmaxScaleLog2 r

/-- Two decode batches of any sizes, page tables and page pools, both with grouped heads or both
without: each has one outcome, and rows over the same numbers get the same bits in both. -/
theorem pagedBatchDecode_batchInvariant {spec' : Bf16PagedBatchDecodeSpec}
    {inputs' : PagedDecodeInputs F B}
    (indptrLen_eq' : inputs'.pageIndptr.len = spec'.batchSize + 1)
    (tailLen_eq' : inputs'.lastPageLen.len = spec'.batchSize)
    (grouped : spec.numQueryHeads = spec.numKvHeads ↔ spec'.numQueryHeads = spec'.numKvHeads)
    (scale : inputs.softmaxScaleLog2 = inputs'.softmaxScaleLog2)
    {plan plan' : Bf16PagedBatchDecodePlan} {launch launch' : PreparedLaunch}
    (planned : DecodeProvider.planBf16PagedBatch spec = .ok (plan, launch))
    (planned' : DecodeProvider.planBf16PagedBatch spec' = .ok (plan', launch'))
    (before before' : AttentionOut F B) :
    ∃ after after' : AttentionOut F B,
      (∀ other, PagedBatchDecodeRun ops.total plan.spec launch.config inputs before other ↔
        other = after) ∧
      (∀ other, PagedBatchDecodeRun ops.total plan'.spec launch'.config inputs' before' other ↔
        other = after') ∧
      ∀ row row',
        DecodeRowValid spec inputs.pageIndptr inputs.pageIndices inputs.lastPageLen row →
        DecodeRowValid spec' inputs'.pageIndptr inputs'.pageIndices inputs'.lastPageLen row' →
        (spec.rowSource inputs row).SameNumbers (spec'.rowSource inputs' row') →
        SameRow after row after' row' := by
  refine ⟨servedOut (spec.rowValues ops inputs) before,
    servedOut (spec'.rowValues ops inputs') before',
    fun _ => pagedBatchDecodePlan_computes ops indptrLen_eq tailLen_eq planned,
    fun _ => pagedBatchDecodePlan_computes ops indptrLen_eq' tailLen_eq' planned', ?_⟩
  intro row row' valid valid' same
  -- nothing but the head counts enters the choice of the kernel
  have algorithm : pagedBatchDecodeAlgorithm spec = pagedBatchDecodeAlgorithm spec' := by
    unfold pagedBatchDecodeAlgorithm
    simp only [grouped]
  obtain ⟨s, run⟩ := decodeState_total ops (pagedBatchDecodeAlgorithm spec)
    inputs.softmaxScaleLog2 (spec.rowSource inputs row)
  have served' : spec'.rowValues ops inputs' row' =
      ops.total.valueOf (ops.total.decodeState (pagedBatchDecodeAlgorithm spec)
        inputs.softmaxScaleLog2 (spec'.rowSource inputs' row')) := by
    rw [algorithm, scale]
    exact if_pos valid'
  exact sameRow_of_restrict ops.total run
    (decodeState_congr ops (pagedBatchDecodeAlgorithm spec) inputs.softmaxScaleLog2 same)
    (if_pos valid) served' before before'

end Decode

/-- A request by itself, and the same request as the second of a batch, on another page table. -/
theorem pagedBatchDecode_batchInvariant_secondRequest :
    ∃ after after' : AttentionOut (Ext ℝ) (Ext ℝ),
      PagedBatchDecodeRun (extOps ℝ).total onePageSpec ⟨1, 32⟩
        (.exact (fun i => (i % 128 : ℕ)) (fun i => i + 1) (fun i => 2 * i) (.ofList [0, 1])
          (.ofList [0]) (.ofList [1])) ⟨fun _ => .nan, fun _ => .nan⟩ after ∧
      PagedBatchDecodeRun (extOps ℝ).total twoRequestSpec ⟨2, 32⟩
        (.exact (fun i => (i % 128 : ℕ)) (fun i => i + 1) (fun i => 2 * i) (.ofList [0, 1, 2])
          (.ofList [0, 0]) (.ofList [5, 1])) ⟨fun _ => .negInf, fun _ => .negInf⟩ after' ∧
      SameRow after 0 after' 1 := by
  obtain ⟨after, after', run, run', rows⟩ := @pagedBatchDecode_batchInvariant _ _ (extOps ℝ)
    onePageSpec (.exact (fun i => (i % 128 : ℕ)) (fun i => i + 1) (fun i => 2 * i)
      (.ofList [0, 1]) (.ofList [0]) (.ofList [1])) rfl rfl twoRequestSpec
    (.exact (fun i => (i % 128 : ℕ)) (fun i => i + 1) (fun i => 2 * i) (.ofList [0, 1, 2])
      (.ofList [0, 0]) (.ofList [5, 1])) rfl rfl (by decide) rfl _ _ _ _ rfl rfl
    ⟨fun _ => .nan, fun _ => .nan⟩ ⟨fun _ => .negInf, fun _ => .negInf⟩
  have table : PageTableWellFormed 2 1 (.ofList [0, 1, 2]) (.ofList [0, 0]) (.ofList [5, 1]) :=
    twoRequestSpec.checkPageTable_eq_ok.mp rfl
  refine ⟨after, after', (run after).mpr rfl, (run' after').mpr rfl, rows 0 1 ⟨by decide, ?_⟩
    ⟨by decide, ?_⟩ ⟨fun c hc => ?_, rfl, fun token ht c _ => ?_, fun token ht c _ => ?_⟩⟩
  · exact Memory.requestValid_of_table onePage_wellFormed Nat.one_pos
  · exact Memory.requestValid_of_table table Nat.one_lt_two
  · have column : (0 * 128 + c) % 128 = (1 * 128 + c) % 128 := by omega
    exact congrArg (fun i : ℕ => Ext.fin (i : ℝ)) column
  · obtain rfl : token = 0 := Nat.lt_one_iff.mp ht
    rfl
  · obtain rfl : token = 0 := Nat.lt_one_iff.mp ht
    rfl

/-! ## Paged prefill -/

section Prefill

variable {F B : Type} (ops : DeviceOps F B)

/-- The numbers of a row of paged prefill: its tokens are those the causal mask leaves. -/
def Bf16PagedPrefillSpec.rowSource (spec : Bf16PagedPrefillSpec) (inputs : PagedPrefillInputs F B)
    (row : Nat) : RowSource B where
  query := inputs.query
  key := inputs.keyPages
  value := inputs.valuePages
  queryOffset := row * singleDecodeHeadDim
  kvOffset := spec.rowOffset inputs.qoIndptr inputs.pageIndptr inputs.pageIndices row
  count := spec.rowLen inputs.qoIndptr inputs.pageIndptr inputs.lastPageLen row

/-- What a token-parallel prefill kernel leaves of a row. -/
def DeviceOps.prefillMergedState (warps : Nat) (softmaxScaleLog2 : F) (r : RowSource B) :
    DeviceM (SoftmaxState F Nat) :=
  ops.mergedState warps (fun _ => ops.mergeNonempty) ⟨ops.negInf, ops.zero, fun _ => ops.zero⟩
    softmaxScaleLog2 r

/-- What each kernel of paged prefill leaves of a row. -/
def DeviceOps.prefillState : Bf16PagedPrefillAlgorithm → F → RowSource B →
    DeviceM (SoftmaxState F Nat)
  | .direct, softmaxScaleLog2, r => ops.warpState softmaxScaleLog2 ops.zero r 0 r.count
  | .tokenParallel8, softmaxScaleLog2, r =>
    ops.prefillMergedState tokenParallel8Warps softmaxScaleLog2 r
  | .tokenParallel16, softmaxScaleLog2, r =>
    ops.prefillMergedState tokenParallel16Warps softmaxScaleLog2 r

theorem prefillState_congr (algorithm : Bf16PagedPrefillAlgorithm) (softmaxScaleLog2 : F)
    {r r' : RowSource B} (same : r.SameNumbers r') :
    (ops.total.prefillState algorithm softmaxScaleLog2 r).map SoftmaxState.restrict =
      (ops.total.prefillState algorithm softmaxScaleLog2 r').map SoftmaxState.restrict := by
  have merged := fun warps => mergedState_congr ops.total (mergeNonempty_mergesHeads ops) same warps
    ⟨ops.negInf, ops.zero, fun _ => ops.zero⟩ softmaxScaleLog2
  cases algorithm with
  | direct => exact decodeState_congr ops .direct softmaxScaleLog2 same
  | tokenParallel8 => exact merged tokenParallel8Warps
  | tokenParallel16 => exact merged tokenParallel16Warps

theorem prefillState_total (algorithm : Bf16PagedPrefillAlgorithm) (softmaxScaleLog2 : F)
    (r : RowSource B) : ∃ s, ops.total.prefillState algorithm softmaxScaleLog2 r = .ok s := by
  have merged := fun warps => mergedState_total ops (mergeNonempty_mergesHeads ops) warps
    ⟨ops.negInf, ops.zero, fun _ => ops.zero⟩ softmaxScaleLog2 r
  cases algorithm with
  | direct => exact warpState_total ops softmaxScaleLog2 ops.zero r 0 r.count
  | tokenParallel8 => exact merged tokenParallel8Warps
  | tokenParallel16 => exact merged tokenParallel16Warps

open Classical in
/-- The values of the rows whose requests are valid, in hardware arithmetic. -/
noncomputable def Bf16PagedPrefillSpec.rowValues (spec : Bf16PagedPrefillSpec)
    (inputs : PagedPrefillInputs F B) (state : RowSource B → DeviceM (SoftmaxState F Nat))
    (row : Nat) : Option (RowValue F B) :=
  if PrefillRowValid spec inputs.qoIndptr inputs.pageIndptr inputs.pageIndices
      inputs.lastPageLen row then
    ops.total.valueOf (state (spec.rowSource inputs row))
  else none

variable {spec : Bf16PagedPrefillSpec} {inputs : PagedPrefillInputs F B}
  (qoLen_eq : inputs.qoIndptr.len = spec.batchSize + 1)
  (indptrLen_eq : inputs.pageIndptr.len = spec.batchSize + 1)
  (tailLen_eq : inputs.lastPageLen.len = spec.batchSize)
include qoLen_eq indptrLen_eq tailLen_eq

theorem pagedPrefillDirect_computes : ServesRows ⟨spec.lseNumel, 32⟩
    (ops.total.pagedPrefillDirect spec.batchSize spec.nnzQo spec.maxNumPages spec.numQueryHeads
      spec.numKvHeads inputs.softmaxScaleLog2 inputs.query inputs.keyPages inputs.valuePages
      inputs.qoIndptr inputs.pageIndptr inputs.pageIndices inputs.lastPageLen)
    (spec.rowValues ops inputs (ops.total.prefillState .direct inputs.softmaxScaleLog2)) where
  warp := le_rfl
  returns row h lane hl := by
    by_cases valid : PrefillRowValid spec inputs.qoIndptr inputs.pageIndptr inputs.pageIndices
      inputs.lastPageLen row
    · rw [pagedPrefillDirect_served qoLen_eq indptrLen_eq tailLen_eq h hl valid,
        Bf16PagedPrefillSpec.rowValues, if_pos valid]
      exact directRow_value ops inputs.softmaxScaleLog2 (spec.rowSource inputs row) rfl hl
    · rw [pagedPrefillDirect_unserved qoLen_eq indptrLen_eq tailLen_eq h hl valid,
        Bf16PagedPrefillSpec.rowValues, if_neg valid]
      rfl
  inside row outside := if_neg fun live => absurd live.1 (Nat.not_lt.mpr outside)

theorem pagedPrefillTokenParallelRun_computes {warps : Nat} (hw : 0 < warps)
    {before after : AttentionOut F B} :
    PagedPrefillTokenParallelRun ops.total warps spec ⟨spec.lseNumel, 32 * warps⟩ inputs before
        after ↔
      after = servedOut (spec.rowValues ops inputs
        (ops.total.prefillMergedState warps inputs.softmaxScaleLog2)) before := by
  have serves : ∀ partialStates : Nat → Nat → F, ServesRows ⟨spec.lseNumel, 32 * warps⟩
      (fun block => ops.total.pagedPrefillTokenParallel warps spec.batchSize spec.nnzQo
        spec.maxNumPages spec.numQueryHeads spec.numKvHeads inputs.softmaxScaleLog2 inputs.query
        inputs.keyPages inputs.valuePages inputs.qoIndptr inputs.pageIndptr inputs.pageIndices
        inputs.lastPageLen (partialStates block) block)
      (spec.rowValues ops inputs
        (ops.total.prefillMergedState warps inputs.softmaxScaleLog2)) := by
    intro partialStates
    refine ⟨Nat.le_mul_of_pos_right _ hw, fun row h thread _ => ?_,
      fun row outside => if_neg fun live => absurd live.1 (Nat.not_lt.mpr outside)⟩
    by_cases valid : PrefillRowValid spec inputs.qoIndptr inputs.pageIndptr inputs.pageIndices
      inputs.lastPageLen row
    · rw [pagedPrefillTokenParallel_served qoLen_eq indptrLen_eq tailLen_eq h hw _ _ valid,
        Bf16PagedPrefillSpec.rowValues, if_pos valid]
      exact tokenParallelRow_value ops (mergeNonempty_mergesHeads ops) warps _
        inputs.softmaxScaleLog2 (spec.rowSource inputs row) rfl (partialStates row) thread
    · rw [pagedPrefillTokenParallel_unserved qoLen_eq indptrLen_eq tailLen_eq h hw _ _ valid,
        Bf16PagedPrefillSpec.rowValues, if_neg valid]
      rfl
  constructor
  · rintro ⟨partialStates, launch⟩
    exact (serves partialStates).rowLaunch_iff.mp launch
  · intro eq
    exact ⟨fun _ _ => ops.zero, (serves _).rowLaunch_iff.mpr eq⟩

/-- In hardware arithmetic a paged launch has one outcome. -/
theorem pagedPrefillRun_computes {before after : AttentionOut F B} :
    PagedPrefillRun ops.total spec ⟨spec.lseNumel, (pagedPrefillAlgorithm spec).threads⟩ inputs
        before after ↔
      after = servedOut (spec.rowValues ops inputs (ops.total.prefillState
        (pagedPrefillAlgorithm spec) inputs.softmaxScaleLog2)) before := by
  unfold PagedPrefillRun
  cases pagedPrefillAlgorithm spec with
  | direct =>
    exact (pagedPrefillDirect_computes ops qoLen_eq indptrLen_eq tailLen_eq).rowLaunch_iff
  | tokenParallel8 =>
    exact pagedPrefillTokenParallelRun_computes ops qoLen_eq indptrLen_eq tailLen_eq
      (show 0 < tokenParallel8Warps by decide)
  | tokenParallel16 =>
    exact pagedPrefillTokenParallelRun_computes ops qoLen_eq indptrLen_eq tailLen_eq
      (show 0 < tokenParallel16Warps by decide)

theorem pagedPrefillPlan_computes {plan : Bf16PagedPrefillPlan} {launch : PreparedLaunch}
    (planned : PrefillProvider.planBf16Paged spec = .ok (plan, launch))
    {before after : AttentionOut F B} :
    PagedPrefillRun ops.total plan.spec launch.config inputs before after ↔
      after = servedOut (spec.rowValues ops inputs (ops.total.prefillState
        (pagedPrefillAlgorithm spec) inputs.softmaxScaleLog2)) before := by
  obtain ⟨rfl, config⟩ := PrefillProvider.planBf16Paged_eq_ok planned
  rw [config]
  exact pagedPrefillRun_computes ops qoLen_eq indptrLen_eq tailLen_eq

/-- Two prefill batches for which the plan picks the same kernel: each has one outcome, and rows over
the same numbers get the same bits in both, whether a request is prefilled at once or in chunks. -/
theorem pagedPrefill_batchInvariant {spec' : Bf16PagedPrefillSpec}
    {inputs' : PagedPrefillInputs F B} (qoLen_eq' : inputs'.qoIndptr.len = spec'.batchSize + 1)
    (indptrLen_eq' : inputs'.pageIndptr.len = spec'.batchSize + 1)
    (tailLen_eq' : inputs'.lastPageLen.len = spec'.batchSize)
    (algorithm : pagedPrefillAlgorithm spec = pagedPrefillAlgorithm spec')
    (scale : inputs.softmaxScaleLog2 = inputs'.softmaxScaleLog2)
    {plan plan' : Bf16PagedPrefillPlan} {launch launch' : PreparedLaunch}
    (planned : PrefillProvider.planBf16Paged spec = .ok (plan, launch))
    (planned' : PrefillProvider.planBf16Paged spec' = .ok (plan', launch'))
    (before before' : AttentionOut F B) :
    ∃ after after' : AttentionOut F B,
      (∀ other, PagedPrefillRun ops.total plan.spec launch.config inputs before other ↔
        other = after) ∧
      (∀ other, PagedPrefillRun ops.total plan'.spec launch'.config inputs' before' other ↔
        other = after') ∧
      ∀ row row',
        PrefillRowValid spec inputs.qoIndptr inputs.pageIndptr inputs.pageIndices
          inputs.lastPageLen row →
        PrefillRowValid spec' inputs'.qoIndptr inputs'.pageIndptr inputs'.pageIndices
          inputs'.lastPageLen row' →
        (spec.rowSource inputs row).SameNumbers (spec'.rowSource inputs' row') →
        SameRow after row after' row' := by
  -- one function of the numbers of a row serves both batches
  let state := ops.total.prefillState (pagedPrefillAlgorithm spec) inputs.softmaxScaleLog2
  have state' : ops.total.prefillState (pagedPrefillAlgorithm spec') inputs'.softmaxScaleLog2 =
      state := by
    rw [← algorithm, ← scale]
  refine ⟨servedOut (spec.rowValues ops inputs state) before,
    servedOut (spec'.rowValues ops inputs' state) before',
    fun _ => pagedPrefillPlan_computes ops qoLen_eq indptrLen_eq tailLen_eq planned,
    fun _ => ?_, ?_⟩
  · rw [← state']
    exact pagedPrefillPlan_computes ops qoLen_eq' indptrLen_eq' tailLen_eq' planned'
  intro row row' valid valid' same
  obtain ⟨s, run⟩ := prefillState_total ops (pagedPrefillAlgorithm spec) inputs.softmaxScaleLog2
    (spec.rowSource inputs row)
  exact sameRow_of_restrict ops.total run (prefillState_congr ops _ _ same) (if_pos valid)
    (if_pos valid') before before'

end Prefill

/-- Two tokens prefilled at once, and the second of them as a chunk of its own. -/
theorem pagedPrefill_batchInvariant_secondChunk :
    ∃ after after' : AttentionOut (Ext ℝ) (Ext ℝ),
      PagedPrefillRun (extOps ℝ).total onePagePrefillSpec ⟨2, 32⟩
        (.exact (fun i => (i % 128 : ℕ)) (fun i => i + 1) (fun i => 2 * i) (.ofList [0, 2])
          (.ofList [0, 1]) (.ofList [0]) (.ofList [2])) ⟨fun _ => .nan, fun _ => .nan⟩ after ∧
      PagedPrefillRun (extOps ℝ).total oneTokenPrefillSpec ⟨1, 32⟩
        (.exact (fun i => (i % 128 : ℕ)) (fun i => i + 1) (fun i => 2 * i) (.ofList [0, 1])
          (.ofList [0, 1]) (.ofList [0]) (.ofList [2])) ⟨fun _ => .nan, fun _ => .nan⟩ after' ∧
      SameRow after 1 after' 0 := by
  obtain ⟨after, after', run, run', rows⟩ := @pagedPrefill_batchInvariant _ _ (extOps ℝ)
    onePagePrefillSpec (.exact (fun i => (i % 128 : ℕ)) (fun i => i + 1) (fun i => 2 * i)
      (.ofList [0, 2]) (.ofList [0, 1]) (.ofList [0]) (.ofList [2])) rfl rfl rfl oneTokenPrefillSpec
    (.exact (fun i => (i % 128 : ℕ)) (fun i => i + 1) (fun i => 2 * i) (.ofList [0, 1])
      (.ofList [0, 1]) (.ofList [0]) (.ofList [2])) rfl rfl rfl rfl rfl _ _ _ _ rfl rfl
    ⟨fun _ => .nan, fun _ => .nan⟩ ⟨fun _ => .nan, fun _ => .nan⟩
  have whole : PagedPrefillValid onePagePrefillSpec (.ofList [0, 2]) (.ofList [0, 1]) (.ofList [0])
      (.ofList [2]) := onePagePrefillSpec.checkMetadata_eq_ok.mp rfl
  have chunk : PagedPrefillValid oneTokenPrefillSpec (.ofList [0, 1]) (.ofList [0, 1]) (.ofList [0])
      (.ofList [2]) := oneTokenPrefillSpec.checkMetadata_eq_ok.mp rfl
  -- both launches read the two tokens from page zero
  have offset : ∀ token < 2,
      onePagePrefillSpec.rowOffset (.ofList [0, 2]) (.ofList [0, 1]) (.ofList [0]) 1 token =
        oneTokenPrefillSpec.rowOffset (.ofList [0, 1]) (.ofList [0, 1]) (.ofList [0]) 0 token := by
    decide
  refine ⟨after, after', (run after).mpr rfl, (run' after').mpr rfl, rows 1 0
    (Memory.prefillRowValid_of_valid whole Nat.one_lt_two)
    (Memory.prefillRowValid_of_valid chunk Nat.one_pos)
    ⟨fun c hc => ?_, rfl, fun token ht c _ => ?_, fun token ht c _ => ?_⟩⟩
  · have column : (1 * 128 + c) % 128 = (0 * 128 + c) % 128 := by omega
    exact congrArg (fun i : ℕ => Ext.fin (i : ℝ)) column
  · exact congrArg (fun base : ℕ => Ext.fin (((base + c : ℕ) : ℝ) + 1)) (offset token ht)
  · exact congrArg (fun base : ℕ => Ext.fin (2 * ((base + c : ℕ) : ℝ))) (offset token ht)

/-! ## Decode and prefill -/

/-- Where both plans take one warp for a row, a decode step computes the bits that prefill computes
for the same row: decode asks for it without grouped heads, prefill below the token-parallel
capacity. -/
theorem decodeRow_eq_prefillRow {F B : Type} (ops : DeviceOps F B) {spec : Bf16PagedBatchDecodeSpec}
    {inputs : PagedDecodeInputs F B} {spec' : Bf16PagedPrefillSpec}
    {inputs' : PagedPrefillInputs F B}
    (indptrLen_eq : inputs.pageIndptr.len = spec.batchSize + 1)
    (tailLen_eq : inputs.lastPageLen.len = spec.batchSize)
    (qoLen_eq' : inputs'.qoIndptr.len = spec'.batchSize + 1)
    (indptrLen_eq' : inputs'.pageIndptr.len = spec'.batchSize + 1)
    (tailLen_eq' : inputs'.lastPageLen.len = spec'.batchSize)
    (ungrouped : spec.numQueryHeads = spec.numKvHeads)
    (short : spec'.maxNumPages * pagedPrefillPageSize / spec'.batchSize <
      tokenParallelMinAverageKvLen)
    (scale : inputs.softmaxScaleLog2 = inputs'.softmaxScaleLog2)
    {plan : Bf16PagedBatchDecodePlan} {plan' : Bf16PagedPrefillPlan} {launch launch' : PreparedLaunch}
    (planned : DecodeProvider.planBf16PagedBatch spec = .ok (plan, launch))
    (planned' : PrefillProvider.planBf16Paged spec' = .ok (plan', launch'))
    (before before' : AttentionOut F B) :
    ∃ after after' : AttentionOut F B,
      (∀ other, PagedBatchDecodeRun ops.total plan.spec launch.config inputs before other ↔
        other = after) ∧
      (∀ other, PagedPrefillRun ops.total plan'.spec launch'.config inputs' before' other ↔
        other = after') ∧
      ∀ row row',
        DecodeRowValid spec inputs.pageIndptr inputs.pageIndices inputs.lastPageLen row →
        PrefillRowValid spec' inputs'.qoIndptr inputs'.pageIndptr inputs'.pageIndices
          inputs'.lastPageLen row' →
        (spec.rowSource inputs row).SameNumbers (spec'.rowSource inputs' row') →
        SameRow after row after' row' := by
  have decode : pagedBatchDecodeAlgorithm spec = .direct := if_pos ungrouped
  have prefill : pagedPrefillAlgorithm spec' = .direct := if_pos short
  refine ⟨servedOut (spec.rowValues ops inputs) before,
    servedOut (spec'.rowValues ops inputs' (ops.total.prefillState (pagedPrefillAlgorithm spec')
      inputs'.softmaxScaleLog2)) before',
    fun _ => pagedBatchDecodePlan_computes ops indptrLen_eq tailLen_eq planned,
    fun _ => pagedPrefillPlan_computes ops qoLen_eq' indptrLen_eq' tailLen_eq' planned', ?_⟩
  intro row row' valid valid' same
  -- the two kernels are the same function of the numbers of a row
  have served' : spec'.rowValues ops inputs' (ops.total.prefillState (pagedPrefillAlgorithm spec')
      inputs'.softmaxScaleLog2) row' = ops.total.valueOf (ops.total.decodeState
        (pagedBatchDecodeAlgorithm spec) inputs.softmaxScaleLog2 (spec'.rowSource inputs' row')) := by
    rw [decode, prefill, scale]
    exact if_pos valid'
  obtain ⟨s, run⟩ := decodeState_total ops (pagedBatchDecodeAlgorithm spec) inputs.softmaxScaleLog2
    (spec.rowSource inputs row)
  exact sameRow_of_restrict ops.total run (decodeState_congr ops _ _ same) (if_pos valid) served'
    before before'

/-- Two requests share a page; the longer one is decoded as the second of its batch and prefilled as
the first of another. -/
theorem decodeRow_eq_prefillRow_sharedPage :
    ∃ after after' : AttentionOut (Ext ℝ) (Ext ℝ),
      PagedBatchDecodeRun (extOps ℝ).total twoRequestSpec ⟨2, 32⟩
        (.exact (fun i => (i % 128 : ℕ)) (fun i => i + 1) (fun i => 2 * i) (.ofList [0, 1, 2])
          (.ofList [0, 0]) (.ofList [1, 2])) ⟨fun _ => .nan, fun _ => .nan⟩ after ∧
      PagedPrefillRun (extOps ℝ).total twoQuerySpec ⟨2, 32⟩
        (.exact (fun i => (i % 128 : ℕ)) (fun i => i + 1) (fun i => 2 * i) (.ofList [0, 1, 2])
          (.ofList [0, 1, 2]) (.ofList [0, 0]) (.ofList [2, 1])) ⟨fun _ => .nan, fun _ => .nan⟩
        after' ∧
      SameRow after 1 after' 0 := by
  obtain ⟨after, after', run, run', rows⟩ := @decodeRow_eq_prefillRow _ _ (extOps ℝ) twoRequestSpec
    (.exact (fun i => (i % 128 : ℕ)) (fun i => i + 1) (fun i => 2 * i) (.ofList [0, 1, 2])
      (.ofList [0, 0]) (.ofList [1, 2])) twoQuerySpec
    (.exact (fun i => (i % 128 : ℕ)) (fun i => i + 1) (fun i => 2 * i) (.ofList [0, 1, 2])
      (.ofList [0, 1, 2]) (.ofList [0, 0]) (.ofList [2, 1])) rfl rfl rfl rfl rfl rfl (by decide) rfl
    _ _ _ _ rfl rfl ⟨fun _ => .nan, fun _ => .nan⟩ ⟨fun _ => .nan, fun _ => .nan⟩
  have metadata : PagedPrefillValid twoQuerySpec (.ofList [0, 1, 2]) (.ofList [0, 1, 2])
      (.ofList [0, 0]) (.ofList [2, 1]) := twoQuerySpec.checkMetadata_eq_ok.mp rfl
  -- both launches read the two tokens from page zero
  have offset : ∀ token < 2,
      twoRequestSpec.rowOffset (.ofList [0, 1, 2]) (.ofList [0, 0]) 1 token =
        twoQuerySpec.rowOffset (.ofList [0, 1, 2]) (.ofList [0, 1, 2]) (.ofList [0, 0]) 0 token := by
    decide
  refine ⟨after, after', (run after).mpr rfl, (run' after').mpr rfl, rows 1 0
    ⟨Nat.one_lt_two, Memory.requestValid_of_table sharedPage_wellFormed Nat.one_lt_two⟩
    (Memory.prefillRowValid_of_valid metadata Nat.two_pos)
    ⟨fun c hc => ?_, rfl, fun token ht c _ => ?_, fun token ht c _ => ?_⟩⟩
  · have column : (1 * 128 + c) % 128 = (0 * 128 + c) % 128 := by omega
    exact congrArg (fun i : ℕ => Ext.fin (i : ℝ)) column
  · exact congrArg (fun base : ℕ => Ext.fin (((base + c : ℕ) : ℝ) + 1)) (offset token ht)
  · exact congrArg (fun base : ℕ => Ext.fin (2 * ((base + c : ℕ) : ℝ))) (offset token ht)

end LoomKernels
