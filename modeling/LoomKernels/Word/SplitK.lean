import LoomKernels.Host.SingleDecode
import LoomKernels.Word.Attention

/-!
# The split-K references on words of any size

Partials, merge, and the reference that runs one after the other over the caller's workspace. On
arguments that pass their checks neither stage has a defect. The composed reference checks the
output and the log-sum-exp only in its second stage, when the first has already written the
workspace; `SplitKBuffers` keeps the three buffers together to say so.
-/

namespace LoomKernels.Word

/-- The buffers of the split-K reference. -/
structure SplitKBuffers (F B : Type) where
  workspace : Nat → F
  out : AttentionOut F B

section SplitK

variable {F B : Type} (ops : FloatOps F B) {w : Nat}

/-! ## Partials -/

/-- The checks of the partials reference. -/
def checkPartials (query key value : Slice B) (workspaceLen : Nat)
    (spec : Bf16SingleDecodeSplitKSpec w) : Machine HostFailure Unit := do
  lift (requireLen "Q" query.len (← spec.decode.queryNumel))
  lift (requireLen "K" key.len (← spec.decode.kvNumel))
  lift (requireLen "V" value.len (← spec.decode.kvNumel))
  lift (requireLen "workspace" workspaceLen (← spec.workspaceNumel))

/-- The token loop of one partition. -/
def partialLoop (w : Nat) (query key value : Slice B) (queryOffset offset : Nat)
    (kvOffset : Nat → Machine HostFailure Nat) (tokenStart tokenEnd : Nat) (workspace : Nat → F) :
    Machine HostFailure (PartialLocals F) :=
  forRangeM tokenStart tokenEnd
    (fun token row => do
      let kv ← kvOffset token
      let product ← dot ops w query key queryOffset kv
      let head ← valueHead w value kv
      return ops.partialStep offset (token == tokenStart)
        (ops.mul (ops.mul product ops.softmaxScale) ops.log2e) (fun c => ops.toF32 (head c)) row)
    ⟨ops.zero, ops.zero, workspace⟩

/-- One partition of one query head. -/
def partialState (query key value : Slice B) (workspaceLen : Nat)
    (spec : Bf16SingleDecodeSplitKSpec w) (queryHead queryOffset kvHead part : Nat) :
    Program HostFailure (Nat → F) Unit := do
  let (tokenStart, tokenEnd) ← compute (do
    lift (expect (← spec.partitionTokenRange part)
      "enumerated partition is inside the validated specification"))
  let offset ← compute (do
    lift (expect (← spec.partialStateOffset queryHead part)
      "enumerated state is inside the validated specification"))
  compute (do
    rangeInBounds offset (← addWord w offset singleDecodePartialStateWidth) workspaceLen)
  modify (writeRange (offset + 2) singleDecodeHeadDim fun _ => ops.zero)
  let row ← compute (partialLoop ops w query key value queryOffset offset
    (contiguousOffset w spec.decode.numKvHeads kvHead) tokenStart tokenEnd (← get))
  set (Function.update (Function.update row.workspace offset row.maxScoreLog2) (offset + 1)
    row.normalizer)

def singleDecodeBf16SplitKPartialsReference (query key value : Slice B) (workspaceLen : Nat)
    (spec : Bf16SingleDecodeSplitKSpec w) : Program HostFailure (Nat → F) Unit := do
  compute (checkPartials query key value workspaceLen spec)
  forEach 0 spec.decode.numQueryHeads fun queryHead => do
    let queryOffset ← compute (mulWord w queryHead singleDecodeHeadDim)
    let kvHead ← compute (do
      lift (expect (← spec.decode.kvHeadForQueryHead queryHead)
        "enumerated query head is inside the validated specification"))
    forEach 0 spec.partitions
      (partialState ops query key value workspaceLen spec queryHead queryOffset kvHead)

/-! ## Merge -/

/-- The checks of the merge reference. -/
def checkMerge (workspaceLen outputLen lseLen : Nat) (spec : Bf16SingleDecodeSplitKSpec w) :
    Machine HostFailure Unit := do
  lift (requireLen "workspace" workspaceLen (← spec.workspaceNumel))
  lift (requireLen "O" outputLen (← spec.decode.outputNumel))
  lift (requireLen "LSE" lseLen spec.decode.lseNumel)

/-- The partition loop of one query head. -/
def mergeLoop (workspace : Slice F) (spec : Bf16SingleDecodeSplitKSpec w) (queryHead : Nat) :
    Machine HostFailure (SoftmaxState F Nat) :=
  forRangeM 0 spec.partitions
    (fun part s => do
      let offset ← lift (expect (← spec.partialStateOffset queryHead part)
        "enumerated state is inside the validated specification")
      rangeInBounds offset (← addWord w offset singleDecodePartialStateWidth) workspace.len
      return ops.mergeStep (part == 0) (readState workspace.get offset) s)
    ops.softmaxInit

def singleDecodeBf16SplitKMergeReference (workspace : Slice F) (outputLen lseLen : Nat)
    (spec : Bf16SingleDecodeSplitKSpec w) : Program HostFailure (AttentionOut F B) Unit := do
  compute (checkMerge workspace.len outputLen lseLen spec)
  forEach 0 lseLen fun queryHead => do
    let s ← compute (mergeLoop ops workspace spec queryHead)
    storeRow ops w outputLen lseLen queryHead s (ops.add s.max (ops.log2 s.norm))

/-- Partials, then the merge, on the caller's workspace. -/
def singleDecodeBf16SplitKReference (query key value : Slice B)
    (workspaceLen outputLen lseLen : Nat) (spec : Bf16SingleDecodeSplitKSpec w) :
    Program HostFailure (SplitKBuffers F B) Unit := do
  onPart SplitKBuffers.workspace (fun buffers workspace => { buffers with workspace })
    (singleDecodeBf16SplitKPartialsReference ops query key value workspaceLen spec)
  let buffers ← get
  onPart SplitKBuffers.out (fun buffers out => { buffers with out })
    (singleDecodeBf16SplitKMergeReference ops ⟨workspaceLen, buffers.workspace⟩ outputLen lseLen spec)

/-! ## Neither stage has a defect -/

theorem checkPartials_eq_ok {query key value : Slice B} {workspaceLen : Nat}
    {spec : Bf16SingleDecodeSplitKSpec w} :
    checkPartials query key value workspaceLen spec = .ok () ↔
      query.len = spec.decode.numQueryHeads * singleDecodeHeadDim ∧
      key.len = spec.decode.kvLen * spec.decode.numKvHeads * singleDecodeHeadDim ∧
      value.len = spec.decode.kvLen * spec.decode.numKvHeads * singleDecodeHeadDim ∧
      workspaceLen =
        spec.decode.numQueryHeads * spec.partitions * singleDecodePartialStateWidth := by
  simp only [checkPartials, spec.decode.queryNumel_ok, spec.decode.kvNumel_ok, spec.workspaceNumel_ok,
    ok_bind, check_bind_eq_ok, lift_eq_ok, requireLen_eq_ok]

theorem checkMerge_eq_ok {workspaceLen outputLen lseLen : Nat}
    {spec : Bf16SingleDecodeSplitKSpec w} :
    checkMerge workspaceLen outputLen lseLen spec = .ok () ↔
      workspaceLen = spec.decode.numQueryHeads * spec.partitions * singleDecodePartialStateWidth ∧
      outputLen = spec.decode.numQueryHeads * singleDecodeHeadDim ∧
      lseLen = spec.decode.numQueryHeads := by
  simp only [checkMerge, spec.decode.outputNumel_ok, spec.workspaceNumel_ok, ok_bind,
    check_bind_eq_ok, lift_eq_ok, requireLen_eq_ok, Bf16SingleDecodeSpec.lseNumel]

/-- The locals of a partition after its token loop, over exact offsets. -/
def partialRow (spec : Bf16SingleDecodeSplitKSpec w) (query key value : Nat → B)
    (queryHead part : Nat) (workspace : Nat → F) : PartialLocals F :=
  ops.partialLoop query key value (queryHead * singleDecodeHeadDim)
    ((queryHead * spec.partitions + part) * singleDecodePartialStateWidth)
    (fun token => (token * spec.decode.numKvHeads +
      queryHead / (spec.decode.numQueryHeads / spec.decode.numKvHeads)) * singleDecodeHeadDim)
    (balancedCut spec.decode.kvLen spec.partitions part)
    (balancedCut spec.decode.kvLen spec.partitions (part + 1)) workspace

/-- The workspace after one partition. -/
def partialWrite (spec : Bf16SingleDecodeSplitKSpec w) (query key value : Nat → B)
    (queryHead part : Nat) (workspace : Nat → F) : Nat → F :=
  let offset := (queryHead * spec.partitions + part) * singleDecodePartialStateWidth
  let row := partialRow ops spec query key value queryHead part
    (writeRange (offset + 2) singleDecodeHeadDim (fun _ => ops.zero) workspace)
  Function.update (Function.update row.workspace offset row.maxScoreLog2) (offset + 1) row.normalizer

theorem partialState_ends {spec : Bf16SingleDecodeSplitKSpec w} {query key value : Slice B}
    {workspaceLen : Nat} (accepted : checkPartials query key value workspaceLen spec = .ok ())
    {queryHead part : Nat} (hh : queryHead < spec.decode.numQueryHeads) (hp : part < spec.partitions)
    (workspace : Nat → F) {E : Halt HostFailure → (Nat → F) → Prop} :
    Ends (partialState ops query key value workspaceLen spec queryHead
        (queryHead * singleDecodeHeadDim)
        (queryHead / (spec.decode.numQueryHeads / spec.decode.numKvHeads)) part) workspace
      (fun _ after => after =
        partialWrite ops spec query.get key.get value.get queryHead part workspace) E := by
  obtain ⟨hq, hk, hv, hw⟩ := checkPartials_eq_ok.mp accepted
  have query_fits := spec.decode.query_fits
  have workspace_fits := spec.workspace_numel_fits
  have query_end := row_end_le hh singleDecodeHeadDim
  have state_end := row_end_le (rowMajor_lt hh hp) singleDecodePartialStateWidth
  have kvHead := kvHead_lt spec.decode.queryHeads_pos spec.decode.group spec.decode.kvHeads_pos hh
  have stop := cut_le_cut (fun i _ => balancedCut_mono spec.decode.kvLen spec.partitions i)
    (show part + 1 ≤ spec.partitions from hp) le_rfl
  rw [balancedCut_last spec.partitions_pos] at stop
  have loop : ∀ workspace : Nat → F,
      partialLoop ops w query key value (queryHead * singleDecodeHeadDim)
        ((queryHead * spec.partitions + part) * singleDecodePartialStateWidth)
        (contiguousOffset w spec.decode.numKvHeads
          (queryHead / (spec.decode.numQueryHeads / spec.decode.numKvHeads)))
        (balancedCut spec.decode.kvLen spec.partitions part)
        (balancedCut spec.decode.kvLen spec.partitions (part + 1)) workspace =
      .ok (partialRow ops spec query.get key.get value.get queryHead part workspace) := by
    intro workspace
    refine forRangeM_ok _ fun token row _ ht => ?_
    obtain ⟨offset, inside⟩ :=
      contiguousOffset_ok (ht.trans_le stop) kvHead spec.decode.kv_product_fits
    rw [offset, ok_bind, dot_ok ops (by omega) (by omega) (by omega)
      (hk ▸ spec.decode.kv_product_fits), ok_bind, valueHead_ok (by omega)
      (hv ▸ spec.decode.kv_product_fits), ok_bind]
    rfl
  rw [partialState, spec.partitionTokenRange_ok, ok_bind, if_pos hp, expect_some, lift_ok, compute_ok,
    pure_bind]
  dsimp only
  rw [spec.partialStateOffset_ok, ok_bind, if_pos ⟨hh, hp⟩, expect_some, lift_ok, compute_ok,
    pure_bind, addWord_ok (by omega), ok_bind, rangeInBounds_ok (by omega) (by omega), compute_ok,
    pure_bind, ends_bind, ends_modify, ends_bind, ends_get, loop, compute_ok, pure_bind, ends_set]
  rfl

/-- The workspace after all partitions of all query heads. -/
def partialsWorkspace (spec : Bf16SingleDecodeSplitKSpec w) (query key value : Nat → B)
    (workspace : Nat → F) : Nat → F :=
  forRange 0 spec.decode.numQueryHeads
    (fun queryHead => forRange 0 spec.partitions
      (partialWrite ops spec query key value queryHead)) workspace

/-- On buffers that pass the checks, the partials reference writes the states of all partitions. -/
theorem singleDecodeBf16SplitKPartialsReference_ends {spec : Bf16SingleDecodeSplitKSpec w}
    {query key value : Slice B} {workspaceLen : Nat}
    (accepted : checkPartials query key value workspaceLen spec = .ok ()) (workspace : Nat → F)
    {E : Halt HostFailure → (Nat → F) → Prop} :
    Ends (singleDecodeBf16SplitKPartialsReference ops query key value workspaceLen spec) workspace
      (fun _ after => after =
        partialsWorkspace ops spec query.get key.get value.get workspace) E := by
  rw [singleDecodeBf16SplitKPartialsReference, accepted, compute_ok, pure_bind]
  refine ends_forEach
    (P := fun head (after : Nat → F) => after = forRange 0 head
      (fun queryHead => forRange 0 spec.partitions
        (partialWrite ops spec query.get key.get value.get queryHead)) workspace)
    (Nat.zero_le _) rfl ?_
  rintro head _ _ hh rfl
  have query_fits := spec.decode.query_fits
  have query_end := row_end_le hh singleDecodeHeadDim
  have positive : 0 < singleDecodeHeadDim := by decide
  rw [mulWord_ok (by omega), compute_ok, pure_bind, Bf16SingleDecodeSpec.kvHeadForQueryHead,
    kvHeadForQueryHead_ok spec.decode.queryHeads_pos spec.decode.group spec.decode.kvHeads_pos,
    ok_bind, if_pos hh, expect_some, lift_ok, compute_ok, pure_bind, forRange_succ (Nat.zero_le _)]
  refine ends_forEach
    (P := fun part (after : Nat → F) => after = forRange 0 part
      (partialWrite ops spec query.get key.get value.get head) _) (Nat.zero_le _) rfl ?_
  rintro part _ _ hp rfl
  rw [forRange_succ (Nat.zero_le _)]
  exact partialState_ends ops accepted hh hp _

/-- The merged state of a query head. -/
def mergeState (spec : Bf16SingleDecodeSplitKSpec w) (workspace : Nat → F) (queryHead : Nat) :
    SoftmaxState F Nat :=
  forRange 0 spec.partitions
    (fun part => ops.mergeStep (part == 0)
      (readState workspace ((queryHead * spec.partitions + part) * singleDecodePartialStateWidth)))
    ops.softmaxInit

theorem mergeLoop_ok {spec : Bf16SingleDecodeSplitKSpec w} {workspace : Slice F}
    (len : workspace.len =
      spec.decode.numQueryHeads * spec.partitions * singleDecodePartialStateWidth)
    {queryHead : Nat} (hh : queryHead < spec.decode.numQueryHeads) :
    mergeLoop ops workspace spec queryHead = .ok (mergeState ops spec workspace.get queryHead) := by
  refine forRangeM_ok _ fun part s _ hp => ?_
  have workspace_fits := spec.workspace_numel_fits
  have state_end := row_end_le (rowMajor_lt hh hp) singleDecodePartialStateWidth
  rw [spec.partialStateOffset_ok, ok_bind, if_pos ⟨hh, hp⟩, expect_some, lift_ok, ok_bind,
    addWord_ok (by omega), ok_bind, rangeInBounds_ok (by omega) (by omega)]
  rfl

/-- On buffers that pass the checks, the merge reference stores the merged states of all heads. -/
theorem singleDecodeBf16SplitKMergeReference_ends {spec : Bf16SingleDecodeSplitKSpec w}
    {workspace : Slice F} {outputLen lseLen : Nat}
    (accepted : checkMerge workspace.len outputLen lseLen spec = .ok ()) (before : AttentionOut F B)
    {E : Halt HostFailure → AttentionOut F B → Prop} :
    Ends (singleDecodeBf16SplitKMergeReference ops workspace outputLen lseLen spec) before
      (fun _ after => after = forRange 0 spec.decode.numQueryHeads
        (fun queryHead =>
          let s := mergeState ops spec workspace.get queryHead
          ops.storeRow queryHead s (ops.add s.max (ops.log2 s.norm))) before) E := by
  obtain ⟨hw, rfl, rfl⟩ := checkMerge_eq_ok.mp accepted
  rw [singleDecodeBf16SplitKMergeReference, accepted, compute_ok, pure_bind]
  refine ends_forEach
    (P := fun head (after : AttentionOut F B) => after = forRange 0 head
      (fun queryHead =>
        let s := mergeState ops spec workspace.get queryHead
        ops.storeRow queryHead s (ops.add s.max (ops.log2 s.norm))) before)
    (Nat.zero_le _) rfl ?_
  rintro head _ _ hh rfl
  rw [mergeLoop_ok ops hw hh, compute_ok, pure_bind, forRange_succ (Nat.zero_le _)]
  exact storeRow_ends ops hh rfl spec.decode.query_fits _ _ _

/-! ## The two stages together -/

/-- The partials run first, and the merge ends from the workspace that they leave. -/
theorem singleDecodeBf16SplitKReference_ends {spec : Bf16SingleDecodeSplitKSpec w}
    {query key value : Slice B} {workspaceLen outputLen lseLen : Nat}
    (accepted : checkPartials query key value workspaceLen spec = .ok ())
    {before : SplitKBuffers F B} {Q : Unit → SplitKBuffers F B → Prop}
    {E : Halt HostFailure → SplitKBuffers F B → Prop} {workspace : Nat → F}
    (left : partialsWorkspace ops spec query.get key.get value.get before.workspace = workspace)
    (merge : Ends
      (singleDecodeBf16SplitKMergeReference ops ⟨workspaceLen, workspace⟩ outputLen lseLen spec)
      before.out (fun a out => Q a ⟨workspace, out⟩) fun e out => E e ⟨workspace, out⟩) :
    Ends (singleDecodeBf16SplitKReference ops query key value workspaceLen outputLen lseLen spec)
      before Q E := by
  rw [singleDecodeBf16SplitKReference, ends_bind, ends_onPart]
  refine (singleDecodeBf16SplitKPartialsReference_ends ops accepted _).mono ?_ fun _ _ h => h
  rintro _ _ rfl
  rw [ends_bind, ends_get, ends_onPart]
  exact left ▸ merge

end SplitK

end LoomKernels.Word
