import LoomKernels.Host.ReferenceRow
import LoomKernels.Lib.Cuts

/-!
# Single decode and split-K

The contiguous single-decode contract, its split-K form and their references. Split-K cuts the
tokens of a row into balanced partitions, leaves one unnormalized state for each query head and
partition in a workspace, and merges the states of a head.

Both references compute the attention of the same tokens: `singleDecodeBf16Reference_exact` for the
direct one, `splitKPartialsReference_exact` and `splitKMergeReference_exact` for the two stages of
split-K. So they compute the same results (`splitK_eq_direct`).
-/

namespace LoomKernels

/-! ## Specifications -/

/-- A decode contract that `new` accepts. The scale of a contract is always
`FloatOps.softmaxScale`, since the head dimension is. -/
structure Bf16SingleDecodeSpec where
  kvLen : Nat
  numQueryHeads : Nat
  numKvHeads : Nat
  kvLen_pos : 0 < kvLen
  queryHeads_pos : 0 < numQueryHeads
  kvHeads_pos : 0 < numKvHeads
  group : numQueryHeads % numKvHeads = 0
  query_fits : numQueryHeads * singleDecodeHeadDim < usizeSize
  token_fits : numKvHeads * singleDecodeHeadDim < usizeSize
  kv_fits : kvLen * (numKvHeads * singleDecodeHeadDim) < usizeSize

namespace Bf16SingleDecodeSpec

def new (kvLen numQueryHeads numKvHeads headDim : Nat) : Host Bf16SingleDecodeSpec :=
  if zero : kvLen = 0 ∨ numQueryHeads = 0 ∨ numKvHeads = 0 ∨ headDim = 0 then fail .zeroDimension
  else if dim : headDim ≠ singleDecodeHeadDim then
    fail (.unsupportedHeadDimension singleDecodeHeadDim headDim)
  else if group : numQueryHeads % numKvHeads ≠ 0 then
    fail (.invalidHeadMapping numQueryHeads numKvHeads)
  -- three `checked_mul`s with one error
  else if fits : numQueryHeads * headDim < usizeSize ∧ numKvHeads * headDim < usizeSize ∧
      kvLen * (numKvHeads * headDim) < usizeSize then
    have dim := headDim_supported dim
    .ok {
      kvLen, numQueryHeads, numKvHeads
      kvLen_pos := by omega
      queryHeads_pos := by omega
      kvHeads_pos := by omega
      group := heads_divide group
      query_fits := dim ▸ fits.1
      token_fits := dim ▸ fits.2.1
      kv_fits := dim ▸ fits.2.2 }
  else fail .elementCountOverflow

/-- `new` accepts every specification there is. -/
theorem new_self (spec : Bf16SingleDecodeSpec) :
    new spec.kvLen spec.numQueryHeads spec.numKvHeads singleDecodeHeadDim = .ok spec := by
  have h1 := spec.kvLen_pos
  have h2 := spec.queryHeads_pos
  have h3 := spec.kvHeads_pos
  rw [new, dif_neg (by simp only [singleDecodeHeadDim]; omega), dif_neg (by simp),
    dif_neg (not_not.mpr spec.group), dif_pos ⟨spec.query_fits, spec.token_fits, spec.kv_fits⟩]

variable (spec : Bf16SingleDecodeSpec)

def gqaGroupSize : Nat := spec.numQueryHeads / spec.numKvHeads

def queryNumel : Nat := spec.numQueryHeads * singleDecodeHeadDim

def kvNumel : Nat := spec.kvLen * spec.numKvHeads * singleDecodeHeadDim

def outputNumel : Nat := spec.queryNumel

def lseNumel : Nat := spec.numQueryHeads

def kvHeadForQueryHead (queryHead : Nat) : Option Nat :=
  if queryHead < spec.numQueryHeads then some (queryHead / spec.gqaGroupSize) else none

end Bf16SingleDecodeSpec

/-- A split-K contract that `new` accepts. -/
structure Bf16SingleDecodeSplitKSpec where
  decode : Bf16SingleDecodeSpec
  partitions : Nat
  partitions_pos : 0 < partitions
  partitions_le : partitions ≤ decode.kvLen
  workspace_fits :
    decode.numQueryHeads * partitions * singleDecodePartialStateWidth * 4 < usizeSize

namespace Bf16SingleDecodeSplitKSpec

def new (decode : Bf16SingleDecodeSpec) (partitions : Nat) : Host Bf16SingleDecodeSplitKSpec :=
  if range : partitions = 0 ∨ partitions > decode.kvLen then
    fail (.invalidPartitionCount partitions decode.kvLen)
  -- the last product bounds the ones before it
  else if fits :
      decode.numQueryHeads * partitions * singleDecodePartialStateWidth * 4 < usizeSize then
    .ok {
      decode, partitions
      partitions_pos := by omega
      partitions_le := by omega
      workspace_fits := fits }
  else fail .elementCountOverflow

/-- `new` accepts every specification there is. -/
theorem new_self (spec : Bf16SingleDecodeSplitKSpec) : new spec.decode spec.partitions = .ok spec := by
  have h1 := spec.partitions_pos
  have h2 := spec.partitions_le
  rw [new, dif_neg (by omega), dif_pos spec.workspace_fits]

variable (spec : Bf16SingleDecodeSplitKSpec)

def partialStateCount : Nat := spec.decode.numQueryHeads * spec.partitions

def workspaceNumel : Nat := spec.partialStateCount * singleDecodePartialStateWidth

def partitionTokenRange (part : Nat) : Option (Nat × Nat) :=
  if part ≥ spec.partitions then none
  else
    let base := spec.decode.kvLen / spec.partitions
    let remainder := spec.decode.kvLen % spec.partitions
    let extraBefore := if part < remainder then part else remainder
    let start := part * base + extraBefore
    let len := base + if part < remainder then 1 else 0
    some (start, start + len)

def partialStateOffset (queryHead part : Nat) : Option Nat :=
  if queryHead ≥ spec.decode.numQueryHeads ∨ part ≥ spec.partitions then none
  else some ((queryHead * spec.partitions + part) * singleDecodePartialStateWidth)

/-- The partitions are the cells of the balanced cut. -/
theorem partitionTokenRange_eq {part : Nat} (h : part < spec.partitions) :
    spec.partitionTokenRange part =
      some (balancedCut spec.decode.kvLen spec.partitions part,
        balancedCut spec.decode.kvLen spec.partitions (part + 1)) := by
  rw [partitionTokenRange, if_neg (by omega), balancedCut_succ, balancedCut, Nat.min_def]
  simp only [Option.some.injEq, Prod.mk.injEq]
  split <;> split <;> simp <;> omega

theorem partialStateOffset_eq {queryHead part : Nat} (hq : queryHead < spec.decode.numQueryHeads)
    (hp : part < spec.partitions) :
    spec.partialStateOffset queryHead part =
      some ((queryHead * spec.partitions + part) * singleDecodePartialStateWidth) :=
  if_neg (by omega)

end Bf16SingleDecodeSplitKSpec

/-! ## References -/

section References

variable {F B : Type} (ops : FloatOps F B)

def singleDecodeBf16Reference (query key value output : Slice B) (lse : Slice F)
    (spec : Bf16SingleDecodeSpec) : Host (AttentionOut F B) := do
  requireLen "Q" query.len spec.queryNumel
  requireLen "K" key.len spec.kvNumel
  requireLen "V" value.len spec.kvNumel
  requireLen "O" output.len spec.outputNumel
  requireLen "LSE" lse.len spec.lseNumel
  forRangeM 0 lse.len
    (fun queryHead out => do
      let kvHead ← expect (spec.kvHeadForQueryHead queryHead)
        "enumerated query head is inside the validated specification"
      let s ← ops.attendRow ops.exp (ops.mul · ops.softmaxScale) query.get key.get value.get
        (queryHead * singleDecodeHeadDim)
        (fun token => .ok ((token * spec.numKvHeads + kvHead) * singleDecodeHeadDim)) 0 spec.kvLen
      return ops.storeRow queryHead s (ops.naturalLse s) out)
    ⟨output.get, lse.get⟩

/-- The state that the reference normalizes for a query head. -/
def Bf16SingleDecodeSpec.headState (spec : Bf16SingleDecodeSpec) (query key value : Nat → B)
    (queryHead : Nat) : SoftmaxState F Nat :=
  ops.attend query key value (queryHead * singleDecodeHeadDim)
    (fun token => (token * spec.numKvHeads + queryHead / spec.gqaGroupSize) * singleDecodeHeadDim) 0
    spec.kvLen

/-- The reference stores the states of all heads, whatever the arithmetic. -/
theorem singleDecodeBf16Reference_computed (spec : Bf16SingleDecodeSpec)
    {query key value output : Slice B} {lse : Slice F} (hq : query.len = spec.queryNumel)
    (hk : key.len = spec.kvNumel) (hv : value.len = spec.kvNumel)
    (ho : output.len = spec.outputNumel) (hl : lse.len = spec.lseNumel) :
    ∃ out, singleDecodeBf16Reference ops query key value output lse spec = .ok out ∧
      Computed ops (spec.headState ops query.get key.get value.get) ⟨output.get, lse.get⟩
        spec.numQueryHeads out := by
  rw [singleDecodeBf16Reference, requireLen_eq_ok.mpr hq, requireLen_eq_ok.mpr hk,
    requireLen_eq_ok.mpr hv, requireLen_eq_ok.mpr ho, requireLen_eq_ok.mpr hl, hl]
  simp only [ok_bind]
  refine forRangeM_invariant (P := Computed ops _ _) (Nat.zero_le _) (computed_zero _ _) ?_
  intro head out _ hh computed
  have hkv : spec.kvHeadForQueryHead head = some (head / spec.gqaGroupSize) := if_pos hh
  rw [hkv, expect_some, ok_bind, attendRow_eq ops fun _ _ _ => rfl, ok_bind]
  exact ⟨_, rfl, storeRow_computed computed rfl⟩

/-- The unnormalized state that a workspace holds at `offset`. -/
def readState (workspace : Nat → F) (offset : Nat) : SoftmaxState F Nat :=
  ⟨workspace offset, workspace (offset + 1), fun c => workspace (offset + 2 + c)⟩

/-- The locals of one partition, and the workspace that holds its weighted values. -/
structure PartialLocals (F : Type) where
  maxScoreLog2 : F
  normalizer : F
  workspace : Nat → F

/-- The state made of the locals and of the weighted values in the workspace. -/
def PartialLocals.state (row : PartialLocals F) (offset : Nat) : SoftmaxState F Nat :=
  ⟨row.maxScoreLog2, row.normalizer, fun c => row.workspace (offset + 2 + c)⟩

/-- One token of a partition. The weighted values are updated in place. -/
def FloatOps.partialStep (offset : Nat) (first : Bool) (scoreLog2 : F) (value : Nat → F)
    (row : PartialLocals F) : PartialLocals F :=
  let next := ops.softmaxStep ops.exp2 first scoreLog2 value (row.state offset)
  ⟨next.max, next.norm,
    writeRange (offset + 2) singleDecodeHeadDim next.acc row.workspace⟩

/-- The token loop of one partition. -/
def FloatOps.partialLoop (query key value : Nat → B) (queryOffset offset : Nat)
    (kvOffset : Nat → Nat) (tokenStart tokenEnd : Nat) (workspace : Nat → F) : PartialLocals F :=
  forRange tokenStart tokenEnd
    (fun token row =>
      let dot := ops.dot query key queryOffset (kvOffset token)
      ops.partialStep offset (token == tokenStart)
        (ops.mul (ops.mul dot ops.softmaxScale) ops.log2e)
        (fun c => ops.toF32 (value (kvOffset token + c))) row)
    ⟨ops.zero, ops.zero, workspace⟩

def singleDecodeBf16SplitKPartialsReference (query key value : Slice B) (workspace : Slice F)
    (spec : Bf16SingleDecodeSplitKSpec) : Host (Nat → F) := do
  let decode := spec.decode
  requireLen "Q" query.len decode.queryNumel
  requireLen "K" key.len decode.kvNumel
  requireLen "V" value.len decode.kvNumel
  requireLen "workspace" workspace.len spec.workspaceNumel
  forRangeM 0 decode.numQueryHeads
    (fun queryHead workspace => do
      let kvHead ← expect (decode.kvHeadForQueryHead queryHead)
        "enumerated query head is inside the validated specification"
      forRangeM 0 spec.partitions
        (fun part workspace => do
          let (tokenStart, tokenEnd) ← expect (spec.partitionTokenRange part)
            "enumerated partition is inside the validated specification"
          let offset ← expect (spec.partialStateOffset queryHead part)
            "enumerated state is inside the validated specification"
          let workspace := writeRange (offset + 2) singleDecodeHeadDim (fun _ => ops.zero) workspace
          let row := ops.partialLoop query.get key.get value.get (queryHead * singleDecodeHeadDim)
            offset (fun token => (token * decode.numKvHeads + kvHead) * singleDecodeHeadDim)
            tokenStart tokenEnd workspace
          return Function.update (Function.update row.workspace offset row.maxScoreLog2)
            (offset + 1) row.normalizer)
        workspace)
    workspace.get

/-- One partition of the merge; the first one sets the state. -/
def FloatOps.mergeStep (first : Bool) (part s : SoftmaxState F Nat) : SoftmaxState F Nat :=
  if first then part
  else
    let nextMax := ops.max s.max part.max
    let mergedWeight := ops.exp2 (ops.sub s.max nextMax)
    let partitionWeight := ops.exp2 (ops.sub part.max nextMax)
    ⟨nextMax, ops.add (ops.mul s.norm mergedWeight) (ops.mul part.norm partitionWeight),
      fun c => ops.add (ops.mul (s.acc c) mergedWeight) (ops.mul (part.acc c) partitionWeight)⟩

/-- The partition loop of one query head. -/
def FloatOps.mergeLoop (workspace : Nat → F) (spec : Bf16SingleDecodeSplitKSpec)
    (queryHead : Nat) : Host (SoftmaxState F Nat) :=
  forRangeM 0 spec.partitions
    (fun part s => do
      let offset ← expect (spec.partialStateOffset queryHead part)
        "enumerated state is inside the validated specification"
      return ops.mergeStep (part == 0) (readState workspace offset) s)
    ops.softmaxInit

def singleDecodeBf16SplitKMergeReference (workspace : Slice F) (output : Slice B) (lse : Slice F)
    (spec : Bf16SingleDecodeSplitKSpec) : Host (AttentionOut F B) := do
  requireLen "workspace" workspace.len spec.workspaceNumel
  requireLen "O" output.len spec.decode.outputNumel
  requireLen "LSE" lse.len spec.decode.lseNumel
  forRangeM 0 lse.len
    (fun queryHead out => do
      let s ← ops.mergeLoop workspace.get spec queryHead
      return ops.storeRow queryHead s (ops.add s.max (ops.log2 s.norm)) out)
    ⟨output.get, lse.get⟩

/-- Partials, then the merge, on the caller's workspace. -/
def singleDecodeBf16SplitKReference (query key value : Slice B) (workspace : Slice F)
    (output : Slice B) (lse : Slice F) (spec : Bf16SingleDecodeSplitKSpec) :
    Host ((Nat → F) × AttentionOut F B) := do
  let partials ← singleDecodeBf16SplitKPartialsReference ops query key value workspace spec
  let out ← singleDecodeBf16SplitKMergeReference ops ⟨workspace.len, partials⟩ output lse spec
  return (partials, out)

end References

/-! ## Exact results -/

section Exact

variable {K : Type} [Field K] [LinearOrder K] [ExactExp K]

/-- The tokens of a range, for one query head of a contiguous cache. -/
def Bf16SingleDecodeSpec.headTokens (spec : Bf16SingleDecodeSpec) (query key value : Nat → K)
    (queryHead lo hi : Nat) : List (Token K (Fin 128)) :=
  rowTokens scoreLog2 query key value (queryHead * 128)
    (fun token => (token * spec.numKvHeads + queryHead / spec.gqaGroupSize) * 128) lo hi

theorem partialStep_workspace (offset : Nat) (first : Bool) (score : K) (v : Nat → K)
    (row : PartialLocals K) (i : Nat) :
    ((exactOps K).partialStep offset first score v row).workspace i =
      if offset + 2 ≤ i ∧ i < offset + 2 + 128 then
        ((exactOps K).softmaxStep (exactOps K).exp2 first score v (row.state offset)).acc
          (i - (offset + 2))
      else row.workspace i :=
  writeRange_apply _ _ _ _ i

/-- On the components of the head, the state in the workspace is the updated state. -/
theorem partialStep_state (offset : Nat) (first : Bool) (score : K) (v : Nat → K)
    (row : PartialLocals K) :
    (((exactOps K).partialStep offset first score v row).state offset).restrict =
      ((exactOps K).softmaxStep (exactOps K).exp2 first score v (row.state offset)).restrict := by
  have acc : ∀ c : Fin 128,
      ((exactOps K).partialStep offset first score v row).workspace (offset + 2 + c) =
        ((exactOps K).softmaxStep (exactOps K).exp2 first score v (row.state offset)).acc c := by
    intro c
    have := c.isLt
    rw [partialStep_workspace, if_pos (by omega), Nat.add_sub_cancel_left]
  exact congrArg (SoftmaxState.mk _ _) (funext acc)

/-- The loop of one partition leaves a state of its tokens, and touches nothing else. -/
theorem partialLoop_exact (query key value : Nat → K) (queryOffset offset : Nat) (off : Nat → Nat)
    {lo hi : Nat} (h : lo < hi) (workspace : Nat → K) :
    Summarises ExactExp.exp2
        (((exactOps K).partialLoop query key value queryOffset offset off lo hi
          workspace).state offset).restrict
        (rowTokens scoreLog2 query key value queryOffset off lo hi) ∧
      ∀ i, i < offset + 2 ∨ offset + 130 ≤ i →
        ((exactOps K).partialLoop query key value queryOffset offset off lo hi
          workspace).workspace i = workspace i := by
  suffices loop :
      (lo < hi → Summarises ExactExp.exp2
        (((exactOps K).partialLoop query key value queryOffset offset off lo hi
          workspace).state offset).restrict
        (rowTokens scoreLog2 query key value queryOffset off lo hi)) ∧
      ∀ i, i < offset + 2 ∨ offset + 130 ≤ i →
        ((exactOps K).partialLoop query key value queryOffset offset off lo hi
          workspace).workspace i = workspace i from ⟨loop.1 h, loop.2⟩
  refine forRange_invariant
    (P := fun n (row : PartialLocals K) =>
      (lo < n → Summarises ExactExp.exp2 (row.state offset).restrict
        (rowTokens scoreLog2 query key value queryOffset off lo n)) ∧
      ∀ i, i < offset + 2 ∨ offset + 130 ≤ i → row.workspace i = workspace i)
    h.le ⟨fun hlt => absurd hlt (lt_irrefl lo), fun _ _ => rfl⟩ ?_
  rintro t row hl _ ⟨hsum, frame⟩
  refine ⟨fun _ => ?_, fun i hi => ?_⟩
  · rw [partialStep_state, rowTokens_succ scoreLog2 off hl, exact_dot]
    rcases hl.eq_or_lt with rfl | hlt
    · rw [rowTokens_self, List.nil_append, beq_self_eq_true]
      exact summarises_singleton _ (headToken scoreLog2 query key value queryOffset (off lo))
    · rw [beq_false_of_ne hlt.ne']
      exact softmaxStep_summarises expLaw_exp2 (hsum hlt) _ _
  · rw [partialStep_workspace, if_neg (by omega), frame i hi]

/-- The workspace holds, for every state below `n`, a state of that state's tokens. -/
def StatesDone (tokens : Nat → List (Token K (Fin 128))) (n : Nat) (workspace : Nat → K) : Prop :=
  ∀ state < n,
    Summarises ExactExp.exp2 (readState workspace (state * 130)).restrict (tokens state)

/-- Writing the header of the next state completes it and keeps the ones before it. -/
theorem statesDone_succ {tokens : Nat → List (Token K (Fin 128))} {n : Nat} {before : Nat → K}
    {row : PartialLocals K} (done : StatesDone tokens n before)
    (hsum : Summarises ExactExp.exp2 (row.state (n * 130)).restrict (tokens n))
    (frame : ∀ i, i < n * 130 + 2 ∨ n * 130 + 130 ≤ i → row.workspace i = before i) :
    StatesDone tokens (n + 1)
      (Function.update (Function.update row.workspace (n * 130) row.maxScoreLog2) (n * 130 + 1)
        row.normalizer) := by
  intro state hstate
  rcases Nat.lt_succ_iff_lt_or_eq.mp hstate with hlt | rfl
  · have same : ∀ i, i < n * 130 → Function.update (Function.update row.workspace (n * 130)
        row.maxScoreLog2) (n * 130 + 1) row.normalizer i = before i := by
      intro i hi
      rw [Function.update_of_ne (by omega), Function.update_of_ne (by omega), frame i (by omega)]
    have view : (readState (Function.update (Function.update row.workspace (n * 130)
        row.maxScoreLog2) (n * 130 + 1) row.normalizer) (state * 130)).restrict =
        (readState before (state * 130)).restrict := by
      simp only [readState, SoftmaxState.restrict, SoftmaxState.mk.injEq]
      refine ⟨same _ (by omega), same _ (by omega), funext fun c => same _ ?_⟩
      have := c.isLt
      omega
    rw [view]
    exact done state hlt
  · have view : (readState (Function.update (Function.update row.workspace (state * 130)
        row.maxScoreLog2) (state * 130 + 1) row.normalizer) (state * 130)).restrict =
        (row.state (state * 130)).restrict := by
      simp only [readState, SoftmaxState.restrict, PartialLocals.state, SoftmaxState.mk.injEq]
      refine ⟨?_, Function.update_self _ _ _, funext fun c => ?_⟩
      · rw [Function.update_of_ne (by omega), Function.update_self]
      · rw [Function.update_of_ne (by omega), Function.update_of_ne (by omega)]
    rw [view]
    exact hsum

namespace Bf16SingleDecodeSplitKSpec

/-- The tokens of state `queryHead * partitions + partition`. -/
def stateTokens (spec : Bf16SingleDecodeSplitKSpec) (query key value : Nat → K) (state : Nat) :
    List (Token K (Fin 128)) :=
  spec.decode.headTokens query key value (state / spec.partitions)
    (balancedCut spec.decode.kvLen spec.partitions (state % spec.partitions))
    (balancedCut spec.decode.kvLen spec.partitions (state % spec.partitions + 1))

theorem stateTokens_eq (spec : Bf16SingleDecodeSplitKSpec) (query key value : Nat → K)
    (head : Nat) {part : Nat} (hp : part < spec.partitions) :
    spec.stateTokens query key value (head * spec.partitions + part) =
      spec.decode.headTokens query key value head
        (balancedCut spec.decode.kvLen spec.partitions part)
        (balancedCut spec.decode.kvLen spec.partitions (part + 1)) := by
  rw [stateTokens, row_div hp, row_mod hp]

/-- No state is empty: there are no more partitions than tokens. -/
theorem stateTokens_ne_nil (spec : Bf16SingleDecodeSplitKSpec) (query key value : Nat → K)
    (state : Nat) : spec.stateTokens query key value state ≠ [] :=
  rowTokens_ne_nil _ _ (balancedCut_lt spec.partitions_pos spec.partitions_le _)

/-- The states of one head hold its tokens, in order. -/
theorem flatMap_stateTokens (spec : Bf16SingleDecodeSplitKSpec) (query key value : Nat → K)
    (head : Nat) :
    (List.range spec.partitions).flatMap
        (fun part => spec.stateTokens query key value (head * spec.partitions + part)) =
      spec.decode.headTokens query key value head 0 spec.decode.kvLen := by
  have mono : ∀ i < spec.partitions, balancedCut spec.decode.kvLen spec.partitions i ≤
      balancedCut spec.decode.kvLen spec.partitions (i + 1) := fun i _ => balancedCut_mono _ _ i
  rw [List.flatMap_congr fun part hpart =>
    spec.stateTokens_eq query key value head (List.mem_range.mp hpart)]
  refine (rowTokens_cells _ query key value _ _ mono).trans ?_
  rw [balancedCut_zero, balancedCut_last spec.partitions_pos]
  rfl

end Bf16SingleDecodeSplitKSpec

/-- The partials reference leaves every state of the workspace done, whatever it held. -/
theorem splitKPartialsReference_exact (spec : Bf16SingleDecodeSplitKSpec)
    {query key value workspace : Slice K} (hq : query.len = spec.decode.queryNumel)
    (hk : key.len = spec.decode.kvNumel) (hv : value.len = spec.decode.kvNumel)
    (hw : workspace.len = spec.workspaceNumel) :
    ∃ partials,
      singleDecodeBf16SplitKPartialsReference (exactOps K) query key value workspace spec =
        .ok partials ∧
      StatesDone (spec.stateTokens query.get key.get value.get) spec.partialStateCount partials := by
  rw [singleDecodeBf16SplitKPartialsReference, requireLen_eq_ok.mpr hq, requireLen_eq_ok.mpr hk,
    requireLen_eq_ok.mpr hv, requireLen_eq_ok.mpr hw]
  simp only [ok_bind]
  refine forRangeM_invariant
    (P := fun head ws => StatesDone (spec.stateTokens query.get key.get value.get)
      (head * spec.partitions) ws) (Nat.zero_le _) (fun _ h => by omega) ?_
  intro head ws _ hh done
  have hkv : spec.decode.kvHeadForQueryHead head = some (head / spec.decode.gqaGroupSize) :=
    if_pos hh
  rw [hkv, expect_some, ok_bind, Nat.add_mul, Nat.one_mul]
  refine forRangeM_invariant
    (P := fun part ws => StatesDone (spec.stateTokens query.get key.get value.get)
      (head * spec.partitions + part) ws) (Nat.zero_le _) done ?_
  intro part ws _ hp done
  have hlt := balancedCut_lt spec.partitions_pos spec.partitions_le part
  obtain ⟨hsum, frame⟩ := partialLoop_exact query.get key.get value.get (head * 128)
    ((head * spec.partitions + part) * 130)
    (fun token => (token * spec.decode.numKvHeads + head / spec.decode.gqaGroupSize) * 128) hlt
    (writeRange ((head * spec.partitions + part) * 130 + 2) 128 (fun _ => 0) ws)
  rw [← Bf16SingleDecodeSpec.headTokens, ← spec.stateTokens_eq _ _ _ _ hp] at hsum
  refine ⟨_, by
    rw [spec.partitionTokenRange_eq hp, expect_some, ok_bind, spec.partialStateOffset_eq hh hp,
      expect_some, ok_bind]; rfl, ?_⟩
  refine statesDone_succ (n := head * spec.partitions + part) done hsum fun i hi =>
    (frame i hi).trans ?_
  rw [writeRange_apply, if_neg (by omega)]

theorem mergeStep_summarises {s part : SoftmaxState K Nat} {ts us : List (Token K (Fin 128))}
    (hs : Summarises ExactExp.exp2 s.restrict ts) (hp : Summarises ExactExp.exp2 part.restrict us) :
    Summarises ExactExp.exp2 ((exactOps K).mergeStep false part s).restrict (ts ++ us) :=
  hs.merge expLaw_exp2 hp (Max.max s.max part.max)

theorem mergeLoop_exact (spec : Bf16SingleDecodeSplitKSpec)
    {tokens : Nat → List (Token K (Fin 128))} {workspace : Nat → K}
    (done : StatesDone tokens spec.partialStateCount workspace) {head : Nat}
    (hh : head < spec.decode.numQueryHeads) :
    ∃ s, (exactOps K).mergeLoop workspace spec head = .ok s ∧
      Summarises ExactExp.exp2 s.restrict
        ((List.range spec.partitions).flatMap fun part =>
          tokens (head * spec.partitions + part)) := by
  suffices loop : ∃ s, (exactOps K).mergeLoop workspace spec head = .ok s ∧
      (0 < spec.partitions → Summarises ExactExp.exp2 s.restrict
        ((List.range spec.partitions).flatMap fun part =>
          tokens (head * spec.partitions + part))) from
    loop.imp fun s hs => ⟨hs.1, hs.2 spec.partitions_pos⟩
  refine forRangeM_invariant
    (P := fun n (s : SoftmaxState K Nat) => 0 < n → Summarises ExactExp.exp2 s.restrict
      ((List.range n).flatMap fun part => tokens (head * spec.partitions + part)))
    (Nat.zero_le _) (fun h => absurd h (lt_irrefl 0)) ?_
  intro part s _ hp hs
  have here := done (head * spec.partitions + part) (rowMajor_lt hh hp)
  refine ⟨_, by rw [spec.partialStateOffset_eq hh hp]; rfl, fun _ => ?_⟩
  rw [List.range_succ, List.flatMap_append, List.flatMap_singleton]
  rcases Nat.eq_zero_or_pos part with rfl | hpos
  · exact here
  · rw [beq_false_of_ne hpos.ne']
    exact mergeStep_summarises (hs hpos) here

variable [IsStrictOrderedRing K]

/-- The direct reference computes the attention of all tokens for every head. -/
theorem singleDecodeBf16Reference_exact (spec : Bf16SingleDecodeSpec)
    {query key value output lse : Slice K} (hq : query.len = spec.queryNumel)
    (hk : key.len = spec.kvNumel) (hv : value.len = spec.kvNumel)
    (ho : output.len = spec.outputNumel) (hl : lse.len = spec.lseNumel) :
    ∃ out, singleDecodeBf16Reference (exactOps K) query key value output lse spec = .ok out ∧
      Filled (fun head => spec.headTokens query.get key.get value.get head 0 spec.kvLen)
        ⟨output.get, lse.get⟩ spec.numQueryHeads out := by
  obtain ⟨out, run, computed⟩ :=
    singleDecodeBf16Reference_computed (exactOps K) spec hq hk hv ho hl
  exact ⟨out, run, computed.filled fun head _ =>
    ⟨_, _, _, _, _, 0, spec.kvLen, spec.kvLen_pos, rfl, rfl⟩⟩

/-- The merge reference reads a done workspace as the attention of each head's states. -/
theorem splitKMergeReference_exact (spec : Bf16SingleDecodeSplitKSpec)
    {tokens : Nat → List (Token K (Fin 128))} {workspace output lse : Slice K}
    (hw : workspace.len = spec.workspaceNumel) (ho : output.len = spec.decode.outputNumel)
    (hl : lse.len = spec.decode.lseNumel)
    (done : StatesDone tokens spec.partialStateCount workspace.get)
    (nonempty : ∀ state < spec.partialStateCount, tokens state ≠ []) :
    ∃ out, singleDecodeBf16SplitKMergeReference (exactOps K) workspace output lse spec = .ok out ∧
      Filled
        (fun head =>
          (List.range spec.partitions).flatMap fun part => tokens (head * spec.partitions + part))
        ⟨output.get, lse.get⟩ spec.decode.numQueryHeads out := by
  rw [singleDecodeBf16SplitKMergeReference, requireLen_eq_ok.mpr hw, requireLen_eq_ok.mpr ho,
    requireLen_eq_ok.mpr hl, hl]
  simp only [ok_bind]
  refine forRangeM_invariant (P := Filled _ _) (Nat.zero_le _) (filled_zero _ _) ?_
  intro head out _ hh filled
  obtain ⟨s, hs, hsum⟩ := mergeLoop_exact spec done hh
  have hts : (List.range spec.partitions).flatMap
      (fun part => tokens (head * spec.partitions + part)) ≠ [] := by
    intro hnil
    exact nonempty _ (rowMajor_lt hh spec.partitions_pos)
      (List.flatMap_eq_nil_iff.mp hnil 0 (List.mem_range.mpr spec.partitions_pos))
  refine ⟨_, by rw [hs]; rfl, storeRow_filled filled (fun c => hsum.mean expLaw_exp2 c) ?_⟩
  exact hsum.lse hts

/-- Split-K computes what direct decode computes: whatever the workspace and the two outputs held
before, both runs succeed and end in the same output and the same log-sum-exp. -/
theorem splitK_eq_direct (spec : Bf16SingleDecodeSplitKSpec)
    {query key value workspace output output' lse lse' : Slice K}
    (hq : query.len = spec.decode.queryNumel) (hk : key.len = spec.decode.kvNumel)
    (hv : value.len = spec.decode.kvNumel) (hw : workspace.len = spec.workspaceNumel)
    (ho : output.len = spec.decode.outputNumel) (ho' : output'.len = spec.decode.outputNumel)
    (hl : lse.len = spec.decode.lseNumel) (hl' : lse'.len = spec.decode.lseNumel) :
    ∃ partials out direct,
      singleDecodeBf16SplitKReference (exactOps K) query key value workspace output lse spec =
        .ok (partials, out) ∧
      singleDecodeBf16Reference (exactOps K) query key value output' lse' spec.decode =
        .ok direct ∧
      (∀ i < spec.decode.outputNumel, out.output i = direct.output i) ∧
      (∀ i < spec.decode.lseNumel, out.lse i = direct.lse i) := by
  obtain ⟨partials, hpartials, done⟩ := splitKPartialsReference_exact spec hq hk hv hw
  have hw' : (⟨workspace.len, partials⟩ : Slice K).len = spec.workspaceNumel := hw
  obtain ⟨out, hout, filled⟩ := splitKMergeReference_exact spec hw' ho hl done fun state _ =>
    spec.stateTokens_ne_nil _ _ _ state
  obtain ⟨direct, hdirect, filled'⟩ := singleDecodeBf16Reference_exact spec.decode hq hk hv ho' hl'
  refine ⟨partials, out, direct, ?_, hdirect, ?_⟩
  · rw [singleDecodeBf16SplitKReference, hpartials, ok_bind, hout]
    rfl
  · simp only [spec.flatMap_stateTokens] at filled
    exact ⟨fun i hi => filled.output_eq filled' hi, fun i hi => filled.lse_eq filled' hi⟩

end Exact

/-- One head and two tokens, one for each partition. -/
def twoPartitionSpec : Bf16SingleDecodeSplitKSpec where
  decode := {
    kvLen := 2, numQueryHeads := 1, numKvHeads := 1
    kvLen_pos := Nat.two_pos
    queryHeads_pos := Nat.one_pos
    kvHeads_pos := Nat.one_pos
    group := oneHead_divides
    query_fits := oneToken_fits
    token_fits := oneToken_fits
    kv_fits := by decide }
  partitions := 2
  partitions_pos := Nat.two_pos
  partitions_le := by decide
  workspace_fits := by decide

theorem splitK_eq_direct_twoPartition :
    ∃ partials out direct,
      singleDecodeBf16SplitKReference (exactOps ℝ) ⟨128, fun i => i⟩ ⟨256, fun i => i + 1⟩
        ⟨256, fun i => 2 * i⟩ ⟨260, fun _ => 7⟩ ⟨128, fun _ => 0⟩ ⟨1, fun _ => 0⟩ twoPartitionSpec =
        .ok (partials, out) ∧
      singleDecodeBf16Reference (exactOps ℝ) ⟨128, fun i => i⟩ ⟨256, fun i => i + 1⟩
        ⟨256, fun i => 2 * i⟩ ⟨128, fun _ => 1⟩ ⟨1, fun _ => 1⟩ twoPartitionSpec.decode =
        .ok direct ∧
      (∀ i < twoPartitionSpec.decode.outputNumel, out.output i = direct.output i) ∧
      (∀ i < twoPartitionSpec.decode.lseNumel, out.lse i = direct.lse i) :=
  splitK_eq_direct twoPartitionSpec rfl rfl rfl rfl rfl rfl rfl rfl

end LoomKernels
