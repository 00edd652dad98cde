import LoomKernels.Device.AppendIsolation

/-!
# The plans of the rotary provider

The three plans of the rotary provider: rotation at given positions, the single-token append and the
multi-token append. The kernels compute their angles in an order of operations of their own, so that
only exact arithmetic can compare them with the references: there, a launch of the rotation plan
leaves what the reference computes (`ropePlan_eq_reference`), also next to tokens with negative
positions, which the reference rejects and the kernel skips; and a launch of the append plan leaves
what the append reference computes (`appendPlan_eq_reference`).
-/

namespace LoomKernels

/-! ## Plans -/

inductive RopePlanError where
  | unsupportedHeadDimension (expected actual : Nat)
  | unsupportedRotaryDimension (expected actual : Nat)
  | stateCountOverflow
  | stateCountOutOfRange (states : Nat)
  | launch (configured declared : Nat)
  deriving DecidableEq, Repr

/-- `rope_pos_ids_bf16_neox_d128` -/
def ropePosIdsEntry : KernelEntry := ⟨64, 2⟩

/-- `rope_paged_kv_append_bf16_neox_d128` -/
def pagedAppendEntry : KernelEntry := ⟨64, 2⟩

/-- `rope_paged_kv_append_tokens_bf16_neox_d128` -/
def pagedAppendTokensEntry : KernelEntry := ⟨64, 2⟩

/-- The launch of `entry` with a block for every row and combined head. -/
def RopeProvider.prepareStates (entry : KernelEntry) (rows queryHeads keyHeads : Nat) :
    Except RopePlanError PreparedLaunch := do
  let heads ← okOrElse (checkedAdd queryHeads keyHeads) .stateCountOverflow
  let states ← okOrElse (checkedMul rows heads) .stateCountOverflow
  let blocks ← gridOr states (.stateCountOutOfRange states)
  KernelLaunch.prepareOr ⟨entry, ⟨blocks, ropeBlockThreads⟩⟩ .launch

def RopeProvider.planBf16PosIds (spec : Bf16RopePosIdsSpec) :
    Except RopePlanError (Bf16RopePosIdsPlan × PreparedLaunch) :=
  if head : spec.headDim = 128 then
    if rotary : spec.rotaryDim = 128 then do
      let launch ←
        RopeProvider.prepareStates ropePosIdsEntry spec.tokens spec.queryHeads spec.keyHeads
      return (⟨spec, head, rotary⟩, launch)
    else .error (.unsupportedRotaryDimension 128 spec.rotaryDim)
  else .error (.unsupportedHeadDimension 128 spec.headDim)

def RopeProvider.planBf16PagedAppend (spec : Bf16RopePagedKvAppendSpec) :
    Except RopePlanError (Bf16RopePagedKvAppendPlan × PreparedLaunch) := do
  let launch ← RopeProvider.prepareStates pagedAppendEntry spec.batchSize spec.numQueryHeads
    spec.numKvHeads
  return (⟨spec⟩, launch)

def RopeProvider.planBf16PagedAppendTokens (spec : Bf16RopePagedKvAppendTokensSpec) :
    Except RopePlanError (Bf16RopePagedKvAppendTokensPlan × PreparedLaunch) := do
  let launch ← RopeProvider.prepareStates pagedAppendTokensEntry spec.tokens spec.numQueryHeads
    spec.numKvHeads
  return (⟨spec⟩, launch)

/-- What a launch of the provider is. -/
theorem RopeProvider.prepareStates_eq_ok {entry : KernelEntry} {rows queryHeads keyHeads : Nat}
    {launch : PreparedLaunch}
    (prepared : RopeProvider.prepareStates entry rows queryHeads keyHeads = .ok launch) :
    launch.config = ⟨rows * (queryHeads + keyHeads), 64⟩ := by
  obtain ⟨_, heads, rest⟩ := bind_eq_ok.mp prepared
  obtain ⟨-, rfl⟩ := checkedAdd_eq_some.mp (okOrElse_eq_ok.mp heads)
  obtain ⟨_, states, rest⟩ := bind_eq_ok.mp rest
  obtain ⟨-, rfl⟩ := checkedMul_eq_some.mp (okOrElse_eq_ok.mp states)
  obtain ⟨_, grid, rest⟩ := bind_eq_ok.mp rest
  obtain ⟨-, rfl⟩ := gridOr_eq_ok.mp grid
  unfold KernelLaunch.prepareOr at rest
  split at rest <;> cases rest
  rfl

theorem RopeProvider.planBf16PosIds_eq_ok {spec : Bf16RopePosIdsSpec} {plan : Bf16RopePosIdsPlan}
    {launch : PreparedLaunch} (planned : RopeProvider.planBf16PosIds spec = .ok (plan, launch)) :
    plan.spec = spec ∧ spec.headDim = 128 ∧ spec.rotaryDim = 128 ∧
      launch.config = ⟨spec.tokens * (spec.queryHeads + spec.keyHeads), 64⟩ := by
  unfold RopeProvider.planBf16PosIds at planned
  split at planned
  · split at planned
    · rename_i head rotary
      obtain ⟨_, prepared, rest⟩ := bind_eq_ok.mp planned
      cases rest
      exact ⟨rfl, head, rotary, RopeProvider.prepareStates_eq_ok prepared⟩
    · cases planned
  · cases planned

theorem RopeProvider.planBf16PagedAppend_eq_ok {spec : Bf16RopePagedKvAppendSpec}
    {plan : Bf16RopePagedKvAppendPlan} {launch : PreparedLaunch}
    (planned : RopeProvider.planBf16PagedAppend spec = .ok (plan, launch)) :
    plan = ⟨spec⟩ ∧
      launch.config = ⟨spec.batchSize * (spec.numQueryHeads + spec.numKvHeads), 64⟩ := by
  obtain ⟨_, prepared, rest⟩ := bind_eq_ok.mp planned
  cases rest
  exact ⟨rfl, RopeProvider.prepareStates_eq_ok prepared⟩

/-! ## Rotation -/

section Rotation

variable {K : Type}

/-- The rotation of the host, on the rows whose tokens have a position. -/
theorem ropeRows_eq_rotateTensor {spec : Bf16RopePosIdsSpec} (head : spec.headDim = 128)
    (rotary : spec.rotaryDim = 128) {positionIds : Slice Int32} (len : positionIds.len = spec.tokens)
    (nonneg : ∀ token < spec.tokens, 0 ≤ positionIds.int token) (rot : Rotation K) (heads : Nat)
    (input before : Nat → K) :
    ropeRows (rot 128 spec.ropeScale spec.ropeTheta) spec.tokens heads positionIds input before =
      rotateTensor rot input positionIds heads spec before := by
  funext i
  rw [rotateTensor_apply rot input positionIds heads spec (rotary.trans head.symm), ropeRows, head,
    len]
  refine if_congr (and_iff_left_of_imp fun inside => ?_) rfl rfl
  have pos : 0 < heads := Nat.pos_of_ne_zero fun zero => by simp [zero] at inside
  exact nonneg _ ((lt_rows_iff pos).mpr inside)

/-- A rotated tensor in which the tokens with negative positions are skipped. -/
structure RopeTensor (rot : Rotation K) (spec : Bf16RopePosIdsSpec) (positionIds : Slice Int32)
    (heads : Nat) (input before out : Nat → K) : Prop where
  rotated : ∀ token < spec.tokens, 0 ≤ positionIds.int token → ∀ head < heads, ∀ c < 128,
    out ((token * heads + head) * 128 + c) =
      ropeHead rot (positionIds.int token) input ((token * heads + head) * 128) spec c
  skipped : ∀ token < spec.tokens, positionIds.int token < 0 → ∀ head < heads, ∀ c < 128,
    out ((token * heads + head) * 128 + c) = before ((token * heads + head) * 128 + c)
  frame : ∀ i, spec.tokens * heads ≤ i / 128 → out i = before i

theorem ropeRows_tensor {spec : Bf16RopePosIdsSpec} (rotary : spec.rotaryDim = 128)
    (positionIds : Slice Int32) (rot : Rotation K) (heads : Nat) (input before : Nat → K) :
    RopeTensor rot spec positionIds heads input before
      (ropeRows (rot 128 spec.ropeScale spec.ropeTheta) spec.tokens heads positionIds input before) where
  rotated token ht nonneg head hh c hc := by
    have position : 0 ≤ positionIds.int ((token * heads + head) / heads) := by rwa [row_div hh]
    rw [ropeRows_row (rowMajor_lt ht hh) position hc, row_div hh, ropeHead, rotary, if_pos hc]
  skipped token ht negative head hh c hc := by
    refine if_neg fun live => ?_
    rw [row_div hc, row_div hh] at live
    exact absurd live.2 (Int.not_le.mpr negative)
  frame i outside := if_neg fun live => absurd live.1 (Nat.not_lt.mpr outside)

variable [Field K] [LinearOrder K] [IsStrictOrderedRing K] [ExactExp K] [ExactTrig K] [Inhabited K]
  {ofF32 : UInt32 → K}

/-- Every complete run of the rotation plan rotates the tokens that have a position and skips those
whose positions are negative; when the reference accepts the positions, it leaves what the reference
computes. -/
theorem ropePlan_eq_reference {spec : Bf16RopePosIdsSpec} {plan : Bf16RopePosIdsPlan}
    {launch : PreparedLaunch} (planned : RopeProvider.planBf16PosIds spec = .ok (plan, launch))
    (base : 0 < ofF32 spec.ropeTheta) (query key queryOutput keyOutput : Slice K)
    (positionIds : Slice Int32) (hq : query.len = spec.queryNumel) (hk : key.len = spec.keyNumel)
    (hqo : queryOutput.len = spec.queryNumel) (hko : keyOutput.len = spec.keyNumel)
    (hp : positionIds.len = spec.positionNumel) :
    launch.config = ⟨spec.tokens * (spec.queryHeads + spec.keyHeads), ropeBlockThreads⟩ ∧
    ∃ out, (∃ program : GridThread (spec.tokens * (spec.queryHeads + spec.keyHeads)) ropeBlockThreads →
          List (Op RopeAddress K),
        Launched (ropePosIdsKernel (deviceRotation (exactRopeOps K ofF32) plan.spec.ropeScale
          plan.spec.ropeTheta) plan.spec.tokens plan.spec.queryHeads plan.spec.keyHeads positionIds)
          program ∧
        (∃ schedule, ((Config.start (ropeMemory query.get key.get ⟨queryOutput.get, keyOutput.get⟩)
          program).run schedule).Complete) ∧
        ∀ schedule, ((Config.start (ropeMemory query.get key.get ⟨queryOutput.get, keyOutput.get⟩)
            program).run schedule).Complete →
          ((Config.start (ropeMemory query.get key.get ⟨queryOutput.get, keyOutput.get⟩) program).run
            schedule).mem = ropeMemory query.get key.get out) ∧
      RopeTensor (ropeRotation (exactRopeOps K ofF32)) spec positionIds spec.queryHeads query.get
        queryOutput.get out.queryOutput ∧
      RopeTensor (ropeRotation (exactRopeOps K ofF32)) spec positionIds spec.keyHeads key.get
        keyOutput.get out.keyOutput ∧
      ((∀ token < spec.tokens, 0 ≤ positionIds.int token) →
        ropePosIdsBf16Reference (ropeRotation (exactRopeOps K ofF32)) query key positionIds
          queryOutput keyOutput spec = .ok out) := by
  obtain ⟨same, head, rotary, config⟩ := RopeProvider.planBf16PosIds_eq_ok planned
  have len : positionIds.len = spec.tokens := hp
  rw [same, deviceRotation_exact _ base]
  refine ⟨config, _, ropePosIdsKernel_runs len _ _ _, ropeRows_tensor rotary positionIds _ _ _ _,
    ropeRows_tensor rotary positionIds _ _ _ _, fun nonneg => ?_⟩
  refine (ropePosIdsBf16Reference_eq_ok _).mpr ⟨hq, hk, hp, hqo, hko,
    fun token _ ht => nonneg token (len ▸ ht), ?_⟩
  rw [ropeResult, ropeRows_eq_rotateTensor head rotary len nonneg,
    ropeRows_eq_rotateTensor head rotary len nonneg]

end Rotation

/-- The two constants of the append contracts, read as numbers. -/
noncomputable def appendConstants (bits : UInt32) : ℝ := if bits = f32One then 1 else 10000

theorem appendConstants_base : 0 < appendConstants f32TenThousand := by
  rw [appendConstants, if_neg (by decide)]
  norm_num

/-- Two tokens of one head, of the base of the append contracts. -/
def twoTokenRope : Bf16RopePosIdsSpec := appendRope onePageSpec 2 Nat.two_pos twoRows_fit

/-- The plan is launched on the two tokens, and leaves what the reference computes. -/
theorem ropePlan_eq_reference_twoTokens :
    ∃ out, ∃ program : GridThread (2 * (1 + 1)) ropeBlockThreads → List (Op RopeAddress ℝ),
      ∃ schedule : List (GridThread (2 * (1 + 1)) ropeBlockThreads),
      Launched (ropePosIdsKernel (deviceRotation (exactRopeOps ℝ appendConstants) f32One
        f32TenThousand) 2 1 1 (.ofList [3, 5])) program ∧
      ((Config.start (ropeMemory (fun i => (i : ℝ)) (fun i => 2 * i) ⟨fun _ => 0, fun _ => 0⟩)
        program).run schedule).Complete ∧
      ((Config.start (ropeMemory (fun i => (i : ℝ)) (fun i => 2 * i) ⟨fun _ => 0, fun _ => 0⟩)
        program).run schedule).mem = ropeMemory (fun i => (i : ℝ)) (fun i => 2 * i) out ∧
      ropePosIdsBf16Reference (ropeRotation (exactRopeOps ℝ appendConstants))
        ⟨256, fun i => (i : ℝ)⟩ ⟨256, fun i => 2 * i⟩ (.ofList [3, 5]) ⟨256, fun _ => 0⟩
        ⟨256, fun _ => 0⟩ twoTokenRope = .ok out := by
  obtain ⟨-, out, ⟨program, launched, ⟨schedule, complete⟩, run⟩, -, -, reference⟩ :=
    @ropePlan_eq_reference ℝ _ _ _ _ _ _ appendConstants twoTokenRope _ _ rfl
      appendConstants_base ⟨256, fun i => i⟩ ⟨256, fun i => 2 * i⟩ ⟨256, fun _ => 0⟩
      ⟨256, fun _ => 0⟩ (.ofList [3, 5]) rfl rfl rfl rfl rfl
  refine ⟨out, program, schedule, launched, complete, run schedule complete,
    reference fun token ht => ?_⟩
  obtain rfl | rfl := lt_two_cases ht
  · decide
  · decide

/-! ## Append -/

/-- What the reference computes on a table it accepts, every complete run of a launch leaves. -/
theorem appendLaunch_final {B : Type} [Inhabited B] {rot : Rotation B} {nan : B}
    {spec : Bf16RopePagedKvAppendSpec} {positions pageIndptr pageIndices lastPageLen : Slice Int32}
    (valid : AppendTableValid spec pageIndptr pageIndices lastPageLen)
    (final : FinalPositions spec pageIndptr lastPageLen positions) (query key value : Nat → B)
    (before : AppendOut B) {program : AppendThread spec → List (Op AppendAddress B)}
    (launched : Launched (appendLaunch (appendRotation rot) spec pageIndptr pageIndices lastPageLen)
      program) {schedule : List (AppendThread spec)}
    (complete : ((Config.start (appendMemory query key value before) program).run
      schedule).Complete) :
    ((Config.start (appendMemory query key value before) program).run schedule).mem =
      appendMemory query key value (appendOut rot nan query key value positions pageIndptr pageIndices
        lastPageLen before spec) := by
  have lengths := valid.table.lengths
  have effect : AppendEffect rot ⟨spec.paged, pageIndptr, pageIndices, lastPageLen, valid.table⟩ _ _ _
      _ _ query key value before (appendOut rot nan query key value positions pageIndptr pageIndices
        lastPageLen before spec) := appendOut_effect valid final query key value before
  have found : ∀ request < spec.batchSize, Bf16PagedBatchDecodePageTable.physicalPageForToken
      ⟨spec.paged, pageIndptr, pageIndices, lastPageLen, valid.table⟩ (id request)
      (pagedKvLen pageIndptr lastPageLen request - 1) =
        some (pagedFinalSlot pageIndptr pageIndices lastPageLen request) := fun request hr =>
    Bf16PagedBatchDecodePageTable.physicalPageForToken_eq
      ⟨spec.paged, pageIndptr, pageIndices, lastPageLen, valid.table⟩ hr
      (Nat.sub_one_lt_of_lt (valid.table.kvLen_pos hr))
  have writes : ∀ t : AppendThread spec,
      RequestWrites spec pageIndptr pageIndices lastPageLen (threadRequest spec t) := fun t =>
    ⟨valid.table, fun other ho differ same => differ
      (pairwise_injective valid.distinct _ (threadRequest_lt t) _ ho same).symm⟩
  have stores : ∀ t (w : AppendAddress × B),
      w ∈ effects (appendMemory query key value before) [] (program t) ↔ _ := fun t w =>
    mem_effects_program lengths launched before t
  simp only [writtenSlot, true_and, writes] at stores
  refine complete_run_mem (program_separate lengths launched) (fun t w hw => ?_)
    (fun a unwritten => ?_) complete
  · exact appendStores_agree effect found t.1.isLt t.2.isLt ((stores t w).mp hw)
  · refine appendStores_covered effect found (fun i outside => ?_) fun state hs pair hp v store => ?_
    · rw [appendOut, appendLoop_queryOutput]
      exact if_neg (Nat.not_lt.mpr (final.len ▸ outside))
    · exact unwritten (⟨state, hs⟩, ⟨pair, hp⟩)
        (mem_writeSet ((stores (⟨state, hs⟩, ⟨pair, hp⟩) (a, v)).mpr store))

/-- The angle and the rotation of a pair, as the append kernels compute them. -/
def appendDeviceRotation {F B : Type} (ops : RopeOps F B) (position pair : Nat) (first second : B) :
    B × B :=
  let exponent := ops.div (ops.ofUsize pair) (ops.ofUsize rotaryPairs)
  let inverseFrequency := ops.powf (ops.div ops.one (ops.ofF32 f32TenThousand)) exponent
  let angle := ops.mul (ops.ofUsize position) inverseFrequency
  let sin := ops.sin angle
  let cos := ops.cos angle
  let first := ops.toF32 first
  let second := ops.toF32 second
  (ops.fromF32 (ops.sub (ops.mul first cos) (ops.mul second sin)),
    ops.fromF32 (ops.add (ops.mul second cos) (ops.mul first sin)))

section Append

variable {K : Type} [Field K] [LinearOrder K] [IsStrictOrderedRing K] [ExactExp K] [ExactTrig K]
  {ofF32 : UInt32 → K}

/-- In exact arithmetic the append kernels rotate as the references do. -/
theorem appendDeviceRotation_exact (one : ofF32 f32One = 1) (base : 0 < ofF32 f32TenThousand) :
    appendDeviceRotation (exactRopeOps K ofF32) =
      appendRotation (ropeRotation (exactRopeOps K ofF32)) := by
  funext position pair first second
  have rotation := congrFun (congrFun (congrFun (congrFun
    (deviceRotation_exact (K := K) f32One base) position) pair) first) second
  rw [appendRotation, ← rotation]
  simp only [appendDeviceRotation, deviceRotation, exactRopeOps, exactOps, one, div_one,
    Int.cast_natCast]

variable [Inhabited K]

/-- What the reference computes on a table it accepts, every complete run of the append plan
leaves. -/
theorem appendPlan_eq_reference (one : ofF32 f32One = 1) (base : 0 < ofF32 f32TenThousand)
    {spec : Bf16RopePagedKvAppendSpec} {plan : Bf16RopePagedKvAppendPlan} {launch : PreparedLaunch}
    (planned : RopeProvider.planBf16PagedAppend spec = .ok (plan, launch)) {nan : K}
    {query key value queryOutput keyPages valuePages : Slice K}
    {pageIndptr pageIndices lastPageLen : Slice Int32} {out : AppendOut K}
    (reference : ropePagedKvAppendBf16Reference (ropeRotation (exactRopeOps K ofF32)) nan query key
      value pageIndptr pageIndices lastPageLen queryOutput keyPages valuePages spec = .ok out) :
    launch.config = ⟨spec.batchSize * (spec.numQueryHeads + spec.numKvHeads), ropeBlockThreads⟩ ∧
    ∃ program : AppendThread spec → List (Op AppendAddress K),
      Launched (appendLaunch (appendDeviceRotation (exactRopeOps K ofF32)) spec pageIndptr pageIndices
        lastPageLen) program ∧
      (∃ schedule, ((Config.start (appendMemory query.get key.get value.get
        ⟨queryOutput.get, keyPages.get, valuePages.get⟩) program).run schedule).Complete) ∧
      ∀ schedule, ((Config.start (appendMemory query.get key.get value.get
          ⟨queryOutput.get, keyPages.get, valuePages.get⟩) program).run schedule).Complete →
        ((Config.start (appendMemory query.get key.get value.get
          ⟨queryOutput.get, keyPages.get, valuePages.get⟩) program).run schedule).mem =
          appendMemory query.get key.get value.get out := by
  obtain ⟨rfl, config⟩ := RopeProvider.planBf16PagedAppend_eq_ok planned
  obtain ⟨-, valid, xs, final, rfl⟩ := reference_eq_ok.mp reference
  rw [appendDeviceRotation_exact one base]
  have lengths := valid.table.lengths
  choose program launched _ using fun t : AppendThread spec =>
    appendLaunch_ok (appendRotation (ropeRotation (exactRopeOps K ofF32))) lengths t
  refine ⟨config, program, launched, exists_complete _ program (List.finRange _ ×ˢ List.finRange _)
    fun t ht => ?_, fun schedule complete => appendLaunch_final valid final _ _ _ _ launched complete⟩
  exact absurd (List.pair_mem_product.mpr ⟨List.mem_finRange t.1, List.mem_finRange t.2⟩) ht

end Append

/-- The tokens of two requests that share a page. -/
theorem appendPlan_eq_reference_sharedPage :
    ∃ out, ∃ program : AppendThread sharedPageAppendSpec → List (Op AppendAddress ℝ),
      ∃ schedule : List (AppendThread sharedPageAppendSpec),
      ropePagedKvAppendBf16Reference (ropeRotation (exactRopeOps ℝ appendConstants)) 0
        ⟨256, fun i => i⟩ ⟨256, fun i => 2 * i⟩ ⟨256, fun i => 3 * i⟩ (.ofList [0, 1, 2])
        (.ofList [0, 0]) (.ofList [1, 2]) ⟨256, fun _ => 7⟩ ⟨2048, fun _ => 8⟩ ⟨2048, fun _ => 9⟩
        sharedPageAppendSpec = .ok out ∧
      Launched (appendLaunch (appendDeviceRotation (exactRopeOps ℝ appendConstants))
        sharedPageAppendSpec (.ofList [0, 1, 2]) (.ofList [0, 0]) (.ofList [1, 2])) program ∧
      ((Config.start (appendMemory (fun i => (i : ℝ)) (fun i => 2 * i) (fun i => 3 * i)
        ⟨fun _ => 7, fun _ => 8, fun _ => 9⟩) program).run schedule).Complete ∧
      ((Config.start (appendMemory (fun i => (i : ℝ)) (fun i => 2 * i) (fun i => 3 * i)
        ⟨fun _ => 7, fun _ => 8, fun _ => 9⟩) program).run schedule).mem =
          appendMemory (fun i => (i : ℝ)) (fun i => 2 * i) (fun i => 3 * i) out := by
  obtain ⟨out, reference⟩ : ∃ out, ropePagedKvAppendBf16Reference
      (ropeRotation (exactRopeOps ℝ appendConstants)) 0 ⟨256, fun i => i⟩ ⟨256, fun i => 2 * i⟩
      ⟨256, fun i => 3 * i⟩ (.ofList [0, 1, 2]) (.ofList [0, 0]) (.ofList [1, 2])
      ⟨256, fun _ => 7⟩ ⟨2048, fun _ => 8⟩ ⟨2048, fun _ => 9⟩ sharedPageAppendSpec = .ok out :=
    ⟨_, reference_eq_ok.mpr ⟨⟨rfl, rfl, rfl, rfl, rfl, rfl⟩, sharedPage_appendValid, [0, 1],
      sharedPage_finalPositions, rfl⟩⟩
  obtain ⟨-, program, launched, ⟨schedule, complete⟩, run⟩ := @appendPlan_eq_reference ℝ _ _ _ _ _
    appendConstants _ (if_pos rfl) appendConstants_base sharedPageAppendSpec _ _ rfl 0 _ _ _ _ _ _
    _ _ _ _ reference
  exact ⟨out, program, schedule, reference, launched, complete, run schedule complete⟩

end LoomKernels
