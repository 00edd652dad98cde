import LoomKernels.Device.TokenParallel

/-!
# One block for each row of results

Most attention kernels give every row of results to one block: its first warp writes the row, or the
block returns without a write. `ServesRows` says which of the two each block does, and with which
value. Whatever the order of the writes, a launch of such a kernel then has exactly one outcome
(`ServesRows.rowLaunch_iff`): the served rows hold their values, and everything else is as before.

In exact arithmetic a launch that serves every row leaves the same memories as a reference that
fills them (`servedOut_filled`).
-/

namespace LoomKernels

/-! ## Rows -/

/-- The value of one row of results. -/
structure RowValue (F B : Type) where
  output : Nat → B
  lse : F

section Rows

variable {F B : Type}

/-- The value that a state reads out as. -/
def DeviceOps.rowValue (ops : DeviceOps F B) (s : SoftmaxState F Nat) : RowValue F B where
  output c := ops.fromF32 (ops.mul (s.acc c) (ops.div ops.one s.norm))
  lse := ops.add s.max (ops.lg2 s.norm)

/-- What a thread of a block writes of its row: the first warp writes the value, where there is
one. -/
def rowOrNothing (row : Nat) (value : Option (RowValue F B)) (thread : Nat) :
    AttentionWrites F B :=
  match value with
  | some v => if thread < warpThreads then rowResult row v.output v.lse thread else ⟨[], []⟩
  | none => ⟨[], []⟩

/-- The results after the rows with a value have been replaced. -/
def servedOut (values : Nat → Option (RowValue F B)) (before : AttentionOut F B) :
    AttentionOut F B where
  output i := match values (i / singleDecodeHeadDim) with
    | some v => v.output (i % singleDecodeHeadDim)
    | none => before.output i
  lse row := match values row with
    | some v => v.lse
    | none => before.lse row

/-- A row that has a value. -/
theorem servedOut_some {values : Nat → Option (RowValue F B)} {row : Nat} {v : RowValue F B}
    (served : values row = some v) (before : AttentionOut F B) :
    (servedOut values before).lse row = v.lse ∧ ∀ c < singleDecodeHeadDim,
      (servedOut values before).output (row * singleDecodeHeadDim + c) = v.output c := by
  constructor
  · simp only [servedOut, served]
  · intro c hc
    simp only [servedOut, row_div hc, row_mod hc, served]

/-- A row that has none. -/
theorem servedOut_none {values : Nat → Option (RowValue F B)} {row : Nat}
    (unserved : values row = none) (before : AttentionOut F B) :
    (servedOut values before).lse row = before.lse row ∧ ∀ i, i / singleDecodeHeadDim = row →
      (servedOut values before).output i = before.output i := by
  constructor
  · simp only [servedOut, unserved]
  · rintro i rfl
    simp only [servedOut, unserved]

/-- A launch that writes results: every thread returns, and the writes take effect in some order. -/
def RowLaunch (config : LaunchConfig1D) (kernel : Nat → Nat → DeviceM (AttentionWrites F B))
    (before after : AttentionOut F B) : Prop :=
  ∃ writes : Nat → Nat → AttentionWrites F B,
    (∀ block < config.grid, ∀ thread < config.block,
      kernel block thread = .ok (writes block thread)) ∧
    ∃ outputs lses,
      outputs.Perm (gridWrites config.grid config.block fun block thread =>
        (writes block thread).output) ∧
      lses.Perm (gridWrites config.grid config.block fun block thread =>
        (writes block thread).lse) ∧
      after = ⟨applyWrites outputs before.output, applyWrites lses before.lse⟩

/-- Every block of the launch returns, and has written the value of its row, where there is one. -/
structure ServesRows (config : LaunchConfig1D)
    (kernel : Nat → Nat → DeviceM (AttentionWrites F B)) (values : Nat → Option (RowValue F B)) :
    Prop where
  warp : warpThreads ≤ config.block
  returns : ∀ row < config.grid, ∀ thread < config.block,
    kernel row thread = .ok (rowOrNothing row (values row) thread)
  inside : ∀ row, config.grid ≤ row → values row = none

/-! ## The writes of a block -/

/-- The lane that writes a component of a row. -/
theorem resultLane_lt (i : Nat) : i % singleDecodeHeadDim % 64 / 2 < warpThreads := by
  simp only [singleDecodeHeadDim, warpThreads]
  omega

theorem rowOrNothing_output {row thread : Nat} {value : Option (RowValue F B)} {w : Nat × B}
    (h : w ∈ (rowOrNothing row value thread).output) :
    w.1 / singleDecodeHeadDim = row ∧
      ∃ v, value = some v ∧ w.2 = v.output (w.1 % singleDecodeHeadDim) := by
  cases value with
  | none => simp [rowOrNothing] at h
  | some v =>
    simp only [rowOrNothing] at h
    split at h
    · rename_i hl
      have here := (mem_rowResult_output hl).mp (List.mem_map_of_mem h)
      have agree := @rowResult_output_agree F B row thread (fun _ => v.output) v.lse w hl h
      exact ⟨here.1, v, rfl, agree⟩
    · simp at h

theorem rowOrNothing_lse {row thread : Nat} {value : Option (RowValue F B)} {w : Nat × F}
    (h : w ∈ (rowOrNothing row value thread).lse) : w.1 = row ∧ ∃ v, value = some v ∧ w.2 = v.lse := by
  cases value with
  | none => simp [rowOrNothing] at h
  | some v =>
    simp only [rowOrNothing] at h
    split at h
    · simp only [rowResult] at h
      split at h
      · rw [List.mem_singleton.mp h]
        exact ⟨rfl, v, rfl, rfl⟩
      · simp at h
    · simp at h

theorem rowOrNothing_names_output (i : Nat) (v : RowValue F B) :
    i ∈ ((rowOrNothing (i / singleDecodeHeadDim) (some v)
      (i % singleDecodeHeadDim % 64 / 2)).output).map Prod.fst := by
  have hl := resultLane_lt i
  rw [rowOrNothing, if_pos hl]
  exact (mem_rowResult_output hl).mpr ⟨rfl, rfl⟩

theorem rowOrNothing_names_lse (row : Nat) (v : RowValue F B) :
    row ∈ ((rowOrNothing row (some v) 0).lse).map Prod.fst := by
  simp [rowOrNothing, rowResult]

/-- A block that ends with a state, or with none. -/
theorem rowOrNothing_state (ops : DeviceOps F B) (row : Nat) (s : SoftmaxState F Nat) {lane : Nat}
    (hl : lane < warpThreads) :
    ops.storeResult row s lane = rowOrNothing row (some (ops.rowValue s)) lane :=
  (if_pos hl).symm

/-! ## Launches -/

section Launch

variable {config : LaunchConfig1D} {kernel : Nat → Nat → DeviceM (AttentionWrites F B)}
  {values : Nat → Option (RowValue F B)} (serves : ServesRows config kernel values)
include serves

/-- The writes of a launch in any order. -/
theorem ServesRows.final {writes : Nat → Nat → AttentionWrites F B} (before : AttentionOut F B)
    (run : ∀ block < config.grid, ∀ thread < config.block,
      kernel block thread = .ok (writes block thread))
    {outputs : List (Nat × B)} {lses : List (Nat × F)}
    (outputPerm : outputs.Perm (gridWrites config.grid config.block fun block thread =>
      (writes block thread).output))
    (lsePerm : lses.Perm (gridWrites config.grid config.block fun block thread =>
      (writes block thread).lse)) :
    (⟨applyWrites outputs before.output, applyWrites lses before.lse⟩ : AttentionOut F B) =
      servedOut values before := by
  have same : ∀ block < config.grid, ∀ thread < config.block,
      writes block thread = rowOrNothing block (values block) thread := fun block hb thread ht =>
    Except.ok.inj ((run block hb thread ht).symm.trans (serves.returns block hb thread ht))
  have output : ∀ w ∈ outputs, ∃ v, values (w.1 / singleDecodeHeadDim) = some v ∧
      w.2 = v.output (w.1 % singleDecodeHeadDim) := by
    intro w hw
    obtain ⟨block, hb, thread, ht, hw⟩ := mem_gridWrites.mp (outputPerm.mem_iff.mp hw)
    rw [same block hb thread ht] at hw
    obtain ⟨rfl, v, hv, eq⟩ := rowOrNothing_output hw
    exact ⟨v, hv, eq⟩
  have lse : ∀ w ∈ lses, ∃ v, values w.1 = some v ∧ w.2 = v.lse := by
    intro w hw
    obtain ⟨block, hb, thread, ht, hw⟩ := mem_gridWrites.mp (lsePerm.mem_iff.mp hw)
    rw [same block hb thread ht] at hw
    obtain ⟨rfl, v, hv, eq⟩ := rowOrNothing_lse hw
    exact ⟨v, hv, eq⟩
  have live : ∀ {row v}, values row = some v → row < config.grid := fun {row v} hv => by
    refine Nat.lt_of_not_le fun outside => ?_
    rw [serves.inside row outside] at hv
    cases hv
  unfold servedOut
  congr 1
  · funext i
    cases hv : values (i / singleDecodeHeadDim) with
    | none =>
      refine applyWrites_of_not_mem fun named => ?_
      obtain ⟨w, hw, rfl⟩ := List.mem_map.mp named
      obtain ⟨v, some, -⟩ := output w hw
      rw [hv] at some
      cases some
    | some v =>
      refine applyWrites_of_value (fun w hw here => ?_) ?_
      · obtain ⟨v', hv', eq⟩ := output w hw
        rw [here, hv] at hv'
        cases hv'
        rw [eq, here]
      · obtain ⟨w, hw, rfl⟩ := List.mem_map.mp (rowOrNothing_names_output i v)
        have ht := (resultLane_lt w.1).trans_le serves.warp
        refine List.mem_map_of_mem (outputPerm.mem_iff.mpr (mem_gridWrites.mpr
          ⟨_, live hv, _, ht, ?_⟩))
        rw [same _ (live hv) _ ht, hv]
        exact hw
  · funext row
    cases hv : values row with
    | none =>
      refine applyWrites_of_not_mem fun named => ?_
      obtain ⟨w, hw, rfl⟩ := List.mem_map.mp named
      obtain ⟨v, some, -⟩ := lse w hw
      rw [hv] at some
      cases some
    | some v =>
      refine applyWrites_of_value (fun w hw here => ?_) ?_
      · obtain ⟨v', hv', eq⟩ := lse w hw
        rw [here, hv] at hv'
        cases hv'
        exact eq
      · obtain ⟨w, hw, rfl⟩ := List.mem_map.mp (rowOrNothing_names_lse row v)
        have ht : 0 < config.block := Nat.lt_of_lt_of_le (by decide) serves.warp
        refine List.mem_map_of_mem (lsePerm.mem_iff.mpr (mem_gridWrites.mpr
          ⟨_, live hv, 0, ht, ?_⟩))
        rw [same _ (live hv) 0 ht, hv]
        exact hw

/-- A launch has one outcome, whatever the order of its writes. -/
theorem ServesRows.rowLaunch_iff {before after : AttentionOut F B} :
    RowLaunch config kernel before after ↔ after = servedOut values before := by
  constructor
  · rintro ⟨writes, run, outputs, lses, outputPerm, lsePerm, rfl⟩
    exact serves.final before run outputPerm lsePerm
  · rintro rfl
    exact ⟨_, serves.returns, _, _, List.Perm.refl _, List.Perm.refl _,
      (serves.final before serves.returns (List.Perm.refl _) (List.Perm.refl _)).symm⟩

end Launch

end Rows

/-! ## Rows whose tokens are found -/

section Found

variable {F B : Type} (ops : DeviceOps F B)

/-- One warp over the tokens of a row, all of them found. -/
def DeviceOps.directRow (softmaxScaleLog2 : F) (query key value : Nat → B) (row : Nat)
    (off : Nat → Nat) (lo hi lane : Nat) : DeviceM (AttentionWrites F B) := do
  let s ← ops.tokenLoop softmaxScaleLog2 ops.zero query key value (row * singleDecodeHeadDim)
    (fun token => .ok (off token)) lo hi
  return ops.storeResult row s lane

/-- The warps of a block over the tokens of a row, all of them found. -/
def DeviceOps.tokenParallelRow (warps : Nat)
    (merge : Nat → SoftmaxState F Nat → SoftmaxState F Nat → DeviceM (SoftmaxState F Nat))
    (init : SoftmaxState F Nat) (softmaxScaleLog2 : F) (query key value : Nat → B) (row : Nat)
    (off : Nat → Nat) (start count : Nat) (partialStates : Nat → F) (thread : Nat) :
    DeviceM (AttentionWrites F B) :=
  ops.tokenParallelBlock warps merge init
    (fun warp => ops.tokenLoop softmaxScaleLog2 ops.negInf query key value
      (row * singleDecodeHeadDim) (fun token => .ok (off token)) (start + floorCut count warps warp)
      (start + floorCut count warps (warp + 1)))
    partialStates row thread

/-- A block runs the loops of its own warps only. -/
theorem tokenParallelBlock_congr {warps : Nat}
    (merge : Nat → SoftmaxState F Nat → SoftmaxState F Nat → DeviceM (SoftmaxState F Nat))
    (init : SoftmaxState F Nat) {loop loop' : Nat → DeviceM (SoftmaxState F Nat)}
    (same : ∀ warp < warps, loop warp = loop' warp) (shared : Nat → F) (row thread : Nat) :
    ops.tokenParallelBlock warps merge init loop shared row thread =
      ops.tokenParallelBlock warps merge init loop' shared row thread := by
  have states : sharedStates warps loop shared = sharedStates warps loop' shared :=
    forRangeM_congr _ fun warp mem _ hw => by rw [same warp hw]
  rw [DeviceOps.tokenParallelBlock, DeviceOps.tokenParallelBlock, states]

/-- The loops of a row come to their ends, whatever the tokens. -/
def DeviceOps.LoopsReturn (softmaxScaleLog2 : F) (query key value : Nat → B) : Prop :=
  ∀ (queryOffset : Nat) (off : Nat → Nat) (lo hi : Nat), lo ≤ hi →
    ∃ s, ops.tokenLoop softmaxScaleLog2 ops.zero query key value queryOffset
      (fun token => .ok (off token)) lo hi = .ok s

end Found

/-! ## Exact arithmetic -/

section Exact

variable {K : Type} [Field K] [LinearOrder K] [ExactExp K]

theorem headComponents_neZero : NeZero 128 := ⟨by decide⟩

/-- The attention of a row of tokens. -/
def attentionRow (ts : List (Token K (Fin 128))) : RowValue (Ext K) (Ext K) where
  output c := .fin (attentionMean ts (@Fin.ofNat 128 headComponents_neZero c))
  lse := .fin (attentionLse ts)

/-- Results of the host, as the device holds them. -/
def AttentionOut.onDevice (out : AttentionOut K K) : AttentionOut (Ext K) (Ext K) :=
  ⟨finArray out.output, finArray out.lse⟩

theorem rowOrNothing_attention (row : Nat) (ts : List (Token K (Fin 128))) (thread : Nat) :
    rowOrNothing row (some (attentionRow ts)) thread =
      if thread < warpThreads then resultWrites row ts thread else ⟨[], []⟩ := rfl

/-- Serving every row below `rows` does what a reference does that fills them. -/
theorem servedOut_filled {tokens : Nat → List (Token K (Fin 128))} {before out : AttentionOut K K}
    {rows : Nat} (filled : Filled tokens before rows out)
    {values : Nat → Option (RowValue (Ext K) (Ext K))}
    (live : ∀ row < rows, values row = some (attentionRow (tokens row)))
    (inside : ∀ row, rows ≤ row → values row = none) :
    servedOut values before.onDevice = out.onDevice := by
  unfold servedOut AttentionOut.onDevice
  congr 1
  · funext i
    rcases Nat.lt_or_ge (i / singleDecodeHeadDim) rows with small | large
    · have mean := filled.output _ small (Fin.ofNat 128 (i % 128))
      have column := Nat.mod_lt i (show 0 < 128 by decide)
      rw [live _ small]
      simp only [attentionRow, finArray, ← mean]
      simp [Nat.mod_eq_of_lt column, Nat.div_add_mod']
    · rw [inside _ large]
      have outside : rows * 128 ≤ i := (Nat.le_div_iff_mul_le (by decide)).mp large
      exact congrArg Ext.fin (filled.output_frame i outside).symm
  · funext row
    rcases Nat.lt_or_ge row rows with small | large
    · rw [live _ small]
      exact congrArg Ext.fin (filled.lse row small).symm
    · rw [inside _ large]
      exact congrArg Ext.fin (filled.lse_frame row large).symm

theorem loopsReturn_exact (query key value : Nat → K) :
    (extOps K).LoopsReturn (.fin (scaleLog2 K)) (finArray query) (finArray key) (finArray value) := by
  intro queryOffset off lo hi h
  obtain ⟨s, run, -⟩ := tokenLoop_exact query key value queryOffset (.fin 0) h fun _ _ _ => rfl
  exact ⟨s, run⟩

variable [IsStrictOrderedRing K]

/-- One warp computes the attention of a row with tokens. -/
theorem directRow_exact (query key value : Nat → K) (row : Nat) (off : Nat → Nat) {lo hi lane : Nat}
    (h : lo < hi) (hl : lane < warpThreads) :
    (extOps K).directRow (.fin (scaleLog2 K)) (finArray query) (finArray key) (finArray value) row off
        lo hi lane =
      .ok (rowOrNothing row (some (attentionRow
        (rowTokens scoreLog2 query key value (row * 128) off lo hi))) lane) := by
  obtain ⟨s, run, -, sum⟩ := tokenLoop_exact query key value (row * singleDecodeHeadDim) (.fin 0)
    h.le fun _ _ _ => rfl
  rw [rowOrNothing_attention, if_pos hl, DeviceOps.directRow]
  refine (congrArg (· >>= _) run).trans ?_
  rw [ok_bind, storeResult_exact (sum h) (rowTokens_ne_nil _ _ h) row hl]
  rfl

/-- So do the warps of a block, also when some of them have no tokens. -/
theorem tokenParallelRow_exact {warps : Nat} (hw : 0 < warps)
    {merge : Nat → SoftmaxState (Ext K) Nat → SoftmaxState (Ext K) Nat →
      DeviceM (SoftmaxState (Ext K) Nat)}
    {init : SoftmaxState (Ext K) Nat} (merges : AppendsStates warps merge init)
    (query key value : Nat → K) (row : Nat) (off : Nat → Nat) (start : Nat) {count : Nat}
    (h : 0 < count) (partialStates : Nat → Ext K) (thread : Nat) :
    (extOps K).tokenParallelRow warps merge init (.fin (scaleLog2 K)) (finArray query) (finArray key)
        (finArray value) row off start count partialStates thread =
      .ok (rowOrNothing row (some (attentionRow (rowTokens scoreLog2 query key value (row * 128) off
        start (start + count)))) thread) := by
  rw [rowOrNothing_attention]
  exact tokenParallelBlock_floorCut start hw h merges query key value _ _ (fun _ _ _ => rfl)
    partialStates row thread

end Exact

end LoomKernels
