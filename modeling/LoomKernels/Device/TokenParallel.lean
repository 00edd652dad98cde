import LoomKernels.Device.WarpSoftmax

/-!
# Rows split over warps

A token-parallel block splits the tokens of one row over its warps. Each warp stores its state in
shared memory (`sharedStates`), and after the barrier warp zero merges the states in order
(`mergeShared`). Which order the stores take does not matter: an address of the states belongs to
one component of one state (`stateImage`).

In exact arithmetic the merged state stands for the tokens of all warps, in order
(`mergeShared_exact`), and a launch whose block `row` writes the result of that row computes the
attention of every row (`launchComputes_rows`).
-/

namespace LoomKernels

/-! ## Stored states -/

section Stores

variable {F : Type}

/-- Number `i` of a stored state. -/
def stateField (s : SoftmaxState F Nat) (i : Nat) : F :=
  if i = 0 then s.max else if i = 1 then s.norm else s.acc (i - 2)

/-- What address `a` of an array of stored states holds. -/
def stateImage (states : Nat → SoftmaxState F Nat) (a : Nat) : F :=
  stateField (states (a / singleDecodePartialStateWidth)) (a % singleDecodePartialStateWidth)

/-- The lane that stores number `i` of a state. -/
def stateLane (i : Nat) : Nat := if i < 2 then 0 else (i - 2) % 64 / 2

theorem stateLane_lt (i : Nat) : stateLane i < warpThreads := by
  simp only [stateLane, warpThreads]
  split <;> omega

/-- The numbers of a state that a lane stores. -/
def laneNumbers (lane : Nat) : List Nat :=
  (if lane = 0 then [0, 1] else []) ++ (List.range 4).map fun slot => 2 + laneComponent lane slot

theorem mem_laneNumbers {lane i : Nat} (hl : lane < warpThreads) :
    i ∈ laneNumbers lane ↔ i < singleDecodePartialStateWidth ∧ stateLane i = lane := by
  simp only [laneNumbers, laneComponent, stateLane, singleDecodePartialStateWidth,
    singleDecodeHeadDim, warpThreads, List.mem_append, List.mem_map, List.mem_range] at *
  constructor
  · rintro (header | ⟨slot, hs, rfl⟩)
    · split at header
      · simp only [List.mem_cons, List.not_mem_nil, or_false] at header
        rw [if_pos (by omega)]
        omega
      · simp at header
    · rw [if_neg (by omega)]
      omega
  · rintro ⟨hi, rfl⟩
    split
    · left
      rw [if_pos rfl]
      simp only [List.mem_cons, List.not_mem_nil, or_false]
      omega
    · right
      exact ⟨(i - 2) / 64 * 2 + (i - 2) % 2, by omega, by omega⟩

theorem laneNumbers_nodup (lane : Nat) : (laneNumbers lane).Nodup := by
  refine List.Nodup.append ?_ ?_ ?_
  · split <;> simp
  · refine List.nodup_range.map_on fun slot hs slot' hs' h => ?_
    simp only [List.mem_range, laneComponent, warpThreads] at hs hs' h
    omega
  · split
    · intro i header rest
      simp only [List.mem_cons, List.not_mem_nil, or_false, List.mem_map, laneComponent,
        warpThreads] at header rest
      omega
    · simp

theorem storeState_eq (offset : Nat) (s : SoftmaxState F Nat) (lane : Nat) :
    storeState offset s lane =
      (laneNumbers lane).map fun i => (offset + i, stateField s i) := by
  have acc : ∀ c, stateField s (2 + c) = s.acc c := fun c => by
    rw [stateField, if_neg (by omega), if_neg (by omega), Nat.add_sub_cancel_left]
  rw [storeState, laneNumbers, List.map_append, List.map_map]
  congr 1
  · split <;> rfl
  · refine List.map_congr_left fun slot _ => ?_
    rw [Function.comp_apply, acc, Nat.add_assoc]

/-- The addresses that a lane stores of state `p`. -/
theorem mem_storeState_fst {p lane a : Nat} {s : SoftmaxState F Nat} (hl : lane < warpThreads) :
    a ∈ (storeState (p * singleDecodePartialStateWidth) s lane).map Prod.fst ↔
      a / singleDecodePartialStateWidth = p ∧
        lane = stateLane (a % singleDecodePartialStateWidth) := by
  rw [storeState_eq, List.map_map, List.mem_map]
  constructor
  · rintro ⟨i, hi, rfl⟩
    obtain ⟨small, rfl⟩ := (mem_laneNumbers hl).mp hi
    exact ⟨row_div small, by rw [Function.comp_apply, row_mod small]⟩
  · rintro ⟨rfl, rfl⟩
    exact ⟨a % singleDecodePartialStateWidth,
      (mem_laneNumbers hl).mpr ⟨Nat.mod_lt _ (by decide), rfl⟩, Nat.div_add_mod' _ _⟩

/-- Every stored number is where the array of states has it. -/
theorem storeState_agree {states : Nat → SoftmaxState F Nat} {p lane : Nat} {w : Nat × F}
    (hl : lane < warpThreads)
    (h : w ∈ storeState (p * singleDecodePartialStateWidth) (states p) lane) :
    w.2 = stateImage states w.1 := by
  rw [storeState_eq, List.mem_map] at h
  obtain ⟨i, hi, rfl⟩ := h
  have small := ((mem_laneNumbers hl).mp hi).1
  rw [stateImage, row_div small, row_mod small]

theorem storeState_count {p lane a : Nat} {s : SoftmaxState F Nat}
    (h : a ∈ (storeState (p * singleDecodePartialStateWidth) s lane).map Prod.fst) :
    ((storeState (p * singleDecodePartialStateWidth) s lane).map Prod.fst).count a = 1 := by
  refine List.count_eq_one_of_mem ?_ h
  rw [storeState_eq, List.map_map]
  exact (laneNumbers_nodup lane).map fun i j => Nat.add_left_cancel

/-- States that are each stored by the lanes of their own block are stored exactly once. -/
theorem storeStates_once {n : Nat} {states : Nat → SoftmaxState F Nat}
    {writes : Nat → Nat → List (Nat × F)}
    (same : ∀ p < n, ∀ lane < warpThreads,
      writes p lane = storeState (p * singleDecodePartialStateWidth) (states p) lane)
    {a : Nat} (ha : a < n * singleDecodePartialStateWidth) :
    WrittenOnce n warpThreads writes a := by
  have hp : a / singleDecodePartialStateWidth < n := (lt_rows_iff (by decide)).mpr ha
  have hl := stateLane_lt (a % singleDecodePartialStateWidth)
  refine ⟨_, hp, _, hl, ?_, fun p hp lane hl h => ?_⟩
  · rw [same _ hp _ hl]
    exact storeState_count ((mem_storeState_fst hl).mpr ⟨rfl, rfl⟩)
  · rw [same p hp lane hl, mem_storeState_fst hl] at h
    exact ⟨h.1.symm, h.2⟩

/-- Whatever the order of the writes and the contents before, the states are then in place. -/
theorem storeStates_final {n : Nat} {states : Nat → SoftmaxState F Nat}
    {writes : Nat → Nat → List (Nat × F)}
    (same : ∀ p < n, ∀ lane < warpThreads,
      writes p lane = storeState (p * singleDecodePartialStateWidth) (states p) lane)
    {order : List (Nat × F)} (perm : order.Perm (gridWrites n warpThreads writes)) (before : Nat → F)
    {a : Nat} (ha : a < n * singleDecodePartialStateWidth) :
    applyWrites order before a = stateImage states a := by
  refine (storeStates_once same ha).final (fun p hp lane hl w hw => ?_) perm before
  rw [same p hp lane hl] at hw
  exact storeState_agree hl hw

/-- A state is read back from an address that holds its numbers. -/
theorem loadState_fields {s : SoftmaxState F Nat} {mem : Nat → F} {offset : Nat}
    (fields : ∀ i < singleDecodePartialStateWidth, mem (offset + i) = stateField s i) :
    (loadState mem offset).restrict = s.restrict := by
  have acc : ∀ c : Fin 128, mem (offset + 2 + c) = s.acc c := fun c => by
    have small := c.isLt
    have := fields (2 + c) (by simp only [singleDecodePartialStateWidth, singleDecodeHeadDim]; omega)
    rwa [← Nat.add_assoc, stateField, if_neg (by omega), if_neg (by omega),
      Nat.add_sub_cancel_left] at this
  have max : mem offset = s.max := fields 0 (by decide)
  have norm : mem (offset + 1) = s.norm := fields 1 (by decide)
  simp only [loadState, SoftmaxState.restrict, max, norm, acc]

theorem loadState_image {states : Nat → SoftmaxState F Nat} {mem : Nat → F} {n p : Nat}
    (image : ∀ a < n * singleDecodePartialStateWidth, mem a = stateImage states a) (hp : p < n) :
    (loadState mem (p * singleDecodePartialStateWidth)).restrict = (states p).restrict :=
  loadState_fields fun i hi => by
    rw [image _ (rowMajor_lt hp hi), stateImage, row_div hi, row_mod hi]

end Stores

/-! ## Shared memory -/

section Shared

variable {F : Type}

/-- The states of the warps in shared memory, after the barrier. -/
def sharedStates (warps : Nat) (loop : Nat → DeviceM (SoftmaxState F Nat)) (shared : Nat → F) :
    DeviceM (Nat → F) :=
  forRangeM 0 warps
    (fun warp mem => do
      let s ← loop warp
      let writes := (List.range warpThreads).flatMap
        (storeState (warp * singleDecodePartialStateWidth) s)
      return applyWrites writes mem)
    shared

/-- The merge loop of warp zero over stored states `lo..hi`. -/
def mergeShared (lo hi : Nat)
    (merge : Nat → SoftmaxState F Nat → SoftmaxState F Nat → DeviceM (SoftmaxState F Nat))
    (init : SoftmaxState F Nat) (load : Nat → SoftmaxState F Nat) : DeviceM (SoftmaxState F Nat) :=
  forRangeM lo hi (fun p s => merge p s (load p)) init

/-- A warp overwrites its own state. -/
theorem storeWarp_apply {states : Nat → SoftmaxState F Nat} {mem : Nat → F} {warp a : Nat} :
    applyWrites ((List.range warpThreads).flatMap
        (storeState (warp * singleDecodePartialStateWidth) (states warp))) mem a =
      if a / singleDecodePartialStateWidth = warp then stateImage states a else mem a := by
  have named : a ∈ ((List.range warpThreads).flatMap
      (storeState (warp * singleDecodePartialStateWidth) (states warp))).map Prod.fst ↔
        a / singleDecodePartialStateWidth = warp := by
    rw [List.map_flatMap, List.mem_flatMap]
    constructor
    · rintro ⟨lane, hl, h⟩
      exact ((mem_storeState_fst (List.mem_range.mp hl)).mp h).1
    · intro h
      have hl := stateLane_lt (a % singleDecodePartialStateWidth)
      exact ⟨_, List.mem_range.mpr hl, (mem_storeState_fst hl).mpr ⟨h, rfl⟩⟩
  split
  · rename_i mine
    refine applyWrites_of_agree (fun w hw => ?_) (named.mpr mine)
    obtain ⟨lane, hl, hw⟩ := List.mem_flatMap.mp hw
    exact storeState_agree (List.mem_range.mp hl) hw
  · rename_i other
    exact applyWrites_of_not_mem fun h => other (named.mp h)

/-- After the barrier every warp's state is in place. -/
theorem sharedStates_ok {warps : Nat} {loop : Nat → DeviceM (SoftmaxState F Nat)}
    {states : Nat → SoftmaxState F Nat} (shared : Nat → F)
    (h : ∀ warp < warps, loop warp = .ok (states warp)) :
    ∃ mem, sharedStates warps loop shared = .ok mem ∧
      ∀ a < warps * singleDecodePartialStateWidth, mem a = stateImage states a := by
  refine forRangeM_invariant
    (P := fun n (mem : Nat → F) =>
      ∀ a < n * singleDecodePartialStateWidth, mem a = stateImage states a)
    (Nat.zero_le _) (by simp) ?_
  intro warp mem _ hw image
  refine ⟨_, by rw [h warp hw]; rfl, fun a ha => ?_⟩
  rw [storeWarp_apply]
  split
  · rfl
  · rename_i other
    have : a / singleDecodePartialStateWidth < warp + 1 := (lt_rows_iff (by decide)).mpr ha
    exact image a ((lt_rows_iff (by decide)).mp (by omega))

end Shared

/-! ## Exact merges -/

section Exact

variable {K : Type} [Field K] [LinearOrder K] [ExactExp K]

/-- A merge loop whose first pass takes the first state and whose later passes append one leaves a
state for the tokens of all states, in order. -/
theorem mergeShared_exact {lo hi : Nat} (h : lo < hi)
    {merge : Nat → SoftmaxState (Ext K) Nat → SoftmaxState (Ext K) Nat →
      DeviceM (SoftmaxState (Ext K) Nat)}
    {init : SoftmaxState (Ext K) Nat} {load : Nat → SoftmaxState (Ext K) Nat}
    {ts : Nat → List (Token K (Fin 128))}
    (first : ∃ m, merge lo init (load lo) = .ok m ∧ ExtSummarises m.restrict (ts lo))
    (later : ∀ p, lo < p → p < hi → ∀ s us, ExtSummarises s.restrict us →
      ∃ m, merge p s (load p) = .ok m ∧ ExtSummarises m.restrict (us ++ ts p)) :
    ∃ m, mergeShared lo hi merge init load = .ok m ∧
      ExtSummarises m.restrict ((List.range' lo (hi - lo)).flatMap ts) := by
  have loop : ∃ m, mergeShared lo hi merge init load = .ok m ∧ (hi = lo → m = init) ∧
      (lo < hi → ExtSummarises m.restrict ((List.range' lo (hi - lo)).flatMap ts)) := by
    refine forRangeM_invariant
      (P := fun n s => (n = lo → s = init) ∧ (lo < n →
        ExtSummarises s.restrict ((List.range' lo (n - lo)).flatMap ts)))
      h.le ⟨fun _ => rfl, fun hlt => absurd hlt (Nat.lt_irrefl _)⟩ ?_
    intro p s hlo hhi ⟨start, sum⟩
    rcases Nat.eq_or_lt_of_le hlo with rfl | hlt
    · obtain ⟨m, hm, sum⟩ := first
      refine ⟨m, by rw [start rfl, hm], fun h => by omega, fun _ => ?_⟩
      rw [Nat.add_sub_cancel_left, List.range'_one, List.flatMap_singleton]
      exact sum
    · have hlen : p + 1 - lo = (p - lo) + 1 := by omega
      have hlast : lo + 1 * (p - lo) = p := by omega
      obtain ⟨m, hm, sum⟩ := later p hlt hhi s _ (sum hlt)
      refine ⟨m, hm, fun h => by omega, fun _ => ?_⟩
      rw [hlen, List.range'_concat, hlast, List.flatMap_append, List.flatMap_singleton]
      exact sum
  obtain ⟨m, hm, -, sum⟩ := loop
  exact ⟨m, hm, sum h⟩

/-- Partial states that all have tokens, merged as the split-K kernel does. -/
theorem mergeEvery_states {lo hi : Nat} (h : lo < hi) {load : Nat → SoftmaxState (Ext K) Nat}
    {ts : Nat → List (Token K (Fin 128))} (init : SoftmaxState (Ext K) Nat)
    (loads : ∀ p, lo ≤ p → p < hi → ExtSummarises (load p).restrict (ts p))
    (nonempty : ∀ p, lo ≤ p → p < hi → ts p ≠ []) :
    ∃ m, mergeShared lo hi (fun p => (extOps K).mergeEvery (p == lo)) init load = .ok m ∧
      ExtSummarises m.restrict ((List.range' lo (hi - lo)).flatMap ts) := by
  refine mergeShared_exact h ⟨load lo, ?_, loads lo le_rfl h⟩ fun p hlt hp s us hs => ?_
  · rw [beq_self_eq_true]
    rfl
  · rw [beq_eq_false_iff_ne.mpr hlt.ne']
    exact mergeStates_exact hs (loads p hlt.le hp) (Or.inr (nonempty p hlt.le hp))

variable [IsStrictOrderedRing K]

/-- The merge loop of warp zero leaves a state for the tokens of all warps, in order, some of which
may have no tokens. -/
def AppendsStates (warps : Nat)
    (merge : Nat → SoftmaxState (Ext K) Nat → SoftmaxState (Ext K) Nat →
      DeviceM (SoftmaxState (Ext K) Nat))
    (init : SoftmaxState (Ext K) Nat) : Prop :=
  ∀ (load : Nat → SoftmaxState (Ext K) Nat) (ts : Nat → List (Token K (Fin 128))),
    (∀ p < warps, ExtSummarises (load p).restrict (ts p)) →
    ∃ m, mergeShared 0 warps merge init load = .ok m ∧
      ExtSummarises m.restrict ((List.range warps).flatMap ts)

theorem mergeNonempty_appends {warps : Nat} (hw : 0 < warps) :
    AppendsStates warps (fun _ => (extOps K).mergeNonempty)
      ⟨.negInf, .fin 0, fun _ => .fin 0⟩ := by
  intro load ts loads
  rw [List.range_eq_range']
  refine mergeShared_exact hw ?_ fun p _ hp s us hs => mergeNonempty_exact hs (loads p hp)
  exact mergeNonempty_exact (s := ⟨.negInf, .fin 0, fun _ => .fin 0⟩) extSummarises_empty
    (loads 0 hw)

theorem mergeAfterFirst_appends {warps : Nat} (hw : 0 < warps) (init : SoftmaxState (Ext K) Nat) :
    AppendsStates warps (fun p => (extOps K).mergeAfterFirst (p == 0)) init := by
  intro load ts loads
  rw [List.range_eq_range']
  refine mergeShared_exact hw ⟨load 0, rfl, loads 0 hw⟩ fun p hlt hp s us hs => ?_
  rw [beq_eq_false_iff_ne.mpr hlt.ne']
  exact mergeAfterFirst_exact hs (loads p hp)

end Exact

/-! ## Launches -/

section Launch

variable {F B : Type}

/-- What a launch has to do for `rows` rows of results: each element is written exactly once, and
in whatever order the writes take effect, it then holds its value. -/
structure LaunchComputes (blocks threads rows : Nat) (writes : Nat → Nat → AttentionWrites F B)
    (output : Nat → B) (lse : Nat → F) : Prop where
  output_once : ∀ i < rows * singleDecodeHeadDim,
    WrittenOnce blocks threads (fun block thread => (writes block thread).output) i
  lse_once : ∀ row < rows,
    WrittenOnce blocks threads (fun block thread => (writes block thread).lse) row
  output_final : ∀ order,
    order.Perm (gridWrites blocks threads fun block thread => (writes block thread).output) →
    ∀ before, ∀ i < rows * singleDecodeHeadDim, applyWrites order before i = output i
  lse_final : ∀ order,
    order.Perm (gridWrites blocks threads fun block thread => (writes block thread).lse) →
    ∀ before, ∀ row < rows, applyWrites order before row = lse row

theorem mem_rowResult_output {row lane a : Nat} {output : Nat → B} {lse : F}
    (hl : lane < warpThreads) :
    a ∈ ((rowResult row output lse lane).output).map Prod.fst ↔
      a / singleDecodeHeadDim = row ∧ lane = a % singleDecodeHeadDim % 64 / 2 := by
  rw [rowResult, List.map_map, List.mem_map]
  constructor
  · rintro ⟨slot, hs, rfl⟩
    have small := laneComponent_lt hl (List.mem_range.mp hs)
    refine ⟨row_div small, ?_⟩
    rw [Function.comp_apply, row_mod small]
    simp only [laneComponent, warpThreads, List.mem_range] at *
    omega
  · rintro ⟨rfl, rfl⟩
    have small := Nat.mod_lt a (show 0 < singleDecodeHeadDim by decide)
    obtain ⟨lane, hl, slot, hs, hc⟩ := exists_laneComponent small
    refine ⟨slot, List.mem_range.mpr hs, ?_⟩
    have : a % singleDecodeHeadDim % 64 / 2 = lane := by
      rw [← hc]
      simp only [laneComponent, warpThreads] at *
      omega
    rw [Function.comp_apply, this, hc, Nat.div_add_mod']

theorem rowResult_output_count {row lane a : Nat} {output : Nat → B} {lse : F}
    (h : a ∈ ((rowResult row output lse lane).output).map Prod.fst) :
    (((rowResult row output lse lane).output).map Prod.fst).count a = 1 := by
  refine List.count_eq_one_of_mem ?_ h
  rw [rowResult, List.map_map]
  refine List.nodup_range.map_on fun slot hs slot' hs' h => ?_
  simp only [Function.comp_apply, List.mem_range, laneComponent, warpThreads] at hs hs' h
  omega

theorem rowResult_output_agree {row lane : Nat} {output : Nat → Nat → B} {lse : F} {w : Nat × B}
    (hl : lane < warpThreads) (h : w ∈ (rowResult row (output row) lse lane).output) :
    w.2 = output (w.1 / singleDecodeHeadDim) (w.1 % singleDecodeHeadDim) := by
  obtain ⟨slot, hs, rfl⟩ := List.mem_map.mp h
  have small := laneComponent_lt hl (List.mem_range.mp hs)
  rw [row_div small, row_mod small]

/-- The writes of a launch whose block `row` writes row `row`, from its first warp. -/
def rowWrites (output : Nat → Nat → B) (lse : Nat → F) (row thread : Nat) : AttentionWrites F B :=
  if thread < warpThreads then rowResult row (output row) (lse row) thread else ⟨[], []⟩

/-- Such a launch computes every row. -/
theorem launchComputes_rows {rows threads : Nat} (ht : warpThreads ≤ threads)
    (output : Nat → Nat → B) (lse : Nat → F) {writes : Nat → Nat → AttentionWrites F B}
    (same : ∀ row < rows, ∀ thread < threads, writes row thread = rowWrites output lse row thread) :
    LaunchComputes rows threads rows writes
      (fun i => output (i / singleDecodeHeadDim) (i % singleDecodeHeadDim)) lse := by
  have output_once : ∀ i < rows * singleDecodeHeadDim,
      WrittenOnce rows threads (fun block thread => (writes block thread).output) i := by
    intro i hi
    have hrow : i / singleDecodeHeadDim < rows := (lt_rows_iff (by decide)).mpr hi
    have hlane : i % singleDecodeHeadDim % 64 / 2 < warpThreads := by
      simp only [singleDecodeHeadDim, warpThreads]
      omega
    refine ⟨_, hrow, i % singleDecodeHeadDim % 64 / 2, hlane.trans_le ht, ?_, ?_⟩
    · dsimp only
      rw [same _ hrow _ (hlane.trans_le ht), rowWrites, if_pos hlane]
      exact rowResult_output_count ((mem_rowResult_output hlane).mpr ⟨rfl, rfl⟩)
    · intro row hr thread hth h
      dsimp only at h
      rw [same row hr thread hth, rowWrites] at h
      split at h
      · rename_i hl
        exact ((mem_rowResult_output hl).mp h).imp Eq.symm id
      · simp at h
  have lse_once : ∀ row < rows,
      WrittenOnce rows threads (fun block thread => (writes block thread).lse) row := by
    intro row hr
    have zero : 0 < threads := Nat.lt_of_lt_of_le (by decide) ht
    refine ⟨row, hr, 0, zero, ?_, ?_⟩
    · dsimp only
      rw [same row hr 0 zero]
      simp [rowWrites, rowResult]
    · intro row' hr' thread hth h
      dsimp only at h
      rw [same row' hr' thread hth, rowWrites] at h
      split at h
      · simp only [rowResult] at h
        split at h
        · simp only [List.map_cons, List.map_nil, List.mem_singleton] at h
          exact ⟨h.symm, by assumption⟩
        · simp at h
      · simp at h
  refine ⟨output_once, lse_once, fun order perm before i hi => ?_,
    fun order perm before row hr => ?_⟩
  · refine (output_once i hi).final
      (f := fun i => output (i / singleDecodeHeadDim) (i % singleDecodeHeadDim)) ?_ perm before
    intro row hr thread hth w h
    rw [same row hr thread hth, rowWrites] at h
    split at h
    · rename_i hl
      exact rowResult_output_agree hl h
    · simp at h
  · refine (lse_once row hr).final (f := lse) ?_ perm before
    intro row' hr' thread hth w h
    rw [same row' hr' thread hth, rowWrites] at h
    split at h
    · simp only [rowResult] at h
      split at h
      · rw [List.mem_singleton.mp h]
      · simp at h
    · simp at h

end Launch

section ExactLaunch

variable {K : Type} [Field K] [LinearOrder K] [ExactExp K]

/-- A launch that writes the attention of every row computes what a reference has computed. -/
theorem launchComputes_filled {tokens : Nat → List (Token K (Fin 128))}
    {before out : AttentionOut K K} {rows threads : Nat} (ht : warpThreads ≤ threads)
    (filled : Filled tokens before rows out)
    {writes : Nat → Nat → AttentionWrites (Ext K) (Ext K)}
    (same : ∀ row < rows, ∀ thread < threads, writes row thread =
      if thread < warpThreads then resultWrites row (tokens row) thread else ⟨[], []⟩) :
    LaunchComputes rows threads rows writes (finArray out.output) (finArray out.lse) := by
  have computes := launchComputes_rows ht
    (fun row c => Ext.fin (attentionMean (tokens row) (Fin.ofNat 128 c)))
    (fun row => Ext.fin (attentionLse (tokens row))) same
  have output : ∀ i < rows * singleDecodeHeadDim,
      .fin (attentionMean (tokens (i / 128)) (Fin.ofNat 128 (i % 128))) = finArray out.output i := by
    intro i hi
    have small := Nat.mod_lt i (show 0 < 128 by decide)
    have := filled.output (i / 128) ((lt_rows_iff (by decide)).mpr hi) (Fin.ofNat 128 (i % 128))
    rw [finArray, ← this]
    simp [Nat.div_add_mod']
  refine ⟨computes.output_once, computes.lse_once, fun order perm before i hi => ?_,
    fun order perm before row hr => ?_⟩
  · rw [computes.output_final order perm before i hi, output i hi]
  · rw [computes.lse_final order perm before row hr, finArray, filled.lse row hr]

end ExactLaunch

/-! ## Token-parallel blocks -/

section Block

variable {F B : Type}

/-- A block that has passed its guard, in one thread: the warps' token loops, the barrier, and the
merge and the result by the first warp. -/
def DeviceOps.tokenParallelBlock (ops : DeviceOps F B) (warps : Nat)
    (merge : Nat → SoftmaxState F Nat → SoftmaxState F Nat → DeviceM (SoftmaxState F Nat))
    (init : SoftmaxState F Nat) (loop : Nat → DeviceM (SoftmaxState F Nat)) (shared : Nat → F)
    (row thread : Nat) : DeviceM (AttentionWrites F B) := do
  let shared ← sharedStates warps loop shared
  if thread / warpThreads ≠ 0 then return ⟨[], []⟩
  else
    let s ← mergeShared 0 warps merge init
      fun p => loadState shared (p * singleDecodePartialStateWidth)
    return ops.storeResult row s (thread % warpThreads)

end Block

section ExactBlock

variable {K : Type} [Field K] [LinearOrder K] [ExactExp K] [IsStrictOrderedRing K]

/-- The block computes the attention of its row when the warps' states stand for parts of the row's
tokens and the merge appends states. -/
theorem tokenParallelBlock_exact {warps : Nat}
    {merge : Nat → SoftmaxState (Ext K) Nat → SoftmaxState (Ext K) Nat →
      DeviceM (SoftmaxState (Ext K) Nat)}
    {init : SoftmaxState (Ext K) Nat} {loop : Nat → DeviceM (SoftmaxState (Ext K) Nat)}
    {ts : Nat → List (Token K (Fin 128))} (nonempty : (List.range warps).flatMap ts ≠ [])
    (loops : ∀ warp < warps, ∃ s, loop warp = .ok s ∧ ExtSummarises s.restrict (ts warp))
    (merges : ∀ load : Nat → SoftmaxState (Ext K) Nat,
      (∀ p < warps, ExtSummarises (load p).restrict (ts p)) →
      ∃ m, mergeShared 0 warps merge init load = .ok m ∧
        ExtSummarises m.restrict ((List.range warps).flatMap ts))
    (shared : Nat → Ext K) (row thread : Nat) :
    (extOps K).tokenParallelBlock warps merge init loop shared row thread =
      .ok (if thread < warpThreads then resultWrites row ((List.range warps).flatMap ts) thread
        else ⟨[], []⟩) := by
  have : Nonempty (SoftmaxState (Ext K) Nat) := ⟨SoftmaxState.empty⟩
  choose! states hloop sums using loops
  obtain ⟨mem, hmem, image⟩ := sharedStates_ok shared hloop
  rw [DeviceOps.tokenParallelBlock, hmem, ok_bind]
  by_cases first : thread < warpThreads
  · obtain ⟨m, hm, sum⟩ := merges
        (fun p => loadState mem (p * singleDecodePartialStateWidth)) fun p hp => by
      rw [loadState_image image hp]
      exact sums p hp
    rw [if_neg (by rw [Nat.div_eq_of_lt first]; exact not_not.mpr rfl), hm, ok_bind,
      Nat.mod_eq_of_lt first, storeResult_exact sum nonempty row first, if_pos first]
    rfl
  · have : 0 < thread / warpThreads := Nat.div_pos (Nat.le_of_not_lt first) (by decide)
    rw [if_pos (by omega), if_neg first]
    rfl

/-- The block computes the attention of its row when its warps share the row's tokens by the
proportional cut, empty parts included. -/
theorem tokenParallelBlock_floorCut {warps : Nat} (base : Nat) {n : Nat} (hw : 0 < warps) (hn : 0 < n)
    {merge : Nat → SoftmaxState (Ext K) Nat → SoftmaxState (Ext K) Nat →
      DeviceM (SoftmaxState (Ext K) Nat)}
    {init : SoftmaxState (Ext K) Nat}
    (merges : AppendsStates warps merge init) (query key value : Nat → K) (queryOffset : Nat)
    (kvOffset : Nat → DeviceM Nat) {off : Nat → Nat}
    (offsets : ∀ t, base ≤ t → t < base + n → kvOffset t = .ok (off t)) (shared : Nat → Ext K)
    (row thread : Nat) :
    (extOps K).tokenParallelBlock warps merge init
        (fun warp => (extOps K).tokenLoop (.fin (scaleLog2 K)) .negInf (finArray query)
          (finArray key) (finArray value) queryOffset kvOffset (base + floorCut n warps warp)
          (base + floorCut n warps (warp + 1)))
        shared row thread =
      .ok (if thread < warpThreads then resultWrites row
        (rowTokens scoreLog2 query key value queryOffset off base (base + n)) thread
        else ⟨[], []⟩) := by
  have mono : ∀ i < warps, base + floorCut n warps i ≤ base + floorCut n warps (i + 1) :=
    fun i _ => Nat.add_le_add_left (floorCut_mono n warps i) base
  have tokens := rowTokens_cells scoreLog2 query key value queryOffset off mono
  rw [floorCut_zero, floorCut_last hw, Nat.add_zero] at tokens
  rw [← tokens]
  refine tokenParallelBlock_exact ?_ (fun warp hwarp => ?_) (fun load => merges load _) shared row
    thread
  · rw [tokens]
    exact rowTokens_ne_nil _ _ (Nat.lt_add_of_pos_right hn)
  · refine tokenLoop_negInf query key value queryOffset (mono warp hwarp) fun t lo hi => ?_
    have := cut_le_cut (fun i _ => floorCut_mono n warps i) (show warp + 1 ≤ warps from hwarp)
      le_rfl
    rw [floorCut_last hw] at this
    exact offsets t (by omega) (by omega)

end ExactBlock

end LoomKernels
