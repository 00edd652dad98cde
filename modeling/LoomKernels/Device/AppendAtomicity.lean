import LoomKernels.Device.AppendKernels

/-!
# All or nothing in the single-token append

The single-token kernel is meant to append to every request or to none: the host validator rejects a
table in which two requests end in one slot, and the kernel checks the same before it writes. But
each block compares its own request with the others, and no block sees a duplicate between two other
requests.

`allOrNothing_iff` is the exact condition. The kernel is all-or-nothing unless the table is well
formed, two requests share a final slot, and some request shares with none: that request's blocks
write, the others do not.
-/

namespace LoomKernels

section Atomicity

variable {B : Type} [Inhabited B] {rotate : Nat → Nat → B → B → B × B}
  {spec : Bf16RopePagedKvAppendSpec} {pageIndptr pageIndices lastPageLen : Slice Int32}

/-- A thread of a single-token launch. -/
abbrev AppendThread (spec : Bf16RopePagedKvAppendSpec) :=
  GridThread (spec.batchSize * (spec.numQueryHeads + spec.numKvHeads)) ropeBlockThreads

/-- The request of a thread. -/
def threadRequest (spec : Bf16RopePagedKvAppendSpec) (t : AppendThread spec) : Nat :=
  t.1 / (spec.numQueryHeads + spec.numKvHeads)

theorem threadRequest_lt (t : AppendThread spec) : threadRequest spec t < spec.batchSize :=
  (lt_rows_iff (Nat.add_pos_right _ spec.paged.kvHeads_pos)).mpr t.1.isLt

/-- The kernel over the page table of one launch. -/
def appendLaunch (rotate : Nat → Nat → B → B → B × B) (spec : Bf16RopePagedKvAppendSpec)
    (pageIndptr pageIndices lastPageLen : Slice Int32) : Nat → Nat → DeviceM (List (Op AppendAddress B)) :=
  appendKernel rotate spec.batchSize spec.maxNumPages spec.numQueryHeads spec.numKvHeads pageIndptr
    pageIndices lastPageLen

/-- The write phase of a thread, to the final slot of its request. -/
def finalWrites (rotate : Nat → Nat → B → B → B × B) (spec : Bf16RopePagedKvAppendSpec)
    (pageIndptr pageIndices lastPageLen : Slice Int32) (t : AppendThread spec) :
    List (Op AppendAddress B) :=
  let slot := pagedFinalSlot pageIndptr pageIndices lastPageLen (threadRequest spec t)
  appendWrites rotate spec.numQueryHeads spec.numKvHeads t.1 t.2
    (pagedKvLen pageIndptr lastPageLen (threadRequest spec t) - 1) slot.1 slot.2

/-- The kernel appends to every request or to none, as the host validator decides: on a rejected
table, no complete run changes an output; on an accepted one, every thread performs its writes. -/
def AllOrNothing (rotate : Nat → Nat → B → B → B × B) (spec : Bf16RopePagedKvAppendSpec)
    (pageIndptr pageIndices lastPageLen : Slice Int32) : Prop :=
  ∃ program : AppendThread spec → List (Op AppendAddress B),
    Launched (appendLaunch rotate spec pageIndptr pageIndices lastPageLen) program ∧
    ((∀ table, spec.validatePageTable pageIndptr pageIndices lastPageLen ≠ .ok table) →
      ∀ mem schedule, ((Config.start mem program).run schedule).Complete →
        ∀ a : AppendAddress, a.1.IsOutput →
          ((Config.start mem program).run schedule).mem a = mem a) ∧
    ((∃ table, spec.validatePageTable pageIndptr pageIndices lastPageLen = .ok table) →
      ∀ t, program t = finalWrites rotate spec pageIndptr pageIndices lastPageLen t)

/-- A well-formed table in which two requests share their final slot and another shares with
none. -/
structure PartlyShared (spec : Bf16RopePagedKvAppendSpec)
    (pageIndptr pageIndices lastPageLen : Slice Int32) : Prop where
  table : PageTableWellFormed spec.batchSize spec.maxNumPages pageIndptr pageIndices lastPageLen
  shared : ∃ first second, first < second ∧ second < spec.batchSize ∧
    pagedFinalSlot pageIndptr pageIndices lastPageLen first =
      pagedFinalSlot pageIndptr pageIndices lastPageLen second
  alone : ∃ request < spec.batchSize,
    FinalSlotUnique spec.batchSize pageIndptr pageIndices lastPageLen request

/-! ## The threads that write -/

/-- The condition under which the threads of a request write. -/
def RequestWrites (spec : Bf16RopePagedKvAppendSpec)
    (pageIndptr pageIndices lastPageLen : Slice Int32) (request : Nat) : Prop :=
  PageTableWellFormed spec.batchSize spec.maxNumPages pageIndptr pageIndices lastPageLen ∧
    FinalSlotUnique spec.batchSize pageIndptr pageIndices lastPageLen request

/-- No thread faults; a thread has its whole write phase or nothing to do. -/
theorem appendLaunch_ok (rotate : Nat → Nat → B → B → B × B)
    (lengths : PageTableLengths spec.batchSize pageIndptr pageIndices lastPageLen)
    (t : AppendThread spec) :
    ∃ ops, appendLaunch rotate spec pageIndptr pageIndices lastPageLen t.1 t.2 = .ok ops ∧
      (RequestWrites spec pageIndptr pageIndices lastPageLen (threadRequest spec t) →
        ops = finalWrites rotate spec pageIndptr pageIndices lastPageLen t) ∧
      (¬ RequestWrites spec pageIndptr pageIndices lastPageLen (threadRequest spec t) →
        ops = []) := by
  obtain ⟨found, run, slots⟩ := appendGuard_ok spec.maxNumPages lengths t.1.isLt
    t.2.isLt
  rw [appendLaunch, appendKernel, run, ok_bind]
  cases found with
  | none =>
    refine ⟨[], rfl, fun writes => ?_, fun _ => rfl⟩
    cases (slots _).mpr ⟨writes.1, writes.2, rfl⟩
  | some slot =>
    obtain ⟨table, unique, rfl⟩ := (slots slot).mp rfl
    exact ⟨_, rfl, fun _ => rfl, fun silent => absurd ⟨table, unique⟩ silent⟩

theorem launched_eq (lengths : PageTableLengths spec.batchSize pageIndptr pageIndices lastPageLen)
    {program : AppendThread spec → List (Op AppendAddress B)}
    (launched : Launched (appendLaunch rotate spec pageIndptr pageIndices lastPageLen) program)
    (t : AppendThread spec) :
    (RequestWrites spec pageIndptr pageIndices lastPageLen (threadRequest spec t) →
      program t = finalWrites rotate spec pageIndptr pageIndices lastPageLen t) ∧
    (¬ RequestWrites spec pageIndptr pageIndices lastPageLen (threadRequest spec t) →
      program t = []) := by
  obtain ⟨ops, run, writes⟩ := appendLaunch_ok rotate lengths t
  obtain rfl : program t = ops := Except.ok.inj ((launched t).symm.trans run)
  exact writes

/-- The validator accepts exactly the tables on which every request writes. -/
theorem validatePageTable_accepts :
    (∃ table, spec.validatePageTable pageIndptr pageIndices lastPageLen = .ok table) ↔
      PageTableWellFormed spec.batchSize spec.maxNumPages pageIndptr pageIndices lastPageLen ∧
      ∀ request < spec.batchSize,
        FinalSlotUnique spec.batchSize pageIndptr pageIndices lastPageLen request := by
  constructor
  · rintro ⟨_, h⟩
    obtain ⟨valid, -⟩ := spec.validatePageTable_eq_ok.mp h
    refine ⟨valid.table, fun request hr other ho hne he => hne ?_⟩
    exact (pairwise_injective valid.distinct request hr other ho he).symm
  · rintro ⟨table, unique⟩
    exact ⟨_, spec.validatePageTable_eq_ok.mpr ⟨⟨table, fun first second hlt hs =>
      unique first (hlt.trans hs) second hs hlt.ne'⟩, rfl⟩⟩

/-! ## The two directions -/

/-- Without a partly shared table, the kernel is all-or-nothing. -/
theorem allOrNothing_of_not_partlyShared
    (lengths : PageTableLengths spec.batchSize pageIndptr pageIndices lastPageLen)
    (h : ¬ PartlyShared spec pageIndptr pageIndices lastPageLen) :
    AllOrNothing rotate spec pageIndptr pageIndices lastPageLen := by
  choose program launched _ using fun t : AppendThread spec => appendLaunch_ok rotate lengths t
  refine ⟨program, launched, fun rejected mem schedule _ a _ => ?_, fun accepted t => ?_⟩
  · -- no request writes: one that did would be the one that shares with none
    have silent : ∀ t, program t = [] := fun t => (launched_eq lengths launched t).2 fun writes => by
      refine h ⟨writes.1, ?_, threadRequest spec t, threadRequest_lt t, writes.2⟩
      by_contra none
      push Not at none
      obtain ⟨table, found⟩ := validatePageTable_accepts.mpr
        ⟨writes.1, fun request hr other ho hne he => by
          rcases Nat.lt_or_gt_of_ne hne with hlt | hlt
          · exact none other request hlt hr he.symm
          · exact none request other hlt ho he⟩
      exact rejected table found
    refine run_frame (fun t _ b hb => ?_) schedule fun t => ?_
    · rw [silent t] at hb
      cases hb
    · rw [silent t]
      exact List.not_mem_nil
  · obtain ⟨table, unique⟩ := validatePageTable_accepts.mp accepted
    exact (launched_eq lengths launched t).1 ⟨table, unique _ (threadRequest_lt t)⟩

/-- On a partly shared table, the request that shares with none is written. -/
theorem not_allOrNothing [Nontrivial B]
    (partly : PartlyShared spec pageIndptr pageIndices lastPageLen) :
    ¬ AllOrNothing rotate spec pageIndptr pageIndices lastPageLen := by
  rintro ⟨program, launched, nothing, -⟩
  have lengths := partly.table.lengths
  obtain ⟨first, second, hlt, hs, same⟩ := partly.shared
  obtain ⟨request, hr, unique⟩ := partly.alone
  obtain ⟨old, new, differ⟩ := exists_pair_ne B
  have rejected : ∀ table, spec.validatePageTable pageIndptr pageIndices lastPageLen ≠ .ok table :=
    fun table found => (validatePageTable_accepts.mp ⟨table, found⟩).2 first (hlt.trans hs) second hs
      hlt.ne' same
  -- the first thread of the first key/value head of the request that shares with none
  have head : spec.numQueryHeads < spec.numQueryHeads + spec.numKvHeads :=
    Nat.lt_add_of_pos_right spec.paged.kvHeads_pos
  let t : AppendThread spec := (⟨request * (spec.numQueryHeads + spec.numKvHeads) +
    spec.numQueryHeads, rowMajor_lt hr head⟩, ⟨0, by decide⟩)
  have ht : threadRequest spec t = request := row_div head
  have own : program t = finalWrites rotate spec pageIndptr pageIndices lastPageLen t :=
    (launched_eq lengths launched t).1 ⟨partly.table, ht ▸ unique⟩
  have cases : ∀ u, program u = finalWrites rotate spec pageIndptr pageIndices lastPageLen u ∨
      program u = [] := fun u =>
    (em _).imp (launched_eq lengths launched u).1 (launched_eq lengths launched u).2
  have separate : ∀ u u' b, Op.read b ∈ program u → b ∉ writeSet (program u') := by
    intro u u' b hb
    rcases cases u with hu | hu
    · rcases cases u' with hu' | hu'
      · rw [hu'] at *
        rw [hu] at hb
        exact appendWrites_separate u'.2.isLt hb
      · rw [hu']
        exact List.not_mem_nil
    · rw [hu] at hb
      cases hb
  -- values are copied, so `new` values over `old` pages show the write
  let mem : AppendAddress → B := appendMemory (fun _ => old) (fun _ => old) (fun _ => new)
    ⟨fun _ => old, fun _ => old, fun _ => old⟩
  obtain ⟨schedule, complete⟩ := exists_complete mem program (List.finRange _ ×ˢ List.finRange _)
    fun u hu =>
      absurd (List.pair_mem_product.mpr ⟨List.mem_finRange u.1, List.mem_finRange u.2⟩) hu
  obtain ⟨a, ha, page⟩ : ∃ a ∈ writeSet (program t), a.1 = .valuePages := by
    rw [own]
    exact ⟨_, (mem_writeSet_appendWrites (fun _ => old) (fun _ => old) (fun _ => new) t.2.isLt).mpr
      ⟨_, .value (Or.inl rfl) (row_mod head).ge⟩, rfl⟩
  have agree : ∀ u, ∀ w ∈ effects mem [] (program u), w.1 = a → w.2 = new := by
    rintro u ⟨b, v⟩ hw rfl
    rcases cases u with hu | hu
    · rw [hu] at hw
      cases (mem_effects_appendWrites u.2.isLt).mp hw with
      | query => cases page
      | key => cases page
      | value => rfl
    · rw [hu] at hw
      cases hw
  have kept := nothing rejected mem schedule complete a (Or.inr (Or.inr page))
  have initial : mem a = old := by
    obtain ⟨_, i⟩ := a
    subst page
    rfl
  exact differ ((initial.symm.trans kept.symm).trans
    (complete_run_written separate agree complete ha))

/-- The single-token kernel is all-or-nothing exactly when the page table is not partly shared. -/
theorem allOrNothing_iff [Nontrivial B] (rotate : Nat → Nat → B → B → B × B)
    (spec : Bf16RopePagedKvAppendSpec) (pageIndptr pageIndices lastPageLen : Slice Int32)
    (lengths : PageTableLengths spec.batchSize pageIndptr pageIndices lastPageLen) :
    AllOrNothing rotate spec pageIndptr pageIndices lastPageLen ↔
      ¬ PartlyShared spec pageIndptr pageIndices lastPageLen :=
  ⟨fun h partly => not_allOrNothing partly h, allOrNothing_of_not_partlyShared lengths⟩

end Atomicity

/-! ## Three requests -/

/-- Three requests with one head each, and two pages. -/
def threeRequestSpec : Bf16RopePagedKvAppendSpec where
  paged := {
    batchSize := 3
    maxNumPages := 2
    numQueryHeads := 1
    numKvHeads := 1
    batch_pos := Nat.succ_pos 2
    pages_pos := Nat.two_pos
    queryHeads_pos := Nat.one_pos
    kvHeads_pos := Nat.one_pos
    group := oneHead_divides
    batch_fits := by decide
    query_fits := threeRows_fit
    pages_fit := twoPages_fit }

theorem allOrNothing_iff_threeRequests :
    AllOrNothing (appendRotation shiftFirst) threeRequestSpec (Slice.ofList [0, 1, 2, 3])
        (Slice.ofList [0, 1, 0]) (Slice.ofList [1, 1, 2]) ↔
      ¬ PartlyShared threeRequestSpec (Slice.ofList [0, 1, 2, 3]) (Slice.ofList [0, 1, 0])
        (Slice.ofList [1, 1, 2]) :=
  allOrNothing_iff (appendRotation shiftFirst) threeRequestSpec (Slice.ofList [0, 1, 2, 3])
    (Slice.ofList [0, 1, 0]) (Slice.ofList [1, 1, 2]) ⟨rfl, by decide, rfl⟩

/-- Requests 0 and 1 end in slot 0 of page 0, request 2 in slot 0 of page 1: the validator rejects
the table, and the blocks of request 2 write. -/
theorem threeRequests_not_allOrNothing :
    ¬ AllOrNothing (appendRotation shiftFirst) threeRequestSpec (Slice.ofList [0, 1, 2, 3])
      (Slice.ofList [0, 0, 1]) (Slice.ofList [1, 1, 1]) := by
  refine not_allOrNothing ⟨threeRequestSpec.paged.checkPageTable_eq_ok.mp rfl,
    ⟨0, 1, by decide, by decide, by decide⟩, 2, by decide, fun other ho hne => ?_⟩
  have ho : other < 3 := ho
  obtain rfl | rfl : other = 0 ∨ other = 1 := by omega
  · decide
  · decide

end LoomKernels
