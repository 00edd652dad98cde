import LoomKernels.Device.AppendAtomicity
import LoomKernels.Device.RopeKernel

/-!
# Isolation in the single-token append

On a page table of the right lengths, whatever it holds, a launch of the single-token kernel comes to
an end, and all its complete runs leave one memory: the requests of a well-formed table whose final
slot is shared with no other get their token, and everything else is as before
(`appendKernel_isolates`). A slot that two requests share is never written, so the order of the
threads cannot be seen.
-/

namespace LoomKernels

section Isolation

variable {B : Type}

/-- The effect of an append of one token to each of the requests that `writes` names. -/
structure PartialAppend (rotate : Nat → Nat → B → B → B × B)
    (batchSize numQueryHeads numKvHeads : Nat) (writes : Nat → Prop) (position : Nat → Nat)
    (slot : Nat → Nat × Nat) (query key value : Nat → B) (before out : AppendOut B) : Prop where
  stored : ∀ request < batchSize, writes request → ∀ head < numKvHeads, ∀ c < 128,
    out.keyPages (slotOffset numKvHeads head (slot request) + c) =
        rotatedHead 64 (rotate (position request)) key ((request * numKvHeads + head) * 128) c ∧
      out.valuePages (slotOffset numKvHeads head (slot request) + c) =
        value ((request * numKvHeads + head) * 128 + c)
  rotated : ∀ request < batchSize, writes request → ∀ head < numQueryHeads, ∀ c < 128,
    out.queryOutput ((request * numQueryHeads + head) * 128 + c) =
      rotatedHead 64 (rotate (position request)) query ((request * numQueryHeads + head) * 128) c
  pages : ∀ i, (∀ request < batchSize, writes request → ∀ head < numKvHeads,
      ¬ (slotOffset numKvHeads head (slot request) ≤ i ∧
        i < slotOffset numKvHeads head (slot request) + 128)) →
    out.keyPages i = before.keyPages i ∧ out.valuePages i = before.valuePages i
  queries : ∀ i, (∀ request < batchSize, writes request → ∀ head < numQueryHeads,
      i / 128 ≠ request * numQueryHeads + head) →
    out.queryOutput i = before.queryOutput i

variable {rotate : Nat → Nat → B → B → B × B} {query key value : Nat → B}
  {queryHeads keyHeads state pair position : Nat} {slot : Nat × Nat}

/-- A thread stores one value at an address. -/
theorem AppendStore.unique {a a' : AppendAddress} {v v' : B} (same : a = a')
    (store : AppendStore rotate query key value queryHeads keyHeads state pair position slot a v)
    (store' : AppendStore rotate query key value queryHeads keyHeads state pair position slot a'
      v') : v = v' := by
  cases store with
  | query =>
    cases store' with
    | query => rw [Nat.add_left_cancel (congrArg Prod.snd same)]
    | key => cases same
    | value => cases same
  | key =>
    cases store' with
    | query => cases same
    | key => rw [Nat.add_left_cancel (congrArg Prod.snd same)]
    | value => cases same
  | value =>
    cases store' with
    | query => cases same
    | key => cases same
    | value => rw [Nat.add_left_cancel (congrArg Prod.snd same)]

variable [Inhabited B] {spec : Bf16RopePagedKvAppendSpec}
  {pageIndptr pageIndices lastPageLen : Slice Int32}

open Classical in
/-- A slot for every request: its final slot where it writes, and else one beyond the pages. -/
noncomputable def writtenSlot (spec : Bf16RopePagedKvAppendSpec)
    (pageIndptr pageIndices lastPageLen : Slice Int32) (request : Nat) : Nat × Nat :=
  if RequestWrites spec pageIndptr pageIndices lastPageLen request then
    pagedFinalSlot pageIndptr pageIndices lastPageLen request
  else (spec.maxNumPages + request, 0)

/-- The final slot of a request that writes lies in the pages. -/
theorem RequestWrites.slot_lt {request : Nat} (h : request < spec.batchSize)
    (writes : RequestWrites spec pageIndptr pageIndices lastPageLen request) :
    (pagedFinalSlot pageIndptr pageIndices lastPageLen request).1 < spec.maxNumPages ∧
      (pagedFinalSlot pageIndptr pageIndices lastPageLen request).2 < 16 :=
  writes.1.slot_lt h (Nat.sub_one_lt_of_lt (writes.1.kvLen_pos h))

theorem writtenSlot_offset {request : Nat} (h : request < spec.batchSize) :
    (writtenSlot spec pageIndptr pageIndices lastPageLen request).2 < 16 := by
  unfold writtenSlot
  split
  · rename_i writes
    exact (writes.slot_lt h).2
  · exact Nat.zero_lt_succ _

theorem writtenSlot_injective {request other : Nat} (h : request < spec.batchSize)
    (h' : other < spec.batchSize)
    (same : writtenSlot spec pageIndptr pageIndices lastPageLen request =
      writtenSlot spec pageIndptr pageIndices lastPageLen other) : request = other := by
  unfold writtenSlot at same
  split at same
  · rename_i writes
    have inside := (writes.slot_lt h).1
    split at same
    · by_contra differ
      exact writes.2 other h' (Ne.symm differ) same
    · rw [same] at inside
      exact absurd inside (Nat.not_lt.mpr (Nat.le_add_right _ _))
  · split at same
    · rename_i writes
      have inside := (writes.slot_lt h').1
      rw [← same] at inside
      exact absurd inside (Nat.not_lt.mpr (Nat.le_add_right _ _))
    · exact Nat.add_left_cancel (congrArg Prod.fst same)

variable {program : AppendThread spec → List (Op AppendAddress B)}
  (lengths : PageTableLengths spec.batchSize pageIndptr pageIndices lastPageLen)
  (launched : Launched (appendLaunch rotate spec pageIndptr pageIndices lastPageLen) program)
include lengths launched

/-- What a thread stores, it stores for a request that writes. -/
theorem mem_effects_program (before : AppendOut B) (t : AppendThread spec) {w : AppendAddress × B} :
    w ∈ effects (appendMemory query key value before) [] (program t) ↔
      RequestWrites spec pageIndptr pageIndices lastPageLen (threadRequest spec t) ∧
        AppendStore rotate query key value spec.numQueryHeads spec.numKvHeads t.1 t.2
          (pagedKvLen pageIndptr lastPageLen (threadRequest spec t) - 1)
          (writtenSlot spec pageIndptr pageIndices lastPageLen (threadRequest spec t)) w.1 w.2 := by
  obtain ⟨live, silent⟩ := launched_eq lengths launched t
  by_cases writes : RequestWrites spec pageIndptr pageIndices lastPageLen (threadRequest spec t)
  · rw [live writes, writtenSlot, if_pos writes]
    exact (mem_effects_appendWrites t.2.isLt).trans (iff_and_self.mpr fun _ => writes)
  · rw [silent writes]
    exact iff_of_false List.not_mem_nil fun store => writes store.1

theorem program_separate (t t' : AppendThread spec) (a : AppendAddress)
    (h : Op.read a ∈ program t) : a ∉ writeSet (program t') := by
  obtain ⟨live, silent⟩ := launched_eq lengths launched t
  obtain ⟨live', silent'⟩ := launched_eq lengths launched t'
  by_cases writes : RequestWrites spec pageIndptr pageIndices lastPageLen (threadRequest spec t)
  · by_cases writes' : RequestWrites spec pageIndptr pageIndices lastPageLen (threadRequest spec t')
    · rw [live writes] at h
      rw [live' writes']
      exact appendWrites_separate t'.2.isLt h
    · rw [silent' writes']
      exact List.not_mem_nil
  · rw [silent writes] at h
    cases h

omit [Inhabited B] lengths launched in
/-- Two threads that write one address are one thread. -/
theorem writtenStores_agree {t t' : AppendThread spec} {a a' : AppendAddress} {v v' : B}
    (same : a = a')
    (store : AppendStore rotate query key value spec.numQueryHeads spec.numKvHeads t.1 t.2
      (pagedKvLen pageIndptr lastPageLen (threadRequest spec t) - 1)
      (writtenSlot spec pageIndptr pageIndices lastPageLen (threadRequest spec t)) a v)
    (store' : AppendStore rotate query key value spec.numQueryHeads spec.numKvHeads t'.1 t'.2
      (pagedKvLen pageIndptr lastPageLen (threadRequest spec t') - 1)
      (writtenSlot spec pageIndptr pageIndices lastPageLen (threadRequest spec t')) a' v') :
    v = v' := by
  obtain ⟨block, thread⟩ := @appendStores_disjoint B rotate query key value spec.numQueryHeads
    spec.numKvHeads spec.batchSize (writtenSlot spec pageIndptr pageIndices lastPageLen)
    (fun request => pagedKvLen pageIndptr lastPageLen request - 1)
    (fun _ h => writtenSlot_offset h) (fun _ h _ h' => writtenSlot_injective h h') _ _ _ _ t.1.isLt
    t'.1.isLt t.2.isLt t'.2.isLt _ _ _ _ same store store'
  obtain rfl : t = t' := Prod.ext (Fin.ext block) (Fin.ext thread)
  exact store.unique same store'

/-- The final memory of a launch is that of a partial append. -/
theorem partialAppend_final {before out : AppendOut B} {final : AppendAddress → B}
    (stores : ∀ t, ∀ w ∈ effects (appendMemory query key value before) [] (program t),
      final w.1 = w.2)
    (frame : ∀ a, (∀ t, a ∉ writeSet (program t)) → final a = appendMemory query key value before a)
    (whole : final = appendMemory query key value out) :
    PartialAppend rotate spec.batchSize spec.numQueryHeads spec.numKvHeads
      (RequestWrites spec pageIndptr pageIndices lastPageLen)
      (fun request => pagedKvLen pageIndptr lastPageLen request - 1)
      (pagedFinalSlot pageIndptr pageIndices lastPageLen) query key value before out := by
  have written : ∀ {t : AppendThread spec} {request : Nat} {a : AppendAddress} {v : B},
      threadRequest spec t = request →
      RequestWrites spec pageIndptr pageIndices lastPageLen request →
      AppendStore rotate query key value spec.numQueryHeads spec.numKvHeads t.1 t.2
        (pagedKvLen pageIndptr lastPageLen request - 1)
        (pagedFinalSlot pageIndptr pageIndices lastPageLen request) a v →
      appendMemory query key value out a = v := by
    rintro t request a v rfl writes store
    rw [← whole]
    refine stores t (a, v) ((mem_effects_program lengths launched before t).mpr ⟨writes, ?_⟩)
    rwa [writtenSlot, if_pos writes]
  have kept : ∀ a, (∀ t v, RequestWrites spec pageIndptr pageIndices lastPageLen (threadRequest spec t) →
      ¬ AppendStore rotate query key value spec.numQueryHeads spec.numKvHeads t.1 t.2
        (pagedKvLen pageIndptr lastPageLen (threadRequest spec t) - 1)
        (pagedFinalSlot pageIndptr pageIndices lastPageLen (threadRequest spec t)) a v) →
      appendMemory query key value out a = appendMemory query key value before a := by
    intro a unstored
    rw [← whole]
    refine frame a fun t mem => ?_
    rw [← effects_writeSet (appendMemory query key value before) []] at mem
    obtain ⟨w, hw, rfl⟩ := List.mem_map.mp mem
    obtain ⟨writes, store⟩ := (mem_effects_program lengths launched before t).mp hw
    rw [writtenSlot, if_pos writes] at store
    exact unstored t w.2 writes store
  have pair : ∀ c, c % rotaryPairs < ropeBlockThreads := fun c => Nat.mod_lt c (by decide)
  refine ⟨fun request hr writes head hh c hc => ?_, fun request hr writes head hh c hc => ?_,
    fun i outside => ⟨?_, ?_⟩, fun i outside => ?_⟩
  · obtain ⟨state, hs, other, token, row⟩ :=
      exists_keyBlock spec.numQueryHeads (rowMajor_lt hr hh)
    rw [row_div hh] at token
    have own : keyHead spec.numQueryHeads spec.numKvHeads state = head := by
      rw [keyRow, token] at row
      exact Nat.add_left_cancel row
    have keyStore := @AppendStore.key B rotate query key value spec.numQueryHeads spec.numKvHeads
      state _ (pagedKvLen pageIndptr lastPageLen request - 1)
      (pagedFinalSlot pageIndptr pageIndices lastPageLen request) c (inPair_mod hc) other
    have valueStore := @AppendStore.value B rotate query key value spec.numQueryHeads spec.numKvHeads
      state _ (pagedKvLen pageIndptr lastPageLen request - 1)
      (pagedFinalSlot pageIndptr pageIndices lastPageLen request) c (inPair_mod hc) other
    rw [row, own] at keyStore valueStore
    exact ⟨@written (⟨state, hs⟩, ⟨_, pair c⟩) _ _ _ token writes keyStore,
      @written (⟨state, hs⟩, ⟨_, pair c⟩) _ _ _ token writes valueStore⟩
  · obtain ⟨state, hs, own, token, row⟩ := exists_queryBlock spec.numKvHeads (rowMajor_lt hr hh)
    rw [row_div hh] at token
    have store := @AppendStore.query B rotate query key value spec.numQueryHeads spec.numKvHeads
      state _ (pagedKvLen pageIndptr lastPageLen request - 1)
      (pagedFinalSlot pageIndptr pageIndices lastPageLen request) c (inPair_mod hc) own
    rw [row] at store
    exact @written (⟨state, hs⟩, ⟨_, pair c⟩) _ _ _ token writes store
  · refine kept (.keyPages, i) fun t v writes store => ?_
    cases store with
    | key mine other =>
      exact outside _ (threadRequest_lt t) writes _
        (keyHead_lt (Nat.add_pos_left spec.paged.queryHeads_pos _) other)
        ⟨Nat.le_add_right _ _, Nat.add_lt_add_left (mine.lt t.2.isLt) _⟩
  · refine kept (.valuePages, i) fun t v writes store => ?_
    cases store with
    | value mine other =>
      exact outside _ (threadRequest_lt t) writes _
        (keyHead_lt (Nat.add_pos_left spec.paged.queryHeads_pos _) other)
        ⟨Nat.le_add_right _ _, Nat.add_lt_add_left (mine.lt t.2.isLt) _⟩
  · refine kept (.queryOutput, i) fun t v writes store => ?_
    cases store with
    | query mine own => exact outside _ (threadRequest_lt t) writes _ own (row_div (mine.lt t.2.isLt))

/-- The threads of a launch, in whatever order, leave the memory of one partial append. -/
theorem launched_partialAppend (query key value : Nat → B) (before : AppendOut B) :
    ∃ out, PartialAppend rotate spec.batchSize spec.numQueryHeads spec.numKvHeads
        (RequestWrites spec pageIndptr pageIndices lastPageLen)
        (fun request => pagedKvLen pageIndptr lastPageLen request - 1)
        (pagedFinalSlot pageIndptr pageIndices lastPageLen) query key value before out ∧
      (∃ schedule, ((Config.start (appendMemory query key value before) program).run
        schedule).Complete) ∧
      ∀ schedule, ((Config.start (appendMemory query key value before) program).run
          schedule).Complete →
        ((Config.start (appendMemory query key value before) program).run schedule).mem =
          appendMemory query key value out := by
  have effects_iff : ∀ t (w : AppendAddress × B), w ∈ effects (appendMemory query key value before) []
      (program t) ↔ _ := fun t w => mem_effects_program lengths launched before t
  obtain ⟨final, stores, frame, run⟩ := exists_final (program_separate lengths launched)
    fun t t' w hw w' hw' same => writtenStores_agree same ((effects_iff t w).mp hw).2
      ((effects_iff t' w').mp hw').2
  have input : ∀ a : AppendAddress, ¬ a.1.IsOutput →
      final a = appendMemory query key value before a := fun a no => frame a fun t mem => by
    rw [← effects_writeSet (appendMemory query key value before) []] at mem
    obtain ⟨w, hw, rfl⟩ := List.mem_map.mp mem
    exact no ((effects_iff t w).mp hw).2.isOutput
  let out : AppendOut B := ⟨fun i => final (.queryOutput, i), fun i => final (.keyPages, i),
    fun i => final (.valuePages, i)⟩
  have whole : final = appendMemory query key value out := by
    funext ⟨array, i⟩
    cases array with
    | query => exact input (.query, i) (by simp [AppendArray.IsOutput])
    | key => exact input (.key, i) (by simp [AppendArray.IsOutput])
    | value => exact input (.value, i) (by simp [AppendArray.IsOutput])
    | queryOutput => rfl
    | keyPages => rfl
    | valuePages => rfl
  refine ⟨out, partialAppend_final lengths launched stores frame whole, ?_,
    fun schedule complete => (run schedule complete).trans whole⟩
  exact exists_complete _ program (List.finRange _ ×ˢ List.finRange _) fun t ht =>
    absurd (List.pair_mem_product.mpr ⟨List.mem_finRange t.1, List.mem_finRange t.2⟩) ht

omit launched in
/-- On any page table, no thread of the single-token kernel faults, and a launch serves exactly the
requests of a well-formed table whose final slot is shared with no other, and leaves everything else
as it was, whatever the order of its threads. -/
theorem appendKernel_isolates (query key value : Nat → B) (before : AppendOut B) :
    (∃ program : AppendThread spec → List (Op AppendAddress B),
        Launched (appendLaunch rotate spec pageIndptr pageIndices lastPageLen) program) ∧
      ∀ program : AppendThread spec → List (Op AppendAddress B),
        Launched (appendLaunch rotate spec pageIndptr pageIndices lastPageLen) program →
        ∃ out, PartialAppend rotate spec.batchSize spec.numQueryHeads spec.numKvHeads
            (RequestWrites spec pageIndptr pageIndices lastPageLen)
            (fun request => pagedKvLen pageIndptr lastPageLen request - 1)
            (pagedFinalSlot pageIndptr pageIndices lastPageLen) query key value before out ∧
          (∃ schedule, ((Config.start (appendMemory query key value before) program).run
            schedule).Complete) ∧
          ∀ schedule, ((Config.start (appendMemory query key value before) program).run
              schedule).Complete →
            ((Config.start (appendMemory query key value before) program).run schedule).mem =
              appendMemory query key value out := by
  choose program launched _ using fun t : AppendThread spec => appendLaunch_ok rotate lengths t
  exact ⟨⟨program, launched⟩, fun _ launched =>
    launched_partialAppend lengths launched query key value before⟩

end Isolation

/-- Requests 0 and 1 end in one slot, which stays as it is; request 2 gets its token. -/
theorem appendKernel_isolates_threeRequests : ∃ (program : AppendThread threeRequestSpec →
      List (Op AppendAddress Nat)) (schedule : List (AppendThread threeRequestSpec)) (out : AppendOut Nat),
    Launched (appendLaunch (appendRotation shiftFirst) threeRequestSpec (.ofList [0, 1, 2, 3])
      (.ofList [0, 0, 1]) (.ofList [1, 1, 1])) program ∧
    ((Config.start (appendMemory id (fun i => 2 * i) (fun i => 3 * i)
      ⟨fun _ => 7, fun _ => 8, fun _ => 9⟩) program).run schedule).Complete ∧
    ((Config.start (appendMemory id (fun i => 2 * i) (fun i => 3 * i)
      ⟨fun _ => 7, fun _ => 8, fun _ => 9⟩) program).run schedule).mem =
        appendMemory id (fun i => 2 * i) (fun i => 3 * i) out ∧
      out.valuePages 0 = 9 ∧ out.valuePages 2048 = 768 := by
  have lengths : PageTableLengths threeRequestSpec.batchSize (.ofList [0, 1, 2, 3])
      (.ofList [0, 0, 1]) (.ofList [1, 1, 1]) := ⟨rfl, by decide, rfl⟩
  obtain ⟨⟨program, launched⟩, isolated⟩ := @appendKernel_isolates _ (appendRotation shiftFirst) _
    _ _ _ _ lengths id (fun i => 2 * i) (fun i => 3 * i) ⟨fun _ => 7, fun _ => 8, fun _ => 9⟩
  obtain ⟨out, served, ⟨schedule, complete⟩, run⟩ := isolated program launched
  have table : PageTableWellFormed 3 2 (.ofList [0, 1, 2, 3]) (.ofList [0, 0, 1])
      (.ofList [1, 1, 1]) := threeRequestSpec.paged.checkPageTable_eq_ok.mp rfl
  have alone : FinalSlotUnique 3 (.ofList [0, 1, 2, 3]) (.ofList [0, 0, 1]) (.ofList [1, 1, 1]) 2 := by
    intro other ho hne
    obtain rfl | rfl : other = 0 ∨ other = 1 := by omega
    · decide
    · decide
  refine ⟨program, schedule, out, launched, complete, run schedule complete,
    (served.pages 0 fun request hr writes head hh range => ?_).2,
    (served.stored 2 (by decide) ⟨table, alone⟩ 0 (by decide) 0 (by decide)).2⟩
  have hr : request < 3 := hr
  obtain rfl | rfl | rfl : request = 0 ∨ request = 1 ∨ request = 2 := by omega
  · exact writes.2 1 (by decide) (by decide) rfl
  · exact writes.2 0 (by decide) (by decide) rfl
  · obtain rfl : head = 0 := Nat.lt_one_iff.mp hh
    exact absurd range.1 (by decide)

end LoomKernels
