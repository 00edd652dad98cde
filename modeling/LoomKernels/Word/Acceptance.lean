import LoomKernels.Word.Metadata

/-!
# What the validators accept

The three metadata validators accept exactly the well-formed arrays whose lengths are words of the
machine (`validators_accept_exactly`), have no defect on any others, and the ranges that the view of
an accepted array reports tile its rows: every row lies in the range of exactly one request. Paged
prefill computes the number of tokens of each request, which has to be a word as well. A `usize` of 64
bits holds all of these lengths.
-/

namespace LoomKernels.Word

/-- A row lies in the range that a metadata view reports for a request. -/
def Owns (range : Nat → Machine HostFailure (Option (Nat × Nat))) (row request : Nat) : Prop :=
  ∃ start stop, range request = .ok (some (start, stop)) ∧ start ≤ row ∧ row < stop

/-- The reported ranges tile the rows below `total`. -/
structure Tiles (range : Nat → Machine HostFailure (Option (Nat × Nat))) (total : Nat) : Prop where
  owner : ∀ row < total, ∃! request, Owns range row request
  inside : ∀ row request, Owns range row request → row < total

/-- The ranges of a well-formed array tile its rows. -/
theorem tiles_of_ranges {range : Nat → Machine HostFailure (Option (Nat × Nat))}
    {count total : Nat} {indptr : Slice Int32} (valid : IndptrWellFormed count total indptr)
    (ranges : ∀ request, range request = .ok (if request < count then
      some (indptrStart indptr request, indptrStart indptr (request + 1)) else none)) :
    Tiles range total := by
  have owns : ∀ row request, Owns range row request ↔ request < count ∧
      indptrStart indptr request ≤ row ∧ row < indptrStart indptr (request + 1) := by
    intro row request
    unfold Owns
    rw [ranges]
    by_cases h : request < count
    · rw [if_pos h]
      constructor
      · rintro ⟨start, stop, range, lo, hi⟩
        obtain ⟨rfl, rfl⟩ := Prod.mk.inj (Option.some.inj (Except.ok.inj range))
        exact ⟨h, lo, hi⟩
      · exact fun ⟨_, lo, hi⟩ => ⟨_, _, rfl, lo, hi⟩
    · rw [if_neg h]
      constructor
      · rintro ⟨start, stop, range, _⟩
        cases Except.ok.inj range
      · exact fun ⟨h', _⟩ => absurd h' h
  constructor
  · intro row hr
    simp only [owns]
    exact valid.existsUnique_request hr
  · intro row request own
    obtain ⟨h, _, hi⟩ := (owns row request).mp own
    exact hi.trans_le (valid.start_le_total h)

/-- A validator succeeds exactly on the `accepted` arrays, has no defect on the others, and what it
returns has the ranges it should. -/
structure Validates {M : Type} (run : Machine HostFailure M) (accepted : Prop) (tiled : M → Prop) :
    Prop where
  accepts : (∃ view, run = .ok view) ↔ accepted
  sound : Avoids Halt.isFault run
  tiles : ∀ view, run = .ok view → tiled view

theorem Validates.of_iff {M : Type} {run : Machine HostFailure M} {accepted accepted' : Prop}
    {tiled : M → Prop} (validates : Validates run accepted tiled) (h : accepted ↔ accepted') :
    Validates run accepted' tiled :=
  ⟨validates.accepts.trans h, validates.sound, validates.tiles⟩

section Words

variable {w : Nat}

theorem decode_validates (spec : Bf16PagedBatchDecodeSpec w)
    (pageIndptr pageIndices lastPageLen : Slice Int32) :
    Validates (spec.validatePageTable pageIndptr pageIndices lastPageLen)
      (PageTableWellFormed spec.batchSize spec.maxNumPages pageIndptr pageIndices lastPageLen ∧
        pageIndices.len < 2 ^ w)
      fun table => Tiles table.requestPageRange pageIndices.len := by
  refine ⟨⟨?_, fun ⟨wellFormed, fits⟩ => ?_⟩, spec.validatePageTable_avoids _ _ _,
    fun table accepted => ?_⟩
  · rintro ⟨table, accepted⟩
    obtain ⟨rfl, valid⟩ := spec.validatePageTable_eq_ok.mp accepted
    exact ⟨valid.wellFormed, valid.indices_fit⟩
  · exact ⟨_, spec.validatePageTable_eq_ok.mpr ⟨rfl, wellFormed, fits⟩⟩
  · obtain ⟨rfl, valid⟩ := spec.validatePageTable_eq_ok.mp accepted
    exact tiles_of_ranges valid.wellFormed.indptr valid.requestPageRange_ok

theorem prefill_validates (wide : 32 ≤ w) (spec : Bf16PagedPrefillSpec w)
    (qoIndptr pageIndptr pageIndices lastPageLen : Slice Int32) :
    Validates (spec.validateMetadata qoIndptr pageIndptr pageIndices lastPageLen)
      (IndptrWellFormed spec.batchSize spec.nnzQo qoIndptr ∧
        PageTableWellFormed spec.batchSize spec.maxNumPages pageIndptr pageIndices lastPageLen ∧
        pageIndices.len < 2 ^ w ∧
        ∀ request < spec.batchSize, KvLenFits w pageIndptr lastPageLen request ∧
          indptrLen qoIndptr request ≤ pagedKvLen pageIndptr lastPageLen request)
      fun metadata => Tiles metadata.requestQueryRange spec.nnzQo ∧
        Tiles metadata.requestPageRange pageIndices.len := by
  refine ⟨⟨?_, fun ⟨qo, table, fits, requests⟩ => ?_⟩,
    spec.validateMetadata_avoids wide _ _ _ _, fun metadata accepted => ?_⟩
  · rintro ⟨metadata, accepted⟩
    obtain ⟨rfl, valid⟩ := spec.validateMetadata_eq_ok.mp accepted
    exact ⟨valid.qo, valid.table, valid.indices_fit,
      fun request hr => ⟨valid.lengths_fit request hr, valid.causal request hr⟩⟩
  · exact ⟨_, spec.validateMetadata_eq_ok.mpr ⟨rfl, qo, table, fits,
      fun request hr => (requests request hr).1, fun request hr => (requests request hr).2⟩⟩
  · obtain ⟨rfl, valid⟩ := spec.validateMetadata_eq_ok.mp accepted
    exact ⟨tiles_of_ranges valid.qo valid.requestQueryRange_ok,
      tiles_of_ranges valid.table.indptr valid.requestPageRange_ok⟩

theorem ragged_validates (spec : Bf16RaggedPrefillSpec w) (qoIndptr kvIndptr : Slice Int32) :
    Validates (spec.validateMetadata qoIndptr kvIndptr)
      (IndptrWellFormed spec.batchSize spec.nnzQo qoIndptr ∧
        IndptrWellFormed spec.batchSize spec.nnzKv kvIndptr ∧
        ∀ request < spec.batchSize, indptrLen qoIndptr request ≤ indptrLen kvIndptr request)
      fun metadata =>
        Tiles (fun request => (metadata.requestRowRanges request).map (Option.map Prod.fst))
          spec.nnzQo ∧
        Tiles (fun request => (metadata.requestRowRanges request).map (Option.map Prod.snd))
          spec.nnzKv := by
  refine ⟨⟨?_, fun ⟨qo, kv, causal⟩ => ?_⟩, spec.validateMetadata_avoids _ _,
    fun metadata accepted => ?_⟩
  · rintro ⟨metadata, accepted⟩
    obtain ⟨rfl, valid⟩ := spec.validateMetadata_eq_ok.mp accepted
    exact ⟨valid.qo, valid.kv, valid.causal⟩
  · exact ⟨_, spec.validateMetadata_eq_ok.mpr ⟨rfl, qo, kv, causal⟩⟩
  · obtain ⟨rfl, valid⟩ := spec.validateMetadata_eq_ok.mp accepted
    constructor
    · refine tiles_of_ranges valid.qo fun request => ?_
      rw [valid.requestRowRanges_ok]
      split <;> rfl
    · refine tiles_of_ranges valid.kv fun request => ?_
      rw [valid.requestRowRanges_ok]
      split <;> rfl

end Words

/-! ## 64 bits -/

section Wide

variable {batchSize maxNumPages : Nat} {pageIndptr pageIndices lastPageLen : Slice Int32}
  (table : PageTableWellFormed batchSize maxNumPages pageIndptr pageIndices lastPageLen)
include table

/-- An `i32` counts the entries of a page list, so 64 bits do. -/
theorem indices_fit_64 : pageIndices.len < 2 ^ 64 :=
  table.indptr.total_lt.trans (by decide)

theorem kvLenFits_64 {request : Nat} (h : request < batchSize) :
    KvLenFits 64 pageIndptr lastPageLen request :=
  (table.kvLen_lt h).trans (by decide)

end Wide

theorem decode_validates_64 (spec : Bf16PagedBatchDecodeSpec 64)
    (pageIndptr pageIndices lastPageLen : Slice Int32) :
    Validates (spec.validatePageTable pageIndptr pageIndices lastPageLen)
      (PageTableWellFormed spec.batchSize spec.maxNumPages pageIndptr pageIndices lastPageLen)
      fun table => Tiles table.requestPageRange pageIndices.len :=
  (decode_validates spec pageIndptr pageIndices lastPageLen).of_iff
    (and_iff_left_of_imp indices_fit_64)

theorem prefill_validates_64 (spec : Bf16PagedPrefillSpec 64)
    (qoIndptr pageIndptr pageIndices lastPageLen : Slice Int32) :
    Validates (spec.validateMetadata qoIndptr pageIndptr pageIndices lastPageLen)
      (IndptrWellFormed spec.batchSize spec.nnzQo qoIndptr ∧
        PageTableWellFormed spec.batchSize spec.maxNumPages pageIndptr pageIndices lastPageLen ∧
        ∀ request < spec.batchSize,
          indptrLen qoIndptr request ≤ pagedKvLen pageIndptr lastPageLen request)
      fun metadata => Tiles metadata.requestQueryRange spec.nnzQo ∧
        Tiles metadata.requestPageRange pageIndices.len := by
  refine (prefill_validates (by decide) spec qoIndptr pageIndptr pageIndices lastPageLen).of_iff ?_
  constructor
  · exact fun ⟨qo, table, _, requests⟩ => ⟨qo, table, fun request hr => (requests request hr).2⟩
  · exact fun ⟨qo, table, causal⟩ => ⟨qo, table, indices_fit_64 table,
      fun request hr => ⟨kvLenFits_64 table hr, causal request hr⟩⟩

/-- The metadata validators accept exactly the well-formed metadata whose lengths are words, whatever
the arrays hold; none of their subtractions overflows; and the ranges of accepted metadata tile the
rows. On 64 bits the lengths of well-formed metadata are words. -/
theorem validators_accept_exactly :
    (∀ {w : Nat} (spec : Bf16PagedBatchDecodeSpec w)
        (pageIndptr pageIndices lastPageLen : Slice Int32),
      Validates (spec.validatePageTable pageIndptr pageIndices lastPageLen)
        (PageTableWellFormed spec.batchSize spec.maxNumPages pageIndptr pageIndices lastPageLen ∧
          pageIndices.len < 2 ^ w)
        fun table => Tiles table.requestPageRange pageIndices.len) ∧
    (∀ {w : Nat}, 32 ≤ w → ∀ (spec : Bf16PagedPrefillSpec w)
        (qoIndptr pageIndptr pageIndices lastPageLen : Slice Int32),
      Validates (spec.validateMetadata qoIndptr pageIndptr pageIndices lastPageLen)
        (IndptrWellFormed spec.batchSize spec.nnzQo qoIndptr ∧
          PageTableWellFormed spec.batchSize spec.maxNumPages pageIndptr pageIndices lastPageLen ∧
          pageIndices.len < 2 ^ w ∧
          ∀ request < spec.batchSize, KvLenFits w pageIndptr lastPageLen request ∧
            indptrLen qoIndptr request ≤ pagedKvLen pageIndptr lastPageLen request)
        fun metadata => Tiles metadata.requestQueryRange spec.nnzQo ∧
          Tiles metadata.requestPageRange pageIndices.len) ∧
    (∀ {w : Nat} (spec : Bf16RaggedPrefillSpec w) (qoIndptr kvIndptr : Slice Int32),
      Validates (spec.validateMetadata qoIndptr kvIndptr)
        (IndptrWellFormed spec.batchSize spec.nnzQo qoIndptr ∧
          IndptrWellFormed spec.batchSize spec.nnzKv kvIndptr ∧
          ∀ request < spec.batchSize, indptrLen qoIndptr request ≤ indptrLen kvIndptr request)
        fun metadata =>
          Tiles (fun request => (metadata.requestRowRanges request).map (Option.map Prod.fst))
            spec.nnzQo ∧
          Tiles (fun request => (metadata.requestRowRanges request).map (Option.map Prod.snd))
            spec.nnzKv) ∧
    (∀ (spec : Bf16PagedBatchDecodeSpec 64) (pageIndptr pageIndices lastPageLen : Slice Int32),
      Validates (spec.validatePageTable pageIndptr pageIndices lastPageLen)
        (PageTableWellFormed spec.batchSize spec.maxNumPages pageIndptr pageIndices lastPageLen)
        fun table => Tiles table.requestPageRange pageIndices.len) ∧
    ∀ (spec : Bf16PagedPrefillSpec 64)
        (qoIndptr pageIndptr pageIndices lastPageLen : Slice Int32),
      Validates (spec.validateMetadata qoIndptr pageIndptr pageIndices lastPageLen)
        (IndptrWellFormed spec.batchSize spec.nnzQo qoIndptr ∧
          PageTableWellFormed spec.batchSize spec.maxNumPages pageIndptr pageIndices lastPageLen ∧
          ∀ request < spec.batchSize,
            indptrLen qoIndptr request ≤ pagedKvLen pageIndptr lastPageLen request)
        fun metadata => Tiles metadata.requestQueryRange spec.nnzQo ∧
          Tiles metadata.requestPageRange pageIndices.len :=
  ⟨decode_validates, prefill_validates, ragged_validates, decode_validates_64,
    prefill_validates_64⟩

end LoomKernels.Word
