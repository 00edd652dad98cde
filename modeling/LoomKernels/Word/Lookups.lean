import LoomKernels.Word.Acceptance
import LoomKernels.Word.Append
import LoomKernels.Word.Attention

/-!
# Look-ups that must succeed

The references look lengths and slots up with `expect`, on metadata that their validators have
accepted. This file settles when those look-ups succeed. The paged prefill validator checks that the
length of every request is a word, and its look-ups always succeed. The decode validator does not:
the look-ups over its tables succeed, and the references over them never panic, exactly when the
lengths of all requests are words (`neverPanics_iff`). The append validators are built on the decode
validator; the single-token one panics itself on any other table.
-/

namespace LoomKernels.Word

/-- A stop that is not an error returned to the caller: a defect or a panic. -/
def isDefect : Halt HostFailure → Bool
  | .fault _ => true
  | .failed (.panic _) => true
  | .failed (.contract _) => false

/-- From every memory, the program ends well or returns an error. -/
abbrev NoDefect {σ α : Type} (x : Program HostFailure σ α) : Prop :=
  HaltsOnly (fun e => isDefect e = false) x

section Checks

variable {α : Type}

theorem avoids_requireLen (name : String) (actual expected : Nat) :
    Avoids isDefect (lift (requireLen name actual expected)) := by
  unfold requireLen ensure
  split
  · exact avoids_ok _
  · exact avoids_error rfl

theorem avoids_ensure (p : Prop) [Decidable p] (error : ContractError) :
    Avoids isDefect (lift (ensure p error)) := by
  unfold ensure
  split
  · exact avoids_ok _
  · exact avoids_error rfl

theorem avoids_okOr (option : Option α) (error : ContractError) :
    Avoids isDefect (lift (okOr option error)) := by
  cases option with
  | none => exact avoids_error rfl
  | some a => exact avoids_ok a

theorem noDefect_of_succeeds {σ : Type} {x : Program HostFailure σ α} (h : Succeeds x) :
    NoDefect x :=
  h.mono fun _ impossible => impossible.elim

end Checks

section Tables

variable {w : Nat}

/-- The look-ups of one request: a length, a slot of the page pool for every token below it, and
none for the others. -/
def Found (maxNumPages : Nat) (kvLen : Machine HostFailure (Option Nat))
    (slot : Nat → Machine HostFailure (Option (Nat × Nat))) : Prop :=
  ∃ len, kvLen = .ok (some len) ∧
    (∀ token < len, ∃ page offset, slot token = .ok (some (page, offset)) ∧ page < maxNumPages ∧
      offset < pagedBatchDecodePageSize) ∧
    ∀ token, len ≤ token → slot token = .ok none

/-- The look-ups over a table succeed, and none of the references over it panics. -/
structure NeverPanics (table : PageTable w) : Prop where
  lookups : ∀ request < table.spec.batchSize,
    Found table.spec.maxNumPages (table.requestKvLen request) (table.physicalPageForToken request)
  decode : ∀ {F B : Type} (ops : FloatOps F B) (query keyPages valuePages : Slice B)
    (outputLen lseLen : Nat),
    NoDefect (pagedBatchDecodeBf16Reference ops query keyPages valuePages table.pageIndptr
      table.pageIndices table.lastPageLen outputLen lseLen table.spec)
  append : ∀ {B : Type} (rot : Rotation B) (nan : B) (query key value : Slice B)
    (queryOutputLen keyPagesLen valuePagesLen : Nat),
    NoDefect (ropePagedKvAppendBf16Reference rot nan query key value table.pageIndptr
      table.pageIndices table.lastPageLen queryOutputLen keyPagesLen valuePagesLen ⟨table.spec⟩)
  appendTokens : ∀ {B : Type} (rot : Rotation B) (nan : B) (query key value : Slice B)
    (batchIndices positions : Slice Int32) (queryOutputLen keyPagesLen valuePagesLen : Nat)
    (spec : Bf16RopePagedKvAppendTokensSpec w), spec.paged = table.spec →
    NoDefect (ropePagedKvAppendTokensBf16Reference rot nan query key value batchIndices positions
      table.pageIndptr table.pageIndices table.lastPageLen queryOutputLen keyPagesLen valuePagesLen
      spec)

theorem requireBuffers_avoids {B : Type} (keyName valueName : String) (query key value : Slice B)
    (outputLen lseLen queryNumel kvNumel outputNumel lseNumel : Nat) :
    Avoids isDefect (requireBuffers keyName valueName query key value outputLen lseLen
      (.ok queryNumel) (.ok kvNumel) (.ok outputNumel) (.ok lseNumel)) :=
  (avoids_requireLen _ _ _).bind fun _ => (avoids_requireLen _ _ _).bind fun _ =>
    (avoids_requireLen _ _ _).bind fun _ => (avoids_requireLen _ _ _).bind fun _ =>
      avoids_requireLen _ _ _

theorem requireAppendBuffers_avoids {B : Type} (query key value : Slice B)
    (queryOutputLen keyPagesLen valuePagesLen queryNumel keyNumel kvPagesNumel : Nat) :
    Avoids isDefect (requireAppendBuffers query key value queryOutputLen keyPagesLen valuePagesLen
      (.ok queryNumel) (.ok keyNumel) (.ok kvPagesNumel)) :=
  (avoids_requireLen _ _ _).bind fun _ => (avoids_requireLen _ _ _).bind fun _ =>
    (avoids_requireLen _ _ _).bind fun _ => (avoids_requireLen _ _ _).bind fun _ =>
      (avoids_requireLen _ _ _).bind fun _ => avoids_requireLen _ _ _

section Accepted

variable {table : PageTable w} (valid : table.Valid)
include valid

/-- The decode validator accepts a valid table. -/
theorem validatePageTable_of_valid :
    table.spec.validatePageTable table.pageIndptr table.pageIndices table.lastPageLen = .ok table :=
  table.spec.validatePageTable_eq_ok.mpr ⟨rfl, valid⟩

theorem requestKvLen_none {request : Nat}
    (long : ¬ KvLenFits w table.pageIndptr table.lastPageLen request) :
    table.requestKvLen request = .ok none := by
  rw [valid.requestKvLen_ok, if_neg fun both => long both.2]

theorem found_lengths_fit {request : Nat} (found :
    Found table.spec.maxNumPages (table.requestKvLen request)
      (table.physicalPageForToken request)) :
    KvLenFits w table.pageIndptr table.lastPageLen request := by
  obtain ⟨len, length, -⟩ := found
  by_contra long
  rw [requestKvLen_none valid long] at length
  cases length

variable (fits : ∀ request < table.spec.batchSize,
  KvLenFits w table.pageIndptr table.lastPageLen request)
include fits

theorem lookups_found {request : Nat} (hr : request < table.spec.batchSize) :
    Found table.spec.maxNumPages (table.requestKvLen request)
      (table.physicalPageForToken request) := by
  refine ⟨pagedKvLen table.pageIndptr table.lastPageLen request, ?_, fun token ht => ?_,
    fun token ht => ?_⟩
  · rw [valid.requestKvLen_ok, if_pos ⟨hr, fits request hr⟩]
  · have slot := valid.wellFormed.slot_lt hr ht
    refine ⟨_, _, ?_, slot.1, slot.2⟩
    rw [valid.physicalPageForToken_ok, if_pos ⟨⟨hr, fits request hr⟩, ht⟩]
  · rw [valid.physicalPageForToken_ok, if_neg fun both => absurd both.2 (not_lt.mpr ht)]

theorem decode_noDefect {F B : Type} (ops : FloatOps F B) (query keyPages valuePages : Slice B)
    (outputLen lseLen : Nat) :
    NoDefect (pagedBatchDecodeBf16Reference ops query keyPages valuePages table.pageIndptr
      table.pageIndices table.lastPageLen outputLen lseLen table.spec) := by
  cases checked : checkDecode query keyPages valuePages table.pageIndptr table.pageIndices
    table.lastPageLen outputLen lseLen table.spec with
  | ok table' =>
    intro before
    refine (pagedBatchDecodeBf16Reference_ends ops table.spec checked before).mono
      (fun _ _ _ => trivial) ?_
    exact fun _ _ failed => absurd fits failed.2
  | error e =>
    have avoids : Avoids isDefect (checkDecode query keyPages valuePages table.pageIndptr
        table.pageIndices table.lastPageLen outputLen lseLen table.spec) := by
      rw [checkDecode, table.spec.queryNumel_ok, table.spec.kvPagesNumel_ok, table.spec.lseNumel_ok,
        Bf16PagedBatchDecodeSpec.outputNumel, table.spec.queryNumel_ok,
        validatePageTable_of_valid valid]
      exact (requireBuffers_avoids _ _ _ _ _ _ _ _ _ _ _).bind fun _ => avoids_ok _
    rw [pagedBatchDecodeBf16Reference, checked]
    exact fun _ => avoids e checked

theorem validatePageTable_noDefect (spec : Bf16RopePagedKvAppendSpec w)
    (hspec : spec.paged = table.spec) : Avoids isDefect
      (spec.validatePageTable table.pageIndptr table.pageIndices table.lastPageLen) := by
  rw [Bf16RopePagedKvAppendSpec.validatePageTable, hspec, validatePageTable_of_valid valid, ok_bind]
  refine (Avoids.checkRange fun first _ hf _ => ?_).bind fun _ => avoids_ok _
  rw [Bf16RopePagedKvAppendSpec.checkFinalSlots, finalSlot_ok valid hf (fits first hf), ok_bind,
    addWord_ok (by have := table.spec.batch_fits; omega), ok_bind, hspec]
  refine Avoids.checkRange fun second _ hs _ => ?_
  rw [finalSlot_ok valid hs (fits second hs), ok_bind]
  exact avoids_ensure _ _

theorem append_noDefect {B : Type} (rot : Rotation B) (nan : B) (query key value : Slice B)
    (queryOutputLen keyPagesLen valuePagesLen : Nat) :
    NoDefect (ropePagedKvAppendBf16Reference rot nan query key value table.pageIndptr
      table.pageIndices table.lastPageLen queryOutputLen keyPagesLen valuePagesLen
      ⟨table.spec⟩) := by
  cases checked : checkAppend query key value table.pageIndptr table.pageIndices table.lastPageLen
    queryOutputLen keyPagesLen valuePagesLen ⟨table.spec⟩ with
  | ok result => exact noDefect_of_succeeds (ropePagedKvAppendBf16Reference_succeeds rot nan checked)
  | error e =>
    have avoids : Avoids isDefect (checkAppend query key value table.pageIndptr table.pageIndices
        table.lastPageLen queryOutputLen keyPagesLen valuePagesLen ⟨table.spec⟩) := by
      rw [checkAppend, table.spec.queryNumel_ok, Bf16RopePagedKvAppendSpec.keyNumel_ok,
        table.spec.kvPagesNumel_ok]
      refine (requireAppendBuffers_avoids _ _ _ _ _ _ _ _ _).bind fun _ =>
        (validatePageTable_noDefect valid fits _ rfl).andThen fun table' accepted =>
          Avoids.bind ?_ fun _ => avoids_ok _
      obtain ⟨rfl, -⟩ := validatePageTable_lengths_fit accepted
      refine Avoids.forRangeM (fun request _ _ hr => ?_) _
      rw [finalPosition_ok valid hr (fits request hr)]
      exact (avoids_okOr _ _).bind fun _ => avoids_ok _
    rw [ropePagedKvAppendBf16Reference, checked]
    exact fun _ => avoids e checked

/-- One token of the multi-token validator. -/
theorem validateToken_noDefect {spec : Bf16RopePagedKvAppendTokensSpec w}
    (hspec : spec.paged = table.spec) {batchIndices positions : Slice Int32} {token : Nat}
    (hb : token < batchIndices.len) (hp : token < positions.len) (slots : List (Nat × Nat)) :
    Avoids isDefect (spec.validateToken table batchIndices positions token slots) := by
  rw [Bf16RopePagedKvAppendTokensSpec.validateToken, entry_ok hb, ok_bind]
  refine (avoids_okOr _ _).bind fun request => (avoids_ensure _ _).andThen fun _ inside => ?_
  rw [lift_eq_ok, ensure_eq_ok, hspec] at inside
  rw [valid.requestKvLen_ok, ok_bind, if_pos ⟨inside, fits request inside⟩, expect_some, lift_ok,
    ok_bind, entry_ok hp, ok_bind]
  refine (avoids_okOr _ _).bind fun position => ?_
  rw [valid.physicalPageForToken_ok, ok_bind]
  refine (avoids_okOr _ _).bind fun slot => ?_
  unfold Bf16RopePagedKvAppendTokensSpec.recordSlot
  split
  · exact avoids_error rfl
  · exact avoids_ok _

theorem appendTokens_noDefect {B : Type} (rot : Rotation B) (nan : B) (query key value : Slice B)
    (batchIndices positions : Slice Int32) (queryOutputLen keyPagesLen valuePagesLen : Nat)
    (spec : Bf16RopePagedKvAppendTokensSpec w) (hspec : spec.paged = table.spec) :
    NoDefect (ropePagedKvAppendTokensBf16Reference rot nan query key value batchIndices positions
      table.pageIndptr table.pageIndices table.lastPageLen queryOutputLen keyPagesLen valuePagesLen
      spec) := by
  cases checked : checkAppendTokens query key value batchIndices positions table.pageIndptr
    table.pageIndices table.lastPageLen queryOutputLen keyPagesLen valuePagesLen spec with
  | ok result =>
    exact noDefect_of_succeeds (ropePagedKvAppendTokensBf16Reference_succeeds rot nan checked)
  | error e =>
    have avoids : Avoids isDefect (checkAppendTokens query key value batchIndices positions
        table.pageIndptr table.pageIndices table.lastPageLen queryOutputLen keyPagesLen valuePagesLen
        spec) := by
      rw [checkAppendTokens, spec.queryNumel_ok, spec.keyNumel_ok, spec.paged.kvPagesNumel_ok,
        Bf16RopePagedKvAppendTokensSpec.validateMetadata, hspec, validatePageTable_of_valid valid]
      refine (requireAppendBuffers_avoids _ _ _ _ _ _ _ _ _).bind fun _ =>
        (avoids_requireLen _ _ _).andThen fun _ batch_len =>
          (avoids_requireLen _ _ _).andThen fun _ positions_len => ?_
      rw [lift_eq_ok, requireLen_eq_ok] at batch_len positions_len
      rw [ok_bind]
      refine (Avoids.forRangeM (fun token slots _ ht => ?_) _).bind fun _ => avoids_ok _
      exact validateToken_noDefect valid fits hspec (batch_len ▸ ht) (positions_len ▸ ht) slots
    rw [ropePagedKvAppendTokensBf16Reference, checked]
    exact fun _ => avoids e checked

end Accepted

/-- Over a table of the decode validator, look-ups succeed and references do not panic exactly when
the length of every request is a word. -/
theorem neverPanics_iff {table : PageTable w} (valid : table.Valid) :
    NeverPanics table ↔ ∀ request < table.spec.batchSize,
      KvLenFits w table.pageIndptr table.lastPageLen request := by
  constructor
  · exact fun never request hr => found_lengths_fit valid (never.lookups request hr)
  · intro fits
    exact ⟨fun _ => lookups_found valid fits, decode_noDefect valid fits,
      append_noDefect valid fits, appendTokens_noDefect valid fits⟩

/-- On 64 bits, no accepted table has a longer request. -/
theorem neverPanics_64 {table : PageTable 64} (valid : table.Valid) : NeverPanics table :=
  (neverPanics_iff valid).mpr fun _ hr => kvLenFits_64 valid.wellFormed hr

/-- The look-ups over paged prefill metadata succeed, and the reference does not panic. -/
structure PrefillNeverPanics (metadata : PrefillMetadata w) : Prop where
  lookups : ∀ request < metadata.spec.batchSize,
    Found metadata.spec.maxNumPages (metadata.requestKvLen request)
      (metadata.physicalPageForToken request)
  reference : ∀ {F B : Type} (ops : FloatOps F B) (query keyPages valuePages : Slice B)
    (outputLen lseLen : Nat),
    NoDefect (pagedPrefillBf16Reference ops query keyPages valuePages metadata.qoIndptr
      metadata.pageIndptr metadata.pageIndices metadata.lastPageLen outputLen lseLen metadata.spec)

/-- Accepted prefill metadata never panics: its validator checks the lengths. -/
theorem prefillNeverPanics {metadata : PrefillMetadata w} (valid : metadata.Valid) :
    PrefillNeverPanics metadata := by
  constructor
  · intro request hr
    refine ⟨pagedKvLen metadata.pageIndptr metadata.lastPageLen request, ?_, fun token ht => ?_,
      fun token ht => ?_⟩
    · rw [valid.requestKvLen_ok, if_pos hr]
    · have slot := valid.table.slot_lt hr ht
      refine ⟨_, _, ?_, slot.1, slot.2⟩
      rw [valid.physicalPageForToken_ok, if_pos ⟨hr, ht⟩]
    · rw [valid.physicalPageForToken_ok, if_neg fun both => absurd both.2 (not_lt.mpr ht)]
  · intro F B ops query keyPages valuePages outputLen lseLen
    cases checked : checkPagedPrefill query keyPages valuePages metadata.qoIndptr
      metadata.pageIndptr metadata.pageIndices metadata.lastPageLen outputLen lseLen
      metadata.spec with
    | ok metadata' =>
      exact fun before => (pagedPrefillBf16Reference_ends ops metadata.spec checked before).mono
        (fun _ _ _ => trivial) fun _ _ h => h
    | error e =>
      have avoids : Avoids isDefect (checkPagedPrefill query keyPages valuePages metadata.qoIndptr
          metadata.pageIndptr metadata.pageIndices metadata.lastPageLen outputLen lseLen
          metadata.spec) := by
        rw [checkPagedPrefill, metadata.spec.queryNumel_ok, metadata.spec.kvPagesNumel_ok,
          metadata.spec.lseNumel_ok, Bf16PagedPrefillSpec.outputNumel, metadata.spec.queryNumel_ok,
          metadata.spec.validateMetadata_eq_ok.mpr ⟨rfl, valid⟩]
        exact (requireBuffers_avoids _ _ _ _ _ _ _ _ _ _ _).bind fun _ => avoids_ok _
      rw [pagedPrefillBf16Reference, checked]
      exact fun _ => avoids e checked

end Tables

/-- Which accepted metadata never panics: all of paged prefill and of the single-token append, and
of the others exactly the metadata whose lengths are words. -/
theorem accepted_metadata_never_panics_iff (w : Nat) :
    (∀ (spec : Bf16PagedBatchDecodeSpec w) (pageIndptr pageIndices lastPageLen : Slice Int32)
        (table : PageTable w),
      spec.validatePageTable pageIndptr pageIndices lastPageLen = .ok table →
        (NeverPanics table ↔
          ∀ request < spec.batchSize, KvLenFits w pageIndptr lastPageLen request)) ∧
    (∀ (spec : Bf16RopePagedKvAppendTokensSpec w)
        (batchIndices positions pageIndptr pageIndices lastPageLen : Slice Int32)
        (checked : PageTable w × List (Nat × Nat)),
      spec.validateMetadata batchIndices positions pageIndptr pageIndices lastPageLen =
          .ok checked →
        (NeverPanics checked.1 ↔
          ∀ request < spec.paged.batchSize, KvLenFits w pageIndptr lastPageLen request)) ∧
    (∀ (spec : Bf16RopePagedKvAppendSpec w) (pageIndptr pageIndices lastPageLen : Slice Int32)
        (table : PageTable w),
      spec.validatePageTable pageIndptr pageIndices lastPageLen = .ok table →
        NeverPanics table ∧
          ∀ request < spec.paged.batchSize, KvLenFits w pageIndptr lastPageLen request) ∧
    ∀ (spec : Bf16PagedPrefillSpec w) (qoIndptr pageIndptr pageIndices lastPageLen : Slice Int32)
        (metadata : PrefillMetadata w),
      spec.validateMetadata qoIndptr pageIndptr pageIndices lastPageLen = .ok metadata →
        PrefillNeverPanics metadata ∧
          ∀ request < spec.batchSize, KvLenFits w pageIndptr lastPageLen request := by
  refine ⟨fun spec _ _ _ table accepted => ?_, fun spec _ _ _ _ _ checked accepted => ?_,
    fun spec _ _ _ table accepted => ?_, fun spec _ _ _ _ metadata accepted => ?_⟩
  · obtain ⟨rfl, valid⟩ := spec.validatePageTable_eq_ok.mp accepted
    exact neverPanics_iff valid
  · obtain ⟨-, ⟨same, valid⟩, -⟩ := validateMetadata_slots accepted
    have iff := neverPanics_iff valid
    rwa [same] at iff ⊢
  · obtain ⟨rfl, valid, fits⟩ := validatePageTable_lengths_fit accepted
    exact ⟨(neverPanics_iff valid).mpr fits, fits⟩
  · obtain ⟨rfl, valid⟩ := spec.validateMetadata_eq_ok.mp accepted
    exact ⟨prefillNeverPanics valid, valid.lengths_fit⟩

/-! ## A request that is too long for 32 bits -/

theorem long_batch_fits : 1 + 1 < 2 ^ 32 := by decide

theorem long_query_fits : 1 * 1 * singleDecodeHeadDim < 2 ^ 32 := by decide

theorem long_pages_fit : 1 * pagedBatchDecodePageSize * 1 * singleDecodeHeadDim < 2 ^ 32 := by decide

/-- One request, one page and one head. -/
def longSpec : Bf16PagedBatchDecodeSpec 32 where
  batchSize := 1
  maxNumPages := 1
  numQueryHeads := 1
  numKvHeads := 1
  batch_pos := Nat.one_pos
  pages_pos := Nat.one_pos
  queryHeads_pos := Nat.one_pos
  kvHeads_pos := Nat.one_pos
  group := oneHead_divides
  batch_fits := long_batch_fits
  query_fits := long_query_fits
  pages_fit := long_pages_fit

/-- A request of `2 ^ 28 + 1` entries, all of them page zero, with a full last page. -/
def longTable : PageTable 32 where
  spec := longSpec
  pageIndptr := ⟨2, fun i => if i = 0 then 0 else 268435457⟩
  pageIndices := ⟨268435457, fun _ => 0⟩
  lastPageLen := ⟨1, fun _ => 16⟩

theorem fullPage_tail : 1 ≤ (16 : Int32).toInt ∧ (16 : Int32).toInt ≤ pagedBatchDecodePageSize := by
  decide

theorem pageZero_lt : 0 ≤ (0 : Int32).toInt ∧ (0 : Int32).toInt < (1 : Nat) := by decide

theorem longTable_valid : longTable.Valid where
  wellFormed := {
    indptr_len := rfl
    tail_len := rfl
    start := rfl
    increasing := by
      intro request hr
      obtain rfl : request = 0 := Nat.lt_one_iff.mp hr
      decide
    tail := fun _ _ => fullPage_tail
    total := rfl
    page := fun _ _ => pageZero_lt }
  indices_fit := by decide

theorem longTable_over : ¬ KvLenFits 32 longTable.pageIndptr longTable.lastPageLen 0 := by decide

theorem longTable_none : longTable.requestKvLen 0 = .ok none :=
  requestKvLen_none longTable_valid longTable_over

/-- The decode validator accepts the table, which has no length, so a reference can panic. -/
theorem longTable_panics :
    longTable.spec.validatePageTable longTable.pageIndptr longTable.pageIndices
        longTable.lastPageLen = .ok longTable ∧ longTable.requestKvLen 0 = .ok none ∧ ¬ NeverPanics longTable :=
  ⟨validatePageTable_of_valid longTable_valid, longTable_none, fun never =>
    longTable_over ((neverPanics_iff longTable_valid).mp never 0 Nat.one_pos)⟩

end LoomKernels.Word
