import LoomKernels.Host.PagedAppend
import LoomKernels.Host.PagedPrefill
import LoomKernels.Lib.Machine

/-!
# Attention contracts on words of any size

The attention contracts for a `usize` of `w` bits. A constructor accepts a shape when its checked
products are words; every accessor of an accepted contract then has the value that exact arithmetic
gives, though its arithmetic is not checked. The element counts that `new` does not compute follow
from the ones it does, because all factors are positive.
-/

namespace LoomKernels.Word

/-! ## Machine integers -/

section Integers

variable (w : Nat)

def checkedAdd (a b : Nat) : Option Nat := if a + b < 2 ^ w then some (a + b) else none

def checkedMul (a b : Nat) : Option Nat := if a * b < 2 ^ w then some (a * b) else none

/-- `usize::try_from(x)` of an `i32`. -/
def usizeTryFrom (x : Int) : Option Nat := if 0 ≤ x ∧ x < 2 ^ w then some x.toNat else none

/-- `x as usize` of an `i32`: the value modulo `2 ^ w`. -/
def asUsize (x : Int) : Nat := (x % 2 ^ w).toNat

variable {w}

theorem usizeTryFrom_eq_some {x : Int} {n : Nat} :
    usizeTryFrom w x = some n ↔ x = n ∧ n < 2 ^ w := by
  have cast : ((2 ^ w : Nat) : Int) = 2 ^ w := by push_cast; rfl
  unfold usizeTryFrom
  split <;> simp only [Option.some.injEq, reduceCtorEq, false_iff] <;> omega

/-- A cast of a word is exact. -/
theorem asUsize_of_lt {x : Int} (h : 0 ≤ x) (h' : x < 2 ^ w) : asUsize w x = x.toNat := by
  rw [asUsize, Int.emod_eq_of_lt h h']

end Integers

/-- Sizes below a product of positive sizes. -/
theorem mul_lt_of_mul_lt {a b n : Nat} (hb : 0 < b) (h : a * b < n) : a < n :=
  (Nat.le_mul_of_pos_right a hb).trans_lt h

theorem mul_mul_ok {w a b c : Nat} (hc : 0 < c) (h : a * b * c < 2 ^ w) :
    (do mulWord w (← mulWord w a b) c : Machine HostFailure Nat) = .ok (a * b * c) := by
  rw [mulWord_ok (mul_lt_of_mul_lt hc h), ok_bind, mulWord_ok h]

/-- `query_head / gqa_group_size`, for the query heads there are. -/
def kvHeadForQueryHead (numQueryHeads numKvHeads queryHead : Nat) :
    Machine HostFailure (Option Nat) := do
  if queryHead < numQueryHeads then
    return some (← divWord queryHead (← divWord numQueryHeads numKvHeads))
  else return none

section Heads

variable {numQueryHeads numKvHeads : Nat} (hq : 0 < numQueryHeads)
  (group : numQueryHeads % numKvHeads = 0)
include hq group

theorem kvHeads_le_queryHeads : numKvHeads ≤ numQueryHeads :=
  Nat.le_of_dvd hq (Nat.dvd_of_mod_eq_zero group)

variable (hk : 0 < numKvHeads)
include hk

theorem groupSize_pos : 0 < numQueryHeads / numKvHeads :=
  Nat.div_pos (kvHeads_le_queryHeads hq group) hk

/-- Query heads fall into groups of equal size, one for each key/value head. -/
theorem kvHead_lt {queryHead : Nat} (h : queryHead < numQueryHeads) :
    queryHead / (numQueryHeads / numKvHeads) < numKvHeads := by
  have groups : numKvHeads * (numQueryHeads / numKvHeads) = numQueryHeads :=
    Nat.mul_div_cancel' (Nat.dvd_of_mod_eq_zero group)
  rw [Nat.div_lt_iff_lt_mul (groupSize_pos hq group hk), groups]
  exact h

theorem kvHeadForQueryHead_ok (queryHead : Nat) :
    kvHeadForQueryHead numQueryHeads numKvHeads queryHead =
      .ok (if queryHead < numQueryHeads then some (queryHead / (numQueryHeads / numKvHeads))
        else none) := by
  unfold kvHeadForQueryHead
  split
  · rw [divWord_ok hk, ok_bind, divWord_ok (groupSize_pos hq group hk), ok_bind]
    rfl
  · rfl

end Heads

theorem pageSize_supported {pageSize supported : Nat} (h : ¬ pageSize ≠ supported) :
    pageSize = supported :=
  not_not.mp h

/-! ## Single decode -/

/-- A decode contract that `new` accepts. -/
structure Bf16SingleDecodeSpec (w : Nat) where
  kvLen : Nat
  numQueryHeads : Nat
  numKvHeads : Nat
  kvLen_pos : 0 < kvLen
  queryHeads_pos : 0 < numQueryHeads
  kvHeads_pos : 0 < numKvHeads
  group : numQueryHeads % numKvHeads = 0
  query_fits : numQueryHeads * singleDecodeHeadDim < 2 ^ w
  token_fits : numKvHeads * singleDecodeHeadDim < 2 ^ w
  kv_fits : kvLen * (numKvHeads * singleDecodeHeadDim) < 2 ^ w

namespace Bf16SingleDecodeSpec

def new (w kvLen numQueryHeads numKvHeads headDim : Nat) : Host (Bf16SingleDecodeSpec w) :=
  if zero : kvLen = 0 ∨ numQueryHeads = 0 ∨ numKvHeads = 0 ∨ headDim = 0 then fail .zeroDimension
  else if dim : headDim ≠ singleDecodeHeadDim then
    fail (.unsupportedHeadDimension singleDecodeHeadDim headDim)
  else if group : numQueryHeads % numKvHeads ≠ 0 then
    fail (.invalidHeadMapping numQueryHeads numKvHeads)
  -- three `checked_mul`s with one error
  else if fits : numQueryHeads * headDim < 2 ^ w ∧ numKvHeads * headDim < 2 ^ w ∧
      kvLen * (numKvHeads * headDim) < 2 ^ w then
    have dim := headDim_supported dim
    .ok {
      kvLen, numQueryHeads, numKvHeads
      kvLen_pos := by omega
      queryHeads_pos := by omega
      kvHeads_pos := by omega
      group := heads_divide group
      query_fits := dim ▸ fits.1
      token_fits := dim ▸ fits.2.1
      kv_fits := dim ▸ fits.2.2 }
  else fail .elementCountOverflow

variable {w : Nat} (spec : Bf16SingleDecodeSpec w)

/-- `new` accepts every specification there is. -/
theorem new_self : new w spec.kvLen spec.numQueryHeads spec.numKvHeads singleDecodeHeadDim =
    .ok spec := by
  have h1 := spec.kvLen_pos
  have h2 := spec.queryHeads_pos
  have h3 := spec.kvHeads_pos
  rw [new, dif_neg (by simp only [singleDecodeHeadDim]; omega), dif_neg (by simp),
    dif_neg (not_not.mpr spec.group), dif_pos ⟨spec.query_fits, spec.token_fits, spec.kv_fits⟩]

def gqaGroupSize : Machine HostFailure Nat := divWord spec.numQueryHeads spec.numKvHeads

def queryNumel : Machine HostFailure Nat := mulWord w spec.numQueryHeads singleDecodeHeadDim

def kvNumel : Machine HostFailure Nat := do
  mulWord w (← mulWord w spec.kvLen spec.numKvHeads) singleDecodeHeadDim

def outputNumel : Machine HostFailure Nat := spec.queryNumel

def lseNumel : Nat := spec.numQueryHeads

def kvHeadForQueryHead (queryHead : Nat) : Machine HostFailure (Option Nat) :=
  Word.kvHeadForQueryHead spec.numQueryHeads spec.numKvHeads queryHead

theorem gqaGroupSize_ok : spec.gqaGroupSize = .ok (spec.numQueryHeads / spec.numKvHeads) :=
  divWord_ok spec.kvHeads_pos

theorem queryNumel_ok : spec.queryNumel = .ok (spec.numQueryHeads * singleDecodeHeadDim) :=
  mulWord_ok spec.query_fits

/-- The source multiplies in another order than `new`. -/
theorem kv_product_fits : spec.kvLen * spec.numKvHeads * singleDecodeHeadDim < 2 ^ w := by
  rw [Nat.mul_assoc]
  exact spec.kv_fits

theorem kvNumel_ok :
    spec.kvNumel = .ok (spec.kvLen * spec.numKvHeads * singleDecodeHeadDim) :=
  mul_mul_ok (by decide) spec.kv_product_fits

theorem outputNumel_ok : spec.outputNumel = .ok (spec.numQueryHeads * singleDecodeHeadDim) :=
  spec.queryNumel_ok

end Bf16SingleDecodeSpec

/-! ## Split-K -/

/-- A split-K contract that `new` accepts. -/
structure Bf16SingleDecodeSplitKSpec (w : Nat) where
  decode : Bf16SingleDecodeSpec w
  partitions : Nat
  partitions_pos : 0 < partitions
  partitions_le : partitions ≤ decode.kvLen
  workspace_fits : decode.numQueryHeads * partitions * singleDecodePartialStateWidth * 4 < 2 ^ w

namespace Bf16SingleDecodeSplitKSpec

variable {w : Nat}

def new (decode : Bf16SingleDecodeSpec w) (partitions : Nat) :
    Host (Bf16SingleDecodeSplitKSpec w) :=
  if range : partitions = 0 ∨ partitions > decode.kvLen then
    fail (.invalidPartitionCount partitions decode.kvLen)
  -- the last product bounds the ones before it
  else if fits :
      decode.numQueryHeads * partitions * singleDecodePartialStateWidth * 4 < 2 ^ w then
    .ok {
      decode, partitions
      partitions_pos := by omega
      partitions_le := by omega
      workspace_fits := fits }
  else fail .elementCountOverflow

variable (spec : Bf16SingleDecodeSplitKSpec w)

/-- `new` accepts every specification there is. -/
theorem new_self : new spec.decode spec.partitions = .ok spec := by
  have h1 := spec.partitions_pos
  have h2 := spec.partitions_le
  rw [new, dif_neg (by omega), dif_pos spec.workspace_fits]

def partialStateCount : Machine HostFailure Nat := mulWord w spec.decode.numQueryHeads spec.partitions

def workspaceNumel : Machine HostFailure Nat := do
  mulWord w (← spec.partialStateCount) singleDecodePartialStateWidth

def workspaceBytes : Machine HostFailure Nat := do mulWord w (← spec.workspaceNumel) 4

def partitionTokenRange (part : Nat) : Machine HostFailure (Option (Nat × Nat)) := do
  if part ≥ spec.partitions then return none
  else
    let base ← divWord spec.decode.kvLen spec.partitions
    let remainder ← modWord spec.decode.kvLen spec.partitions
    let extraBefore := if part < remainder then part else remainder
    let start ← addWord w (← mulWord w part base) extraBefore
    let len ← addWord w base (if part < remainder then 1 else 0)
    return some (start, ← addWord w start len)

def partialStateOffset (queryHead part : Nat) : Machine HostFailure (Option Nat) := do
  if queryHead ≥ spec.decode.numQueryHeads ∨ part ≥ spec.partitions then return none
  else
    return some (← mulWord w (← addWord w (← mulWord w queryHead spec.partitions) part)
      singleDecodePartialStateWidth)

theorem workspace_numel_fits :
    spec.decode.numQueryHeads * spec.partitions * singleDecodePartialStateWidth < 2 ^ w :=
  mul_lt_of_mul_lt (by decide) spec.workspace_fits

theorem partialStateCount_ok :
    spec.partialStateCount = .ok (spec.decode.numQueryHeads * spec.partitions) :=
  mulWord_ok (mul_lt_of_mul_lt (by decide) spec.workspace_numel_fits)

theorem workspaceNumel_ok : spec.workspaceNumel =
    .ok (spec.decode.numQueryHeads * spec.partitions * singleDecodePartialStateWidth) := by
  rw [workspaceNumel, spec.partialStateCount_ok, ok_bind, mulWord_ok spec.workspace_numel_fits]

theorem workspaceBytes_ok : spec.workspaceBytes =
    .ok (spec.decode.numQueryHeads * spec.partitions * singleDecodePartialStateWidth * 4) := by
  rw [workspaceBytes, spec.workspaceNumel_ok, ok_bind, mulWord_ok spec.workspace_fits]

/-- The partitions are the cells of the balanced cut. -/
theorem partitionTokenRange_ok (part : Nat) :
    spec.partitionTokenRange part =
      .ok (if part < spec.partitions then
        some (balancedCut spec.decode.kvLen spec.partitions part,
          balancedCut spec.decode.kvLen spec.partitions (part + 1))
      else none) := by
  unfold partitionTokenRange
  by_cases hp : part < spec.partitions
  · have pos := spec.partitions_pos
    have kv_lt : spec.decode.kvLen < 2 ^ w :=
      mul_lt_of_mul_lt (Nat.mul_pos spec.decode.kvHeads_pos (by decide)) spec.decode.kv_fits
    have stop := cut_le_cut (fun i _ => balancedCut_mono spec.decode.kvLen spec.partitions i)
      (show part + 1 ≤ spec.partitions from hp) le_rfl
    rw [balancedCut_last pos, balancedCut_succ, balancedCut, Nat.min_def] at stop
    have extra : (if part < spec.decode.kvLen % spec.partitions then part
        else spec.decode.kvLen % spec.partitions) =
        if part ≤ spec.decode.kvLen % spec.partitions then part
        else spec.decode.kvLen % spec.partitions := by
      split <;> split <;> omega
    rw [if_neg (by omega), if_pos hp, divWord_ok pos, ok_bind, modWord_ok pos, ok_bind, extra,
      balancedCut_succ, balancedCut, Nat.min_def]
    generalize spec.decode.kvLen / spec.partitions = base at *
    rw [mulWord_ok (by omega), ok_bind, addWord_ok (by omega), ok_bind, addWord_ok (by omega),
      ok_bind, addWord_ok (by omega)]
    rfl
  · rw [if_pos (by omega), if_neg hp]
    rfl

/-- A state lies in the workspace. -/
theorem partialStateOffset_ok (queryHead part : Nat) :
    spec.partialStateOffset queryHead part =
      .ok (if queryHead < spec.decode.numQueryHeads ∧ part < spec.partitions then
        some ((queryHead * spec.partitions + part) * singleDecodePartialStateWidth)
      else none) := by
  unfold partialStateOffset
  by_cases h : queryHead < spec.decode.numQueryHeads ∧ part < spec.partitions
  · have state := rowMajor_lt h.1 h.2
    have last := spec.workspace_numel_fits
    simp only [singleDecodePartialStateWidth, singleDecodeHeadDim] at last ⊢
    rw [if_neg (by omega), if_pos h, mulWord_ok (by omega), ok_bind, addWord_ok (by omega), ok_bind,
      mulWord_ok (by omega)]
    rfl
  · rw [if_pos (by omega), if_neg h]
    rfl

end Bf16SingleDecodeSplitKSpec

/-! ## Paged decode -/

/-- A paged decode contract that `new` accepts. -/
structure Bf16PagedBatchDecodeSpec (w : Nat) where
  batchSize : Nat
  maxNumPages : Nat
  numQueryHeads : Nat
  numKvHeads : Nat
  batch_pos : 0 < batchSize
  pages_pos : 0 < maxNumPages
  queryHeads_pos : 0 < numQueryHeads
  kvHeads_pos : 0 < numKvHeads
  group : numQueryHeads % numKvHeads = 0
  batch_fits : batchSize + 1 < 2 ^ w
  query_fits : batchSize * numQueryHeads * singleDecodeHeadDim < 2 ^ w
  pages_fit : maxNumPages * pagedBatchDecodePageSize * numKvHeads * singleDecodeHeadDim < 2 ^ w

namespace Bf16PagedBatchDecodeSpec

def new (w batchSize maxNumPages numQueryHeads numKvHeads headDim pageSize : Nat) :
    Host (Bf16PagedBatchDecodeSpec w) :=
  if zero : batchSize = 0 ∨ maxNumPages = 0 ∨ numQueryHeads = 0 ∨ numKvHeads = 0 ∨
      headDim = 0 ∨ pageSize = 0 then fail .zeroDimension
  else if dim : headDim ≠ singleDecodeHeadDim then
    fail (.unsupportedHeadDimension singleDecodeHeadDim headDim)
  else if size : pageSize ≠ pagedBatchDecodePageSize then
    fail (.unsupportedPageSize pagedBatchDecodePageSize pageSize)
  else if group : numQueryHeads % numKvHeads ≠ 0 then
    fail (.invalidHeadMapping numQueryHeads numKvHeads)
  -- a `checked_add` and chains of `checked_mul` with one error; each last product bounds the others
  else if fits : batchSize + 1 < 2 ^ w ∧ batchSize * numQueryHeads * headDim < 2 ^ w ∧
      maxNumPages * pageSize * numKvHeads * headDim < 2 ^ w then
    have dim := headDim_supported dim
    have size := pageSize_supported size
    .ok {
      batchSize, maxNumPages, numQueryHeads, numKvHeads
      batch_pos := by omega
      pages_pos := by omega
      queryHeads_pos := by omega
      kvHeads_pos := by omega
      group := heads_divide group
      batch_fits := fits.1
      query_fits := dim ▸ fits.2.1
      pages_fit := by rw [← dim, ← size]; exact fits.2.2 }
  else fail .elementCountOverflow

variable {w : Nat} (spec : Bf16PagedBatchDecodeSpec w)

/-- `new` accepts every specification there is. -/
theorem new_self :
    new w spec.batchSize spec.maxNumPages spec.numQueryHeads spec.numKvHeads singleDecodeHeadDim
      pagedBatchDecodePageSize = .ok spec := by
  have h1 := spec.batch_pos
  have h2 := spec.pages_pos
  have h3 := spec.queryHeads_pos
  have h4 := spec.kvHeads_pos
  rw [new, dif_neg (by simp only [singleDecodeHeadDim, pagedBatchDecodePageSize]; omega),
    dif_neg (by simp), dif_neg (by simp), dif_neg (not_not.mpr spec.group),
    dif_pos ⟨spec.batch_fits, spec.query_fits, spec.pages_fit⟩]

def queryNumel : Machine HostFailure Nat := do
  mulWord w (← mulWord w spec.batchSize spec.numQueryHeads) singleDecodeHeadDim

def kvPagesNumel : Machine HostFailure Nat := do
  mulWord w (← mulWord w (← mulWord w spec.maxNumPages pagedBatchDecodePageSize) spec.numKvHeads)
    singleDecodeHeadDim

def outputNumel : Machine HostFailure Nat := spec.queryNumel

def lseNumel : Machine HostFailure Nat := mulWord w spec.batchSize spec.numQueryHeads

def pageIndptrNumel : Machine HostFailure Nat := addWord w spec.batchSize 1

def lastPageLenNumel : Nat := spec.batchSize

def kvHeadForQueryHead (queryHead : Nat) : Machine HostFailure (Option Nat) :=
  Word.kvHeadForQueryHead spec.numQueryHeads spec.numKvHeads queryHead

theorem queryNumel_ok :
    spec.queryNumel = .ok (spec.batchSize * spec.numQueryHeads * singleDecodeHeadDim) :=
  mul_mul_ok (by decide) spec.query_fits

theorem kvPagesNumel_ok : spec.kvPagesNumel =
    .ok (spec.maxNumPages * pagedBatchDecodePageSize * spec.numKvHeads * singleDecodeHeadDim) := by
  have tokens := mul_lt_of_mul_lt spec.kvHeads_pos
    (mul_lt_of_mul_lt (show 0 < singleDecodeHeadDim by decide) spec.pages_fit)
  rw [kvPagesNumel, mulWord_ok tokens, ok_bind]
  exact mul_mul_ok (by decide) spec.pages_fit

theorem lseNumel_ok : spec.lseNumel = .ok (spec.batchSize * spec.numQueryHeads) :=
  mulWord_ok (mul_lt_of_mul_lt (by decide) spec.query_fits)

theorem pageIndptrNumel_ok : spec.pageIndptrNumel = .ok (spec.batchSize + 1) :=
  addWord_ok spec.batch_fits

end Bf16PagedBatchDecodeSpec

/-! ## Paged append -/

structure Bf16RopePagedKvAppendSpec (w : Nat) where
  paged : Bf16PagedBatchDecodeSpec w

namespace Bf16RopePagedKvAppendSpec

def new (w batchSize maxNumPages numQueryHeads numKvHeads headDim pageSize : Nat) :
    Host (Bf16RopePagedKvAppendSpec w) := do
  return ⟨← Bf16PagedBatchDecodeSpec.new w batchSize maxNumPages numQueryHeads numKvHeads headDim
    pageSize⟩

variable {w : Nat} (spec : Bf16RopePagedKvAppendSpec w)

def keyNumel : Machine HostFailure Nat := do
  mulWord w (← mulWord w spec.paged.batchSize spec.paged.numKvHeads) singleDecodeHeadDim

/-- There are no more key/value heads than query heads. -/
theorem key_fits :
    spec.paged.batchSize * spec.paged.numKvHeads * singleDecodeHeadDim < 2 ^ w := by
  have le := kvHeads_le_queryHeads spec.paged.queryHeads_pos spec.paged.group
  exact (Nat.mul_le_mul_right _ (Nat.mul_le_mul_left _ le)).trans_lt spec.paged.query_fits

theorem keyNumel_ok : spec.keyNumel =
    .ok (spec.paged.batchSize * spec.paged.numKvHeads * singleDecodeHeadDim) :=
  mul_mul_ok (by decide) spec.key_fits

end Bf16RopePagedKvAppendSpec

/-- A multi-token contract that `new` accepts. -/
structure Bf16RopePagedKvAppendTokensSpec (w : Nat) where
  paged : Bf16PagedBatchDecodeSpec w
  tokens : Nat
  tokens_pos : 0 < tokens
  tokens_le : tokens ≤ ropePagedKvAppendMaxTokens
  query_fits : tokens * paged.numQueryHeads * singleDecodeHeadDim < 2 ^ w
  key_fits : tokens * paged.numKvHeads * singleDecodeHeadDim < 2 ^ w

namespace Bf16RopePagedKvAppendTokensSpec

def new (w tokens batchSize maxNumPages numQueryHeads numKvHeads headDim pageSize : Nat) :
    Host (Bf16RopePagedKvAppendTokensSpec w) := do
  if zero : tokens = 0 then fail .zeroDimension
  else if max : tokens > ropePagedKvAppendMaxTokens then
    fail (.unsupportedAppendTokenCount ropePagedKvAppendMaxTokens tokens)
  else
    let paged ← Bf16PagedBatchDecodeSpec.new w batchSize maxNumPages numQueryHeads numKvHeads headDim
      pageSize
    -- `paged` holds the head counts it was given, and the head dimension it was given is 128
    if fits : tokens * paged.numQueryHeads * singleDecodeHeadDim < 2 ^ w ∧
        tokens * paged.numKvHeads * singleDecodeHeadDim < 2 ^ w then
      .ok {
        paged, tokens
        tokens_pos := by omega
        tokens_le := by omega
        query_fits := fits.1
        key_fits := fits.2 }
    else fail .elementCountOverflow

variable {w : Nat} (spec : Bf16RopePagedKvAppendTokensSpec w)

/-- `new` accepts every specification there is. -/
theorem new_self :
    new w spec.tokens spec.paged.batchSize spec.paged.maxNumPages spec.paged.numQueryHeads
      spec.paged.numKvHeads singleDecodeHeadDim pagedBatchDecodePageSize = .ok spec := by
  have h1 := spec.tokens_pos
  have h2 := spec.tokens_le
  rw [new, dif_neg (by omega), dif_neg (by omega), Bf16PagedBatchDecodeSpec.new_self, ok_bind,
    dif_pos ⟨spec.query_fits, spec.key_fits⟩]

def queryNumel : Machine HostFailure Nat := do
  mulWord w (← mulWord w spec.tokens spec.paged.numQueryHeads) singleDecodeHeadDim

def keyNumel : Machine HostFailure Nat := do
  mulWord w (← mulWord w spec.tokens spec.paged.numKvHeads) singleDecodeHeadDim

theorem queryNumel_ok :
    spec.queryNumel = .ok (spec.tokens * spec.paged.numQueryHeads * singleDecodeHeadDim) :=
  mul_mul_ok (by decide) spec.query_fits

theorem keyNumel_ok :
    spec.keyNumel = .ok (spec.tokens * spec.paged.numKvHeads * singleDecodeHeadDim) :=
  mul_mul_ok (by decide) spec.key_fits

end Bf16RopePagedKvAppendTokensSpec

/-! ## Prefill -/

/-- A ragged prefill contract that `new` accepts. -/
structure Bf16RaggedPrefillSpec (w : Nat) where
  batchSize : Nat
  nnzQo : Nat
  nnzKv : Nat
  numQueryHeads : Nat
  numKvHeads : Nat
  batch_pos : 0 < batchSize
  qo_pos : 0 < nnzQo
  kv_pos : 0 < nnzKv
  queryHeads_pos : 0 < numQueryHeads
  kvHeads_pos : 0 < numKvHeads
  group : numQueryHeads % numKvHeads = 0
  qo_lt : nnzQo < 2 ^ 31
  kv_lt : nnzKv < 2 ^ 31
  batch_fits : batchSize + 1 < 2 ^ w
  query_fits : nnzQo * numQueryHeads * singleDecodeHeadDim < 2 ^ w
  kv_fits : nnzKv * numKvHeads * singleDecodeHeadDim < 2 ^ w

namespace Bf16RaggedPrefillSpec

def new (w batchSize nnzQo nnzKv numQueryHeads numKvHeads headDim : Nat) :
    Host (Bf16RaggedPrefillSpec w) :=
  if zero : batchSize = 0 ∨ nnzQo = 0 ∨ nnzKv = 0 ∨ numQueryHeads = 0 ∨ numKvHeads = 0 ∨
      headDim = 0 then fail .zeroDimension
  else if dim : headDim ≠ singleDecodeHeadDim then
    fail (.unsupportedHeadDimension singleDecodeHeadDim headDim)
  else if group : numQueryHeads % numKvHeads ≠ 0 then
    fail (.invalidHeadMapping numQueryHeads numKvHeads)
  -- two `i32::try_from`, a `checked_add` and two chains of `checked_mul` with one error; each last
  -- product bounds the others
  else if fits : nnzQo < 2 ^ 31 ∧ nnzKv < 2 ^ 31 ∧ batchSize + 1 < 2 ^ w ∧
      nnzQo * numQueryHeads * headDim < 2 ^ w ∧ nnzKv * numKvHeads * headDim < 2 ^ w then
    have dim := headDim_supported dim
    .ok {
      batchSize, nnzQo, nnzKv, numQueryHeads, numKvHeads
      batch_pos := by omega
      qo_pos := by omega
      kv_pos := by omega
      queryHeads_pos := by omega
      kvHeads_pos := by omega
      group := heads_divide group
      qo_lt := fits.1
      kv_lt := fits.2.1
      batch_fits := fits.2.2.1
      query_fits := dim ▸ fits.2.2.2.1
      kv_fits := dim ▸ fits.2.2.2.2 }
  else fail .elementCountOverflow

variable {w : Nat} (spec : Bf16RaggedPrefillSpec w)

/-- `new` accepts every specification there is. -/
theorem new_self :
    new w spec.batchSize spec.nnzQo spec.nnzKv spec.numQueryHeads spec.numKvHeads
      singleDecodeHeadDim = .ok spec := by
  have h1 := spec.batch_pos
  have h2 := spec.qo_pos
  have h3 := spec.kv_pos
  have h4 := spec.queryHeads_pos
  have h5 := spec.kvHeads_pos
  rw [new, dif_neg (by simp only [singleDecodeHeadDim]; omega), dif_neg (by simp),
    dif_neg (not_not.mpr spec.group),
    dif_pos ⟨spec.qo_lt, spec.kv_lt, spec.batch_fits, spec.query_fits, spec.kv_fits⟩]

def queryNumel : Machine HostFailure Nat := do
  mulWord w (← mulWord w spec.nnzQo spec.numQueryHeads) singleDecodeHeadDim

def kvNumel : Machine HostFailure Nat := do
  mulWord w (← mulWord w spec.nnzKv spec.numKvHeads) singleDecodeHeadDim

def outputNumel : Machine HostFailure Nat := spec.queryNumel

def lseNumel : Machine HostFailure Nat := mulWord w spec.nnzQo spec.numQueryHeads

def indptrNumel : Machine HostFailure Nat := addWord w spec.batchSize 1

def kvHeadForQueryHead (queryHead : Nat) : Machine HostFailure (Option Nat) :=
  Word.kvHeadForQueryHead spec.numQueryHeads spec.numKvHeads queryHead

theorem queryNumel_ok :
    spec.queryNumel = .ok (spec.nnzQo * spec.numQueryHeads * singleDecodeHeadDim) :=
  mul_mul_ok (by decide) spec.query_fits

theorem kvNumel_ok : spec.kvNumel = .ok (spec.nnzKv * spec.numKvHeads * singleDecodeHeadDim) :=
  mul_mul_ok (by decide) spec.kv_fits

theorem lseNumel_ok : spec.lseNumel = .ok (spec.nnzQo * spec.numQueryHeads) :=
  mulWord_ok (mul_lt_of_mul_lt (by decide) spec.query_fits)

theorem indptrNumel_ok : spec.indptrNumel = .ok (spec.batchSize + 1) := addWord_ok spec.batch_fits

end Bf16RaggedPrefillSpec

/-- A paged prefill contract that `new` accepts. -/
structure Bf16PagedPrefillSpec (w : Nat) where
  batchSize : Nat
  nnzQo : Nat
  maxNumPages : Nat
  numQueryHeads : Nat
  numKvHeads : Nat
  batch_pos : 0 < batchSize
  qo_pos : 0 < nnzQo
  pages_pos : 0 < maxNumPages
  queryHeads_pos : 0 < numQueryHeads
  kvHeads_pos : 0 < numKvHeads
  group : numQueryHeads % numKvHeads = 0
  qo_lt : nnzQo < 2 ^ 31
  batch_fits : batchSize + 1 < 2 ^ w
  query_fits : nnzQo * numQueryHeads * singleDecodeHeadDim < 2 ^ w
  pages_fit : maxNumPages * pagedPrefillPageSize * numKvHeads * singleDecodeHeadDim < 2 ^ w

namespace Bf16PagedPrefillSpec

def new (w batchSize nnzQo maxNumPages numQueryHeads numKvHeads headDim pageSize : Nat) :
    Host (Bf16PagedPrefillSpec w) :=
  if zero : batchSize = 0 ∨ nnzQo = 0 ∨ maxNumPages = 0 ∨ numQueryHeads = 0 ∨ numKvHeads = 0 ∨
      headDim = 0 ∨ pageSize = 0 then fail .zeroDimension
  else if dim : headDim ≠ singleDecodeHeadDim then
    fail (.unsupportedHeadDimension singleDecodeHeadDim headDim)
  else if size : pageSize ≠ pagedPrefillPageSize then
    fail (.unsupportedPageSize pagedPrefillPageSize pageSize)
  else if group : numQueryHeads % numKvHeads ≠ 0 then
    fail (.invalidHeadMapping numQueryHeads numKvHeads)
  -- an `i32::try_from`, a `checked_add` and two chains of `checked_mul` with one error; each last
  -- product bounds the others
  else if fits : nnzQo < 2 ^ 31 ∧ batchSize + 1 < 2 ^ w ∧
      nnzQo * numQueryHeads * headDim < 2 ^ w ∧
      maxNumPages * pageSize * numKvHeads * headDim < 2 ^ w then
    have dim := headDim_supported dim
    have size := pageSize_supported size
    .ok {
      batchSize, nnzQo, maxNumPages, numQueryHeads, numKvHeads
      batch_pos := by omega
      qo_pos := by omega
      pages_pos := by omega
      queryHeads_pos := by omega
      kvHeads_pos := by omega
      group := heads_divide group
      qo_lt := fits.1
      batch_fits := fits.2.1
      query_fits := dim ▸ fits.2.2.1
      pages_fit := by rw [← dim, ← size]; exact fits.2.2.2 }
  else fail .elementCountOverflow

variable {w : Nat} (spec : Bf16PagedPrefillSpec w)

/-- `new` accepts every specification there is. -/
theorem new_self :
    new w spec.batchSize spec.nnzQo spec.maxNumPages spec.numQueryHeads spec.numKvHeads
      singleDecodeHeadDim pagedPrefillPageSize = .ok spec := by
  have h1 := spec.batch_pos
  have h2 := spec.qo_pos
  have h3 := spec.pages_pos
  have h4 := spec.queryHeads_pos
  have h5 := spec.kvHeads_pos
  rw [new, dif_neg (by simp only [singleDecodeHeadDim, pagedPrefillPageSize]; omega),
    dif_neg (by simp), dif_neg (by simp), dif_neg (not_not.mpr spec.group),
    dif_pos ⟨spec.qo_lt, spec.batch_fits, spec.query_fits, spec.pages_fit⟩]

def queryNumel : Machine HostFailure Nat := do
  mulWord w (← mulWord w spec.nnzQo spec.numQueryHeads) singleDecodeHeadDim

def kvPagesNumel : Machine HostFailure Nat := do
  mulWord w (← mulWord w (← mulWord w spec.maxNumPages pagedPrefillPageSize) spec.numKvHeads)
    singleDecodeHeadDim

def outputNumel : Machine HostFailure Nat := spec.queryNumel

def lseNumel : Machine HostFailure Nat := mulWord w spec.nnzQo spec.numQueryHeads

def indptrNumel : Machine HostFailure Nat := addWord w spec.batchSize 1

def lastPageLenNumel : Nat := spec.batchSize

def kvHeadForQueryHead (queryHead : Nat) : Machine HostFailure (Option Nat) :=
  Word.kvHeadForQueryHead spec.numQueryHeads spec.numKvHeads queryHead

theorem queryNumel_ok :
    spec.queryNumel = .ok (spec.nnzQo * spec.numQueryHeads * singleDecodeHeadDim) :=
  mul_mul_ok (by decide) spec.query_fits

theorem kvPagesNumel_ok : spec.kvPagesNumel =
    .ok (spec.maxNumPages * pagedPrefillPageSize * spec.numKvHeads * singleDecodeHeadDim) := by
  have tokens := mul_lt_of_mul_lt spec.kvHeads_pos
    (mul_lt_of_mul_lt (show 0 < singleDecodeHeadDim by decide) spec.pages_fit)
  rw [kvPagesNumel, mulWord_ok tokens, ok_bind]
  exact mul_mul_ok (by decide) spec.pages_fit

theorem lseNumel_ok : spec.lseNumel = .ok (spec.nnzQo * spec.numQueryHeads) :=
  mulWord_ok (mul_lt_of_mul_lt (by decide) spec.query_fits)

theorem indptrNumel_ok : spec.indptrNumel = .ok (spec.batchSize + 1) := addWord_ok spec.batch_fits

end Bf16PagedPrefillSpec

end LoomKernels.Word
