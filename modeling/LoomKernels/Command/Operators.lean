import LoomKernels.Host.Dense
import LoomKernels.Host.PagedAppend
import LoomKernels.Host.PagedPrefill
import LoomKernels.Host.SingleDecode
import LoomKernels.Device.RaggedPlan
import LoomKernels.Command.Enqueue

/-!
# Operators

The plans of all operators with their checked handles, and their `enqueue_into` functions. An operator
with one kernel is a `CheckedLaunch`; split-K decode and tiled prefill reserve two commands and enqueue
two of them, and the GEMM calls an external library.

`OperatorCall` is a call of any of them, `Answers` what the driver and the library answer during it.
-/

namespace LoomKernels

/-! ## Typed handles -/

/-- `Read<T>` -/
abbrev ReadOf (element : Element) := {handle : Read // handle.element = element}

/-- `Write<T>` -/
abbrev WriteOf (element : Element) := {handle : Write // handle.element = element}

/-- `ReadWrite<T>` -/
abbrev ReadWriteOf (element : Element) := {handle : ReadWrite // handle.element = element}

def ReadWriteOf.read {element : Element} (handle : ReadWriteOf element) : ReadOf element :=
  ⟨handle.1.read, handle.2⟩

def ReadWriteOf.write {element : Element} (handle : ReadWriteOf element) : WriteOf element :=
  ⟨handle.1.write, handle.2⟩

/-! ## RMSNorm -/

structure RmsNormArgs (element : Element) where
  input : ReadOf element
  weight : ReadOf element
  output : WriteOf element

namespace RmsNormSpec

variable (spec : RmsNormSpec)

/-- The contract of an RMSNorm kernel that needs `minHidden` columns. -/
def requires (minHidden : Nat) (buffers : Nat → DeviceBuffer) : Bool :=
  spec.rows ≥ 1 ∧ spec.hiddenSize ≥ minHidden ∧
    (buffers 0).len = spec.rows * spec.hiddenSize ∧
    (buffers 1).len = spec.hiddenSize ∧
    (buffers 2).len = spec.rows * spec.hiddenSize

/-- A launch with one element per load and store. -/
def scalarLaunch (function : String) {element : Element} (args : RmsNormArgs element) :
    CheckedLaunch where
  function
  operands := [.read args.input, .read args.weight, .write args.output]
  checks := []
  requires := spec.requires 1

/-- A launch with two adjacent elements per load and store. -/
def packedLaunch (function : String) {element : Element} (args : RmsNormArgs element) :
    CheckedLaunch where
  function
  operands := [.read args.input, .read args.weight, .write args.output]
  checks := [.aligned "input" 0 packedAlignment, .aligned "weight" 1 packedAlignment,
    .aligned "output" 2 packedAlignment]
  requires := spec.requires 2

end RmsNormSpec

structure RmsNormF32Plan where
  spec : RmsNormSpec
  dtype : spec.dtype = .f32

def RmsNormF32Plan.launch (plan : RmsNormF32Plan) (args : RmsNormArgs .f32) : CheckedLaunch :=
  plan.spec.scalarLaunch "rms_norm_f32" args

structure RmsNormF16Plan where
  spec : RmsNormSpec
  dtype : spec.dtype = .f16

def RmsNormF16Plan.launch (plan : RmsNormF16Plan) (args : RmsNormArgs .f16) : CheckedLaunch :=
  if plan.spec.hiddenSize % 2 = 0 then plan.spec.packedLaunch "rms_norm_f16_packed2" args
  else plan.spec.scalarLaunch "rms_norm_f16_scalar" args

structure RmsNormBf16Plan where
  spec : RmsNormSpec
  dtype : spec.dtype = .bf16

def RmsNormBf16Plan.launch (plan : RmsNormBf16Plan) (args : RmsNormArgs .bf16) : CheckedLaunch :=
  if plan.spec.hiddenSize % 2 = 0 then plan.spec.packedLaunch "rms_norm_bf16_packed2" args
  else plan.spec.scalarLaunch "rms_norm_bf16_scalar" args

/-! ## Rotary embedding and append -/

/-- Standard RoPE is planned for whole heads of 128 components. -/
structure Bf16RopePosIdsPlan where
  spec : Bf16RopePosIdsSpec
  headDim : spec.headDim = 128
  rotaryDim : spec.rotaryDim = 128

structure Bf16RopePosIdsArgs where
  query : ReadOf .bf16
  key : ReadOf .bf16
  positionIds : ReadOf .i32
  queryOutput : WriteOf .bf16
  keyOutput : WriteOf .bf16

def Bf16RopePosIdsPlan.launch (plan : Bf16RopePosIdsPlan) (args : Bf16RopePosIdsArgs) :
    CheckedLaunch where
  function := "rope_pos_ids_bf16_neox_d128"
  operands := [.read args.query, .read args.key, .read args.positionIds, .write args.queryOutput,
    .write args.keyOutput]
  checks := [.exactLen "query" 0 plan.spec.queryNumel, .exactLen "key" 1 plan.spec.keyNumel,
    .exactLen "position_ids" 2 plan.spec.positionNumel,
    .exactLen "query_output" 3 plan.spec.queryNumel, .exactLen "key_output" 4 plan.spec.keyNumel]
  requires buffers :=
    plan.spec.tokens ≥ 1 ∧ plan.spec.queryHeads ≥ 1 ∧ plan.spec.keyHeads ≥ 1 ∧
      (buffers 0).len = plan.spec.tokens * plan.spec.queryHeads * 128 ∧
      (buffers 1).len = plan.spec.tokens * plan.spec.keyHeads * 128 ∧
      (buffers 2).len = plan.spec.tokens ∧
      (buffers 3).len = plan.spec.tokens * plan.spec.queryHeads * 128 ∧
      (buffers 4).len = plan.spec.tokens * plan.spec.keyHeads * 128

structure Bf16RopePagedKvAppendPlan where
  spec : Bf16RopePagedKvAppendSpec

structure Bf16RopePagedKvAppendArgs where
  query : ReadOf .bf16
  key : ReadOf .bf16
  value : ReadOf .bf16
  pageIndptr : ReadOf .i32
  pageIndices : ReadOf .i32
  lastPageLen : ReadOf .i32
  queryOutput : WriteOf .bf16
  keyPages : WriteOf .bf16
  valuePages : WriteOf .bf16

def Bf16RopePagedKvAppendPlan.launch (plan : Bf16RopePagedKvAppendPlan)
    (args : Bf16RopePagedKvAppendArgs) : CheckedLaunch where
  function := "rope_paged_kv_append_bf16_neox_d128"
  operands := [.read args.query, .read args.key, .read args.value, .read args.pageIndptr,
    .read args.pageIndices, .read args.lastPageLen, .write args.queryOutput, .write args.keyPages,
    .write args.valuePages]
  checks := [.exactLen "query" 0 plan.spec.queryNumel, .exactLen "key" 1 plan.spec.keyNumel,
    .exactLen "value" 2 plan.spec.valueNumel,
    .exactLen "page_indptr" 3 plan.spec.pageIndptrNumel,
    .pageIndices 4 plan.spec.batchSize,
    .exactLen "last_page_len" 5 plan.spec.lastPageLenNumel,
    .exactLen "query_output" 6 plan.spec.queryOutputNumel,
    .exactLen "key_pages" 7 plan.spec.kvPagesNumel, .exactLen "value_pages" 8 plan.spec.kvPagesNumel]
  requires buffers :=
    plan.spec.batchSize ≥ 1 ∧ plan.spec.maxNumPages ≥ 1 ∧ plan.spec.numQueryHeads ≥ 1 ∧
      plan.spec.numKvHeads ≥ 1 ∧
      (buffers 0).len = plan.spec.batchSize * plan.spec.numQueryHeads * 128 ∧
      (buffers 1).len = plan.spec.batchSize * plan.spec.numKvHeads * 128 ∧
      (buffers 2).len = plan.spec.batchSize * plan.spec.numKvHeads * 128 ∧
      (buffers 3).len = plan.spec.batchSize + 1 ∧
      (buffers 4).len ≥ plan.spec.batchSize ∧
      (buffers 5).len = plan.spec.batchSize ∧
      (buffers 6).len = plan.spec.batchSize * plan.spec.numQueryHeads * 128 ∧
      (buffers 7).len = plan.spec.maxNumPages * 16 * plan.spec.numKvHeads * 128 ∧
      (buffers 8).len = plan.spec.maxNumPages * 16 * plan.spec.numKvHeads * 128

structure Bf16RopePagedKvAppendTokensPlan where
  spec : Bf16RopePagedKvAppendTokensSpec

structure Bf16RopePagedKvAppendTokensArgs where
  query : ReadOf .bf16
  key : ReadOf .bf16
  value : ReadOf .bf16
  batchIndices : ReadOf .i32
  positions : ReadOf .i32
  pageIndptr : ReadOf .i32
  pageIndices : ReadOf .i32
  lastPageLen : ReadOf .i32
  queryOutput : WriteOf .bf16
  keyPages : WriteOf .bf16
  valuePages : WriteOf .bf16

def Bf16RopePagedKvAppendTokensPlan.launch (plan : Bf16RopePagedKvAppendTokensPlan)
    (args : Bf16RopePagedKvAppendTokensArgs) : CheckedLaunch where
  function := "rope_paged_kv_append_tokens_bf16_neox_d128"
  operands := [.read args.query, .read args.key, .read args.value, .read args.batchIndices,
    .read args.positions, .read args.pageIndptr, .read args.pageIndices, .read args.lastPageLen,
    .write args.queryOutput, .write args.keyPages, .write args.valuePages]
  checks := [.exactLen "query" 0 plan.spec.queryNumel, .exactLen "key" 1 plan.spec.keyNumel,
    .exactLen "value" 2 plan.spec.valueNumel,
    .exactLen "batch_indices" 3 plan.spec.batchIndicesNumel,
    .exactLen "positions" 4 plan.spec.positionsNumel,
    .exactLen "page_indptr" 5 plan.spec.pageIndptrNumel,
    .pageIndices 6 plan.spec.batchSize,
    .exactLen "last_page_len" 7 plan.spec.lastPageLenNumel,
    .exactLen "query_output" 8 plan.spec.queryOutputNumel,
    .exactLen "key_pages" 9 plan.spec.kvPagesNumel,
    .exactLen "value_pages" 10 plan.spec.kvPagesNumel]
  requires buffers :=
    plan.spec.tokens ≥ 1 ∧ plan.spec.tokens ≤ 64 ∧ plan.spec.batchSize ≥ 1 ∧
      plan.spec.maxNumPages ≥ 1 ∧ plan.spec.numQueryHeads ≥ 1 ∧ plan.spec.numKvHeads ≥ 1 ∧
      (buffers 0).len = plan.spec.tokens * plan.spec.numQueryHeads * 128 ∧
      (buffers 1).len = plan.spec.tokens * plan.spec.numKvHeads * 128 ∧
      (buffers 2).len = plan.spec.tokens * plan.spec.numKvHeads * 128 ∧
      (buffers 3).len = plan.spec.tokens ∧
      (buffers 4).len = plan.spec.tokens ∧
      (buffers 5).len = plan.spec.batchSize + 1 ∧
      (buffers 6).len ≥ plan.spec.batchSize ∧
      (buffers 7).len = plan.spec.batchSize ∧
      (buffers 8).len = plan.spec.tokens * plan.spec.numQueryHeads * 128 ∧
      (buffers 9).len = plan.spec.maxNumPages * 16 * plan.spec.numKvHeads * 128 ∧
      (buffers 10).len = plan.spec.maxNumPages * 16 * plan.spec.numKvHeads * 128

/-! ## Decode -/

structure Bf16SingleDecodePlan where
  spec : Bf16SingleDecodeSpec

structure Bf16SingleDecodeArgs where
  query : ReadOf .bf16
  key : ReadOf .bf16
  value : ReadOf .bf16
  output : WriteOf .bf16
  lse : WriteOf .f32

def Bf16SingleDecodePlan.launch (plan : Bf16SingleDecodePlan) (args : Bf16SingleDecodeArgs) :
    CheckedLaunch where
  function := "single_decode_bf16_nhd"
  operands := [.read args.query, .read args.key, .read args.value, .write args.output,
    .write args.lse]
  checks := [.aligned "Q" 0 packedAlignment, .aligned "K" 1 packedAlignment,
    .aligned "V" 2 packedAlignment, .aligned "O" 3 packedAlignment]
  requires buffers :=
    plan.spec.kvLen ≥ 1 ∧ plan.spec.numQueryHeads ≥ 1 ∧ plan.spec.numKvHeads ≥ 1 ∧
      (buffers 0).len = plan.spec.numQueryHeads * 128 ∧
      (buffers 1).len = plan.spec.kvLen * plan.spec.numKvHeads * 128 ∧
      (buffers 2).len = plan.spec.kvLen * plan.spec.numKvHeads * 128 ∧
      (buffers 3).len = plan.spec.numQueryHeads * 128 ∧
      (buffers 4).len = plan.spec.numQueryHeads

inductive Bf16PagedBatchDecodeAlgorithm where
  | direct
  | tokenParallel8
  deriving DecidableEq, Repr

def pagedBatchDecodeAlgorithm (spec : Bf16PagedBatchDecodeSpec) : Bf16PagedBatchDecodeAlgorithm :=
  if spec.numQueryHeads = spec.numKvHeads then .direct else .tokenParallel8

structure Bf16PagedBatchDecodePlan where
  spec : Bf16PagedBatchDecodeSpec

structure Bf16PagedBatchDecodeArgs where
  query : ReadOf .bf16
  keyPages : ReadOf .bf16
  valuePages : ReadOf .bf16
  pageIndptr : ReadOf .i32
  pageIndices : ReadOf .i32
  lastPageLen : ReadOf .i32
  output : WriteOf .bf16
  lse : WriteOf .f32

/-- The kernels of both algorithms have one contract. -/
def Bf16PagedBatchDecodePlan.launch (plan : Bf16PagedBatchDecodePlan)
    (args : Bf16PagedBatchDecodeArgs) : CheckedLaunch where
  function := match pagedBatchDecodeAlgorithm plan.spec with
    | .direct => "paged_batch_decode_bf16_nhd"
    | .tokenParallel8 => "paged_batch_decode_bf16_nhd_token_parallel"
  operands := [.read args.query, .read args.keyPages, .read args.valuePages, .read args.pageIndptr,
    .read args.pageIndices, .read args.lastPageLen, .write args.output, .write args.lse]
  checks := [.exactLen "Q" 0 plan.spec.queryNumel, .exactLen "K_pages" 1 plan.spec.kvPagesNumel,
    .exactLen "V_pages" 2 plan.spec.kvPagesNumel,
    .exactLen "page_indptr" 3 plan.spec.pageIndptrNumel,
    .pageIndices 4 plan.spec.batchSize,
    .exactLen "last_page_len" 5 plan.spec.lastPageLenNumel,
    .exactLen "O" 6 plan.spec.outputNumel, .exactLen "LSE" 7 plan.spec.lseNumel,
    .aligned "Q" 0 packedAlignment, .aligned "K_pages" 1 packedAlignment,
    .aligned "V_pages" 2 packedAlignment, .aligned "O" 6 packedAlignment]
  requires buffers :=
    plan.spec.batchSize ≥ 1 ∧ plan.spec.maxNumPages ≥ 1 ∧ plan.spec.numQueryHeads ≥ 1 ∧
      plan.spec.numKvHeads ≥ 1 ∧
      (buffers 0).len = plan.spec.batchSize * plan.spec.numQueryHeads * 128 ∧
      (buffers 1).len = plan.spec.maxNumPages * 16 * plan.spec.numKvHeads * 128 ∧
      (buffers 2).len = plan.spec.maxNumPages * 16 * plan.spec.numKvHeads * 128 ∧
      (buffers 3).len = plan.spec.batchSize + 1 ∧
      (buffers 4).len ≥ plan.spec.batchSize ∧
      (buffers 5).len = plan.spec.batchSize ∧
      (buffers 6).len = plan.spec.batchSize * plan.spec.numQueryHeads * 128 ∧
      (buffers 7).len = plan.spec.batchSize * plan.spec.numQueryHeads

/-! ### Split-K -/

structure Bf16SingleDecodeSplitKPlan where
  spec : Bf16SingleDecodeSplitKSpec

structure Bf16SingleDecodeSplitKArgs where
  query : ReadOf .bf16
  key : ReadOf .bf16
  value : ReadOf .bf16
  workspace : ReadWriteOf .f32
  output : WriteOf .bf16
  lse : WriteOf .f32

namespace Bf16SingleDecodeSplitKPlan

variable (plan : Bf16SingleDecodeSplitKPlan) (args : Bf16SingleDecodeSplitKArgs)

/-- `partial_launch` -/
def partialLaunch : CheckedLaunch where
  function := "single_decode_bf16_nhd_split_k_partials"
  operands := [.read args.query, .read args.key, .read args.value, .write args.workspace.write,
    .write args.output, .write args.lse]
  checks := [.exactLen "Q" 0 plan.spec.decode.queryNumel, .exactLen "K" 1 plan.spec.decode.kvNumel,
    .exactLen "V" 2 plan.spec.decode.kvNumel, .exactLen "workspace" 3 plan.spec.workspaceNumel,
    .exactLen "O" 4 plan.spec.decode.outputNumel, .exactLen "LSE" 5 plan.spec.decode.lseNumel,
    .aligned "Q" 0 packedAlignment, .aligned "K" 1 packedAlignment,
    .aligned "V" 2 packedAlignment, .aligned "O" 4 packedAlignment]
  requires buffers :=
    plan.spec.decode.kvLen ≥ 1 ∧ plan.spec.decode.numQueryHeads ≥ 1 ∧
      plan.spec.decode.numKvHeads ≥ 1 ∧ plan.spec.partitions ≥ 1 ∧
      plan.spec.partitions ≤ plan.spec.decode.kvLen ∧
      (buffers 0).len = plan.spec.decode.numQueryHeads * 128 ∧
      (buffers 1).len = plan.spec.decode.kvLen * plan.spec.decode.numKvHeads * 128 ∧
      (buffers 2).len = plan.spec.decode.kvLen * plan.spec.decode.numKvHeads * 128 ∧
      (buffers 3).len = plan.spec.decode.numQueryHeads * plan.spec.partitions * 130

/-- `merge_launch` -/
def mergeLaunch : CheckedLaunch where
  function := "single_decode_bf16_nhd_split_k_merge"
  operands := [.read args.workspace.read, .write args.output, .write args.lse]
  checks := []
  requires buffers :=
    plan.spec.decode.numQueryHeads ≥ 1 ∧ plan.spec.partitions ≥ 1 ∧
      (buffers 0).len = plan.spec.decode.numQueryHeads * plan.spec.partitions * 130 ∧
      (buffers 1).len = plan.spec.decode.numQueryHeads * 128 ∧
      (buffers 2).len = plan.spec.decode.numQueryHeads

/-- Enqueues partial-state and merge kernels into one checked scope. -/
def enqueueInto (first second : Option DriverError) : Enqueue Unit := do
  requireCommandCapacity 2
  enqueueKernel (plan.partialLaunch args) first
  enqueueKernel (plan.mergeLaunch args) second

end Bf16SingleDecodeSplitKPlan

/-! ## Prefill -/

inductive Bf16PagedPrefillAlgorithm where
  | direct
  | tokenParallel8
  | tokenParallel16
  deriving DecidableEq, Repr

def pagedPrefillAlgorithm (spec : Bf16PagedPrefillSpec) : Bf16PagedPrefillAlgorithm :=
  let averageKvCapacity := spec.maxNumPages * pagedPrefillPageSize / spec.batchSize
  if averageKvCapacity < tokenParallelMinAverageKvLen then .direct
  else if spec.numKvHeads = 1 then .tokenParallel16
  else .tokenParallel8

structure Bf16PagedPrefillPlan where
  spec : Bf16PagedPrefillSpec

structure Bf16PagedPrefillArgs where
  query : ReadOf .bf16
  keyPages : ReadOf .bf16
  valuePages : ReadOf .bf16
  qoIndptr : ReadOf .i32
  pageIndptr : ReadOf .i32
  pageIndices : ReadOf .i32
  lastPageLen : ReadOf .i32
  output : WriteOf .bf16
  lse : WriteOf .f32

/-- The kernels of all three algorithms have one contract. -/
def Bf16PagedPrefillPlan.launch (plan : Bf16PagedPrefillPlan) (args : Bf16PagedPrefillArgs) :
    CheckedLaunch where
  function := match pagedPrefillAlgorithm plan.spec with
    | .direct => "paged_prefill_bf16_nhd_causal"
    | .tokenParallel8 => "paged_prefill_bf16_nhd_causal_token_parallel8"
    | .tokenParallel16 => "paged_prefill_bf16_nhd_causal_token_parallel16"
  operands := [.read args.query, .read args.keyPages, .read args.valuePages, .read args.qoIndptr,
    .read args.pageIndptr, .read args.pageIndices, .read args.lastPageLen, .write args.output,
    .write args.lse]
  checks := [.exactLen "Q" 0 plan.spec.queryNumel, .exactLen "K_pages" 1 plan.spec.kvPagesNumel,
    .exactLen "V_pages" 2 plan.spec.kvPagesNumel, .exactLen "qo_indptr" 3 plan.spec.indptrNumel,
    .exactLen "page_indptr" 4 plan.spec.indptrNumel,
    .pageIndices 5 plan.spec.batchSize,
    .exactLen "last_page_len" 6 plan.spec.lastPageLenNumel,
    .exactLen "O" 7 plan.spec.outputNumel, .exactLen "LSE" 8 plan.spec.lseNumel,
    .aligned "Q" 0 packedAlignment, .aligned "K_pages" 1 packedAlignment,
    .aligned "V_pages" 2 packedAlignment, .aligned "O" 7 packedAlignment]
  requires buffers :=
    plan.spec.batchSize ≥ 1 ∧ plan.spec.nnzQo ≥ 1 ∧ plan.spec.maxNumPages ≥ 1 ∧
      plan.spec.numQueryHeads ≥ 1 ∧ plan.spec.numKvHeads ≥ 1 ∧
      (buffers 0).len = plan.spec.nnzQo * plan.spec.numQueryHeads * 128 ∧
      (buffers 1).len = plan.spec.maxNumPages * 16 * plan.spec.numKvHeads * 128 ∧
      (buffers 2).len = plan.spec.maxNumPages * 16 * plan.spec.numKvHeads * 128 ∧
      (buffers 3).len = plan.spec.batchSize + 1 ∧
      (buffers 4).len = plan.spec.batchSize + 1 ∧
      (buffers 5).len ≥ plan.spec.batchSize ∧
      (buffers 6).len = plan.spec.batchSize ∧
      (buffers 7).len = plan.spec.nnzQo * plan.spec.numQueryHeads * 128 ∧
      (buffers 8).len = plan.spec.nnzQo * plan.spec.numQueryHeads

structure Bf16RaggedPrefillArgs where
  query : ReadOf .bf16
  key : ReadOf .bf16
  value : ReadOf .bf16
  qoIndptr : ReadOf .i32
  kvIndptr : ReadOf .i32
  output : WriteOf .bf16
  lse : WriteOf .f32
  workspace : Option (ReadWriteOf .f32)

namespace Bf16RaggedPrefillPlan

variable (plan : Bf16RaggedPrefillPlan) (args : Bf16RaggedPrefillArgs)

/-- The operands that all ragged algorithms check. -/
def operands : List Operand :=
  [.read args.query, .read args.key, .read args.value, .read args.qoIndptr, .read args.kvIndptr,
    .write args.output, .write args.lse]

/-- The checks of these operands. -/
def checks : List BufferCheck :=
  [.exactLen "Q" 0 plan.spec.queryNumel, .exactLen "K" 1 plan.spec.kvNumel,
    .exactLen "V" 2 plan.spec.kvNumel, .exactLen "qo_indptr" 3 plan.spec.indptrNumel,
    .exactLen "kv_indptr" 4 plan.spec.indptrNumel, .exactLen "O" 5 plan.spec.outputNumel,
    .exactLen "LSE" 6 plan.spec.lseNumel,
    .aligned "Q" 0 packedAlignment, .aligned "K" 1 packedAlignment,
    .aligned "V" 2 packedAlignment, .aligned "O" 5 packedAlignment]

/-- The launch of an algorithm with one kernel. The three kernels have one contract. -/
def launch (function : String) : CheckedLaunch where
  function
  operands := operands args
  checks := plan.checks
  requires buffers :=
    plan.spec.batchSize ≥ 1 ∧ plan.spec.nnzQo ≥ 1 ∧ plan.spec.nnzKv ≥ 1 ∧
      plan.spec.numQueryHeads ≥ 1 ∧ plan.spec.numKvHeads ≥ 1 ∧
      (buffers 0).len = plan.spec.nnzQo * plan.spec.numQueryHeads * 128 ∧
      (buffers 1).len = plan.spec.nnzKv * plan.spec.numKvHeads * 128 ∧
      (buffers 2).len = plan.spec.nnzKv * plan.spec.numKvHeads * 128 ∧
      (buffers 3).len = plan.spec.batchSize + 1 ∧
      (buffers 4).len = plan.spec.batchSize + 1 ∧
      (buffers 5).len = plan.spec.nnzQo * plan.spec.numQueryHeads * 128 ∧
      (buffers 6).len = plan.spec.nnzQo * plan.spec.numQueryHeads

/-- The `partial` launch of the tiled algorithm. -/
def partialLaunch (workspace : ReadWriteOf .f32) : CheckedLaunch where
  function := "ragged_prefill_bf16_nhd_causal_tiled_gqa4"
  operands := [.read args.query, .read args.key, .read args.value, .read args.qoIndptr,
    .read args.kvIndptr, .write workspace.write]
  checks := [.exactLen "workspace" 5 plan.workspaceNumel]
  requires buffers :=
    plan.spec.batchSize ≥ 1 ∧ plan.spec.nnzQo ≥ 1 ∧ plan.spec.nnzKv ≥ 1 ∧
      plan.spec.numQueryHeads = plan.spec.numKvHeads * 4 ∧ plan.spec.numKvHeads ≥ 1 ∧
      (buffers 0).len = plan.spec.nnzQo * plan.spec.numQueryHeads * 128 ∧
      (buffers 1).len = plan.spec.nnzKv * plan.spec.numKvHeads * 128 ∧
      (buffers 2).len = plan.spec.nnzKv * plan.spec.numKvHeads * 128 ∧
      (buffers 3).len = plan.spec.batchSize + 1 ∧
      (buffers 4).len = plan.spec.batchSize + 1 ∧
      (buffers 5).len = plan.spec.nnzQo * plan.spec.numQueryHeads * 8 * 130

/-- The `merge` launch of the tiled algorithm. -/
def mergeLaunch (workspace : ReadWriteOf .f32) : CheckedLaunch where
  function := "ragged_prefill_bf16_nhd_causal_tiled_gqa4_merge"
  operands := [.read workspace.read, .write args.output, .write args.lse]
  checks := []
  requires buffers :=
    plan.spec.nnzQo ≥ 1 ∧ plan.spec.numQueryHeads ≥ 1 ∧
      (buffers 0).len = plan.spec.nnzQo * plan.spec.numQueryHeads * 8 * 130 ∧
      (buffers 1).len = plan.spec.nnzQo * plan.spec.numQueryHeads * 128 ∧
      (buffers 2).len = plan.spec.nnzQo * plan.spec.numQueryHeads

/-- `enqueue_tiled_gqa4` -/
def enqueueTiledGqa4 (first second : Option DriverError) : Enqueue Unit := do
  match args.workspace with
  | none => throw (.error .missingWorkspace)
  | some workspace =>
    requireCommandCapacity 2
    let buffers ← resolve (operands args)
    ofExcept (checkBuffers (operandsOf buffers) plan.checks)
    enqueueKernel (plan.partialLaunch args workspace) first
    enqueueKernel (plan.mergeLaunch args workspace) second

def enqueueInto (first second : Option DriverError) : Enqueue Unit :=
  match plan.algorithm with
  | .tiledGqa4 => plan.enqueueTiledGqa4 args first second
  | .direct => enqueueKernel (plan.launch args "ragged_prefill_bf16_nhd_causal") first
  | .tokenParallel8 =>
    enqueueKernel (plan.launch args "ragged_prefill_bf16_nhd_causal_token_parallel8") first
  | .tokenParallel16 =>
    enqueueKernel (plan.launch args "ragged_prefill_bf16_nhd_causal_token_parallel16") first

end Bf16RaggedPrefillPlan

/-! ## GEMM -/

/-- `TENSOR_ALIGNMENT_BYTES` -/
abbrev tensorAlignmentBytes : Nat := 16

/-- `WORKSPACE_ALIGNMENT_BYTES` -/
abbrev workspaceAlignmentBytes : Nat := 256

/-- A frozen algorithm. `inner` stands for the shared descriptors that a command retains. -/
structure Bf16GemmPlan where
  spec : Bf16GemmSpec
  context : CudaContext
  inner : Nat
  workspaceRequiredBytes : Nat

structure Bf16GemmArgs where
  activation : ReadOf .bf16
  weight : ReadOf .bf16
  output : WriteOf .bf16
  workspace : WriteOf .u8

namespace Bf16GemmPlan

variable (plan : Bf16GemmPlan) (args : Bf16GemmArgs)

def operands : List Operand :=
  [.read args.activation, .read args.weight, .write args.output, .write args.workspace]

/-- `validate_resolved`, where the sticky status is that of the provider at that moment. -/
def validateResolved (stream : CudaStream) (stickyStatus : Int) (buffers : Nat → DeviceBuffer) :
    Except EnqueueError Unit := do
  checkBuffers buffers [.exactLen "A" 0 plan.spec.aNumel, .exactLen "W" 1 plan.spec.weightNumel,
    .exactLen "D" 2 plan.spec.outputNumel]
  if (buffers 3).len < plan.workspaceRequiredBytes then
    .error (.workspaceTooSmall plan.workspaceRequiredBytes (buffers 3).len)
  else
    checkBuffers buffers [.aligned "A" 0 tensorAlignmentBytes, .aligned "W" 1 tensorAlignmentBytes,
      .aligned "D" 2 tensorAlignmentBytes, .aligned "workspace" 3 workspaceAlignmentBytes]
    if stream.context.cuCtx ≠ plan.context.cuCtx then
      .error (.contextMismatch plan.context.ordinal stream.context.ordinal)
    else if stickyStatus ≠ 0 then .error (.providerPoisoned stickyStatus)
    else .ok ()

/-- The call of the library and its record. -/
def submit (permit : CommandPermit) (matmul : Option Int) : Enqueue Unit := do
  modify (·.launch (.external plan.inner))
  match matmul with
  | none => record (·.recordSubmission permit (.external plan.inner))
  | some status =>
    record (·.recordFailedSubmission permit (.external plan.inner)
      (.external ⟨"cuBLASLt", status⟩))
    throw (.error (.cublasLt status))

/-- Enqueues the frozen algorithm. `bind` and `matmul` are the failures of the two foreign calls. -/
def enqueueInto (bind : Option DriverError) (stickyStatus : Int) (matmul : Option Int) :
    Enqueue Unit := do
  let permit ← prepareCommand
  match bind with
  | some error =>
    modify (·.fail (.driver error))
    throw (.error (.driver error))
  | none =>
    let buffers ← resolve (operands args)
    ofExcept (plan.validateResolved (← get).scope.queue.stream stickyStatus (operandsOf buffers))
    plan.submit permit matmul

end Bf16GemmPlan

/-! ## Calls -/

/-- What the driver and the external library answer during one call: the outcomes of the first and the
second kernel launch, of the context bind and of the matrix product, and the provider's status. -/
structure Answers where
  first : Option DriverError
  second : Option DriverError
  bind : Option DriverError
  stickyStatus : Int
  matmul : Option Int
  deriving DecidableEq, Repr

/-- A call of an operator's `enqueue_into`. -/
inductive OperatorCall where
  | rmsNormF32 (plan : RmsNormF32Plan) (args : RmsNormArgs .f32)
  | rmsNormF16 (plan : RmsNormF16Plan) (args : RmsNormArgs .f16)
  | rmsNormBf16 (plan : RmsNormBf16Plan) (args : RmsNormArgs .bf16)
  | ropePosIds (plan : Bf16RopePosIdsPlan) (args : Bf16RopePosIdsArgs)
  | pagedAppend (plan : Bf16RopePagedKvAppendPlan) (args : Bf16RopePagedKvAppendArgs)
  | pagedAppendTokens (plan : Bf16RopePagedKvAppendTokensPlan)
      (args : Bf16RopePagedKvAppendTokensArgs)
  | singleDecode (plan : Bf16SingleDecodePlan) (args : Bf16SingleDecodeArgs)
  | pagedBatchDecode (plan : Bf16PagedBatchDecodePlan) (args : Bf16PagedBatchDecodeArgs)
  | splitK (plan : Bf16SingleDecodeSplitKPlan) (args : Bf16SingleDecodeSplitKArgs)
  | pagedPrefill (plan : Bf16PagedPrefillPlan) (args : Bf16PagedPrefillArgs)
  | raggedPrefill (plan : Bf16RaggedPrefillPlan) (planned : planBf16Ragged plan.spec = .ok plan)
      (args : Bf16RaggedPrefillArgs)
  | gemm (plan : Bf16GemmPlan) (args : Bf16GemmArgs)

def OperatorCall.enqueueInto (answers : Answers) : OperatorCall → Enqueue Unit
  | .rmsNormF32 plan args => enqueueKernel (plan.launch args) answers.first
  | .rmsNormF16 plan args => enqueueKernel (plan.launch args) answers.first
  | .rmsNormBf16 plan args => enqueueKernel (plan.launch args) answers.first
  | .ropePosIds plan args => enqueueKernel (plan.launch args) answers.first
  | .pagedAppend plan args => enqueueKernel (plan.launch args) answers.first
  | .pagedAppendTokens plan args => enqueueKernel (plan.launch args) answers.first
  | .singleDecode plan args => enqueueKernel (plan.launch args) answers.first
  | .pagedBatchDecode plan args => enqueueKernel (plan.launch args) answers.first
  | .splitK plan args => plan.enqueueInto args answers.first answers.second
  | .pagedPrefill plan args => enqueueKernel (plan.launch args) answers.first
  | .raggedPrefill plan _ args => plan.enqueueInto args answers.first answers.second
  | .gemm plan args => plan.enqueueInto args answers.bind answers.stickyStatus answers.matmul

end LoomKernels
