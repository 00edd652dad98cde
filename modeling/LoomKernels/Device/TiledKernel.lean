import LoomKernels.Device.TiledGrid
import LoomKernels.Device.TokenParallel

/-!
# The tiled kernel

A block of four warps holds 64 packed rows, the four query heads of a key/value head for each of 16
query rows, and goes over the tokens of its partition in tiles of 64. A tile of keys, then the
matching tile of values, is copied to shared memory; the scores and the weighted values are matrix
products on the tensor cores, and the online softmax of a row lives in the registers of the four
lanes of a quad.

A thread holds parts of two packed rows, the halves of its accumulators (`packedRow`): in both
products accumulator register `i` belongs to half `i / 2`. Where threads exchange values, in the
shuffles and the matrix products, a value is a function of the thread.
-/

namespace LoomKernels

/-- `TILED_KV_ROWS` -/
abbrev tiledKvRows : Nat := 64

/-- `BF16_PAIRS_PER_HEAD` -/
abbrev bf16PairsPerHead : Nat := singleDecodeHeadDim / 2

/-- `TILED_KV_COPY_BYTES` -/
abbrev tiledKvCopyBytes : Nat := 16

/-- `TILED_KV_COPY_PAIRS` -/
abbrev tiledKvCopyPairs : Nat := tiledKvCopyBytes / 4

/-! ## Lanes -/

/-- `lane / 4` -/
def laneGroup (thread : Nat) : Nat := thread % warpThreads / 4

/-- `lane % 4` -/
def laneInGroup (thread : Nat) : Nat := thread % warpThreads % 4

/-- The packed row of one half of a thread's accumulators. -/
def packedRow (thread half : Nat) : Nat := thread / warpThreads * 16 + laneGroup thread + 8 * half

/-- A value of the thread's warp, by lane. -/
def warpOf {α : Type} (value : Nat → α) (thread lane : Nat) : α :=
  value (thread / warpThreads * warpThreads + lane)

/-- `warp::shuffle_xor_f32(value, mask)` -/
def shuffleXor {F : Type} (value : Nat → F) (mask thread : Nat) : F :=
  warpOf value thread (thread % warpThreads ^^^ mask)

/-- The two shuffles that combine the values of a quad. -/
def quadReduce {F : Type} (op : F → F → F) (value : Nat → F) (thread : Nat) : F :=
  let pair := fun thread => op (value thread) (shuffleXor value 1 thread)
  op (pair thread) (shuffleXor pair 2 thread)

/-! ## Matrix products -/

section Mma

variable {F B : Type}

/-- Entry `(row, k)` of the 16 by 16 matrix in the `A` fragments of a warp. Register `j / 2` of a
lane holds elements `j` and `j + 1` for even `j`. -/
def fragmentA (a : Nat → Nat → B) (row k : Nat) : B :=
  a (row % 8 * 4 + k % 8 / 2) (2 * (row / 8 + 2 * (k / 8)) + k % 2)

/-- Entry `(k, column)` of the 16 by 8 matrix in the `B` fragments of a warp. -/
def fragmentB (b : Nat → Nat → B) (k column : Nat) : B :=
  b (column * 4 + k % 8 / 2) (2 * (k / 8) + k % 2)

/-- `wmma::mma_m16n8k16_f32_bf16`: register `i` of the lane's accumulators. -/
def DeviceOps.mmaM16n8k16 (ops : DeviceOps F B) (accumulator : Nat → F) (a b : Nat → Nat → B)
    (lane i : Nat) : F :=
  let row := lane / 4 + 8 * (i / 2)
  let column := 2 * (lane % 4) + i % 2
  forRange 0 16
    (fun k sum => ops.fma (ops.toF32 (fragmentA a row k)) (ops.toF32 (fragmentB b k column)) sum)
    (accumulator i)

/-- Element `j` of `key_fragment`, for the subtile of eight tokens from `8 * subtile`. -/
def tiledKeyFragment (kvTile : Nat → B) (subtile componentTile thread j : Nat) : B :=
  let pairBase := (8 * subtile + laneGroup thread) * bf16PairsPerHead + componentTile * 8
  kvTile (2 * (pairBase + 4 * (j / 2) + laneInGroup thread) + j % 2)

/-- Element `j` of the `value_fragment` of output accumulator `d`, for the sixteen tokens from
`16 * part`. -/
def tiledValueFragment (kvTile : Nat → B) (part d thread j : Nat) : B :=
  let valueRow := 16 * part + laneInGroup thread * 2 + 8 * (j / 2) + j % 2
  kvTile (valueRow * singleDecodeHeadDim + (d * 8 + laneGroup thread))

end Mma

/-! ## Blocks -/

/-- The work of a block that has passed the guard; `maskedTokens` is `kv_len - qo_len`. -/
structure TiledBlock where
  tile : TiledTile
  kvHead : Nat
  partition : Nat
  maskedTokens : Nat

namespace TiledBlock

variable (work : TiledBlock)

def queryTileStart : Nat := work.tile.requestTile * tiledQueryRows

def queryInRequest (row : Nat) : Nat := work.queryTileStart + row / tiledGqaGroupSize

def queryValid (row : Nat) : Bool := work.queryInRequest row < work.tile.qoLen

/-- The row of results of a packed row. -/
def queryState (numQueryHeads row : Nat) : Nat :=
  (work.tile.qoStart + work.queryInRequest row) * numQueryHeads +
    (work.kvHead * tiledGqaGroupSize + row % tiledGqaGroupSize)

/-- `causal_token_end`, the tokens that some row of the tile sees. -/
def causalTokenEnd : Nat :=
  let finalQuery := min (work.queryTileStart + tiledQueryRows) work.tile.qoLen
  work.maskedTokens + finalQuery

def partitionTokenStart : Nat := floorCut work.causalTokenEnd tiledPartitions work.partition

def partitionTokenEnd : Nat := floorCut work.causalTokenEnd tiledPartitions (work.partition + 1)

/-- Where the tokens of a packed row end in this partition. -/
def causalEnd (row : Nat) : Nat :=
  min (work.maskedTokens + work.queryInRequest row + 1) work.partitionTokenEnd

end TiledBlock

/-- The registers of a thread: the online softmax of its two packed rows, and sixteen output
accumulators. -/
structure TiledRegisters (F : Type) where
  rowMax : Nat → F
  rowSum : Nat → F
  output : Nat → Nat → F

section Kernel

variable {F B : Type} (ops : DeviceOps F B) (work : TiledBlock)

namespace DeviceOps

/-! ## Copies -/

/-- `async_copy::cp_async_cg_zfill_16`: eight `bf16`, of which those beyond the source size are
zero. -/
def cpAsyncCgZfill16 (destination : Nat) (source : Nat → B) (offset srcSize : Nat) :
    List (Nat × B) :=
  (List.range 8).map fun e =>
    (destination + e, if 2 * e < srcSize then source (offset + e) else ops.zeroBits)

/-- `load_tiled_kv_async`, of one thread. Inside the loop `partition_token_end` is not zero. -/
def loadTiledKvAsync (numKvHeads : Nat) (global : Nat → B) (kvTileStart thread : Nat) :
    List (Nat × B) :=
  (List.range 8).flatMap fun iteration =>
    let token := kvTileStart + thread / 16 + iteration * 8
    let sourceToken := min token (work.partitionTokenEnd - 1)
    let sourcePair := ((work.tile.kvStart + sourceToken) * numKvHeads + work.kvHead) *
      bf16PairsPerHead + thread % 16 * tiledKvCopyPairs
    let destinationPair := (thread + iteration * tiledThreads) * tiledKvCopyPairs
    let srcSize := if token < work.partitionTokenEnd then tiledKvCopyBytes else 0
    ops.cpAsyncCgZfill16 (2 * destinationPair) global (2 * sourcePair) srcSize

/-- The shared tile after the copies of the block and the barrier. -/
def tiledKvTile (numKvHeads : Nat) (global : Nat → B) (kvTileStart : Nat) (shared : Nat → B) :
    Nat → B :=
  applyWrites
    ((List.range tiledThreads).flatMap (ops.loadTiledKvAsync work numKvHeads global kvTileStart))
    shared

/-! ## Scores -/

/-- Element `j` of `query_fragment`. -/
def tiledQueryFragment (numQueryHeads : Nat) (query : Nat → B) (componentTile thread j : Nat) : B :=
  let row := packedRow thread (j / 2 % 2)
  if work.queryValid row then
    let pairBase := work.queryState numQueryHeads row * bf16PairsPerHead + componentTile * 8
    query (2 * (pairBase + 4 * (j / 4) + laneInGroup thread) + j % 2)
  else ops.zeroBits

/-- The scores of a thread in one subtile, before the mask. -/
def tiledScore (numQueryHeads : Nat) (query kvTile : Nat → B) (thread subtile : Nat) : Nat → F :=
  forRange 0 (singleDecodeHeadDim / 16)
    (fun componentTile accumulator =>
      ops.mmaM16n8k16 accumulator
        (warpOf (ops.tiledQueryFragment work numQueryHeads query componentTile) thread)
        (warpOf (tiledKeyFragment kvTile subtile componentTile) thread) (thread % warpThreads))
    fun _ => ops.zero

/-- `tiled_mask_score` -/
def tiledMaskScore (score : Nat → F) (tokenBase : Nat) (causalEnd : Nat → Nat) (valid : Nat → Bool)
    (softmaxScaleLog2 : F) (i : Nat) : F :=
  if valid (i / 2) && tokenBase + i % 2 < causalEnd (i / 2) then ops.mul (score i) softmaxScaleLog2
  else ops.negInf

/-- The masked scores of a thread in one subtile. -/
def tiledMaskedScore (numQueryHeads : Nat) (softmaxScaleLog2 : F) (query kvTile : Nat → B)
    (kvTileStart thread subtile : Nat) : Nat → F :=
  ops.tiledMaskScore (ops.tiledScore work numQueryHeads query kvTile thread subtile)
    (kvTileStart + 8 * subtile + laneInGroup thread * 2) (fun half => work.causalEnd (packedRow thread half))
    (fun half => work.queryValid (packedRow thread half)) softmaxScaleLog2

/-! ## Softmax -/

section Softmax

variable (score : Nat → Nat → Nat → F) (regs : Nat → TiledRegisters F)

/-- `tiled_score_max_0` and `tiled_score_max_1` -/
def tiledScoreMax (score : Nat → F) (half : Nat) : F :=
  ops.max (score (2 * half)) (score (2 * half + 1))

/-- The maximum of a thread's scores in one half. -/
def tiledTileMax (thread half : Nat) : F :=
  let m := fun subtile => ops.tiledScoreMax (score thread subtile) half
  ops.max (ops.max (ops.max (m 0) (m 1)) (ops.max (m 2) (m 3)))
    (ops.max (ops.max (m 4) (m 5)) (ops.max (m 6) (m 7)))

def tiledNextMax (thread half : Nat) : F :=
  if work.queryValid (packedRow thread half) then
    ops.max ((regs thread).rowMax half) (quadReduce ops.max (ops.tiledTileMax score · half) thread)
  else (regs thread).rowMax half

def tiledPreviousScale (thread half : Nat) : F :=
  if ops.isZero ((regs thread).rowSum half) then ops.zero
  else ops.ex2 (ops.sub ((regs thread).rowMax half) (ops.tiledNextMax work score regs thread half))

/-- `tiled_softmax_score` -/
def tiledSoftmaxScore (thread subtile i : Nat) : F :=
  if work.queryValid (packedRow thread (i / 2)) && !ops.isNegInf (score thread subtile i) then
    ops.ex2 (ops.sub (score thread subtile i) (ops.tiledNextMax work score regs thread (i / 2)))
  else ops.zero

/-- The sum of a thread's weights in one half. -/
def tiledTileSum (weight : Nat → Nat → Nat → F) (thread half : Nat) : F :=
  forRange 1 16 (fun n sum => ops.add sum (weight thread (n / 2) (2 * half + n % 2)))
    (weight thread 0 (2 * half))

/-- Element `j` of `tiled_weight_fragment`, for the sixteen tokens from `16 * part`. -/
def tiledWeightFragment (weight : Nat → Nat → Nat → F) (part thread j : Nat) : B :=
  ops.fromF32 (weight thread (2 * part + j / 4) (j % 4))

/-- The registers after one tile, from its masked scores and its values. -/
def tiledTileStep (kvTile : Nat → B) (thread : Nat) : TiledRegisters F :=
  let weight := ops.tiledSoftmaxScore work score regs
  let previousScale := ops.tiledPreviousScale work score regs thread
  { rowMax := ops.tiledNextMax work score regs thread
    rowSum := fun half => ops.add (ops.mul ((regs thread).rowSum half) (previousScale half))
      (quadReduce ops.add (ops.tiledTileSum weight · half) thread)
    output := fun d => forRange 0 4
      (fun part accumulator =>
        ops.mmaM16n8k16 accumulator (warpOf (ops.tiledWeightFragment weight part) thread)
          (warpOf (tiledValueFragment kvTile part d) thread) (thread % warpThreads))
      fun i => ops.mul ((regs thread).output d i) (previousScale (i / 2)) }

end Softmax

/-- The loop over the tiles of a partition. The shared tile holds the keys, then the values. -/
def tiledLoop (numQueryHeads numKvHeads : Nat) (softmaxScaleLog2 : F) (query key value : Nat → B)
    (shared : Nat → B) : (Nat → TiledRegisters F) × (Nat → B) :=
  forRange 0 ((work.partitionTokenEnd - work.partitionTokenStart + tiledKvRows - 1) / tiledKvRows)
    (fun pass (regs, shared) =>
      let kvTileStart := work.partitionTokenStart + pass * tiledKvRows
      let keyTile := ops.tiledKvTile work numKvHeads key kvTileStart shared
      let score :=
        ops.tiledMaskedScore work numQueryHeads softmaxScaleLog2 query keyTile kvTileStart
      let valueTile := ops.tiledKvTile work numKvHeads value kvTileStart keyTile
      (ops.tiledTileStep work score regs valueTile, valueTile))
    (fun _ => ⟨fun _ => ops.negInf, fun _ => ops.zero, fun _ _ => ops.zero⟩, shared)

end DeviceOps

/-! ## Stores -/

/-- What a thread stores of one half at `offset`: two components of each output accumulator, and the
first lane of the quad the header. -/
def tiledStoreHalf (offset : Nat) (regs : TiledRegisters F) (half lane : Nat) : List (Nat × F) :=
  ((List.range 16).flatMap fun d =>
    [(offset + 2 + (lane * 2 + 8 * d), regs.output d (2 * half)),
      (offset + 3 + (lane * 2 + 8 * d), regs.output d (2 * half + 1))]) ++
    if lane = 0 then [(offset, regs.rowMax half), (offset + 1, regs.rowSum half)] else []

/-- The stores of a thread, of its rows with a query. -/
def tiledStores (numQueryHeads : Nat) (regs : TiledRegisters F) (thread : Nat) : List (Nat × F) :=
  (List.range 2).flatMap fun half =>
    let row := packedRow thread half
    if work.queryValid row then
      tiledStoreHalf ((work.queryState numQueryHeads row * tiledPartitions + work.partition) *
        singleDecodePartialStateWidth) regs half (laneInGroup thread)
    else []

/-! ## Kernels -/

/-- The work of a block, or `none` where the kernel returns. -/
def tiledWork (batchSize nnzQo nnzKv numKvHeads : Nat) (qoIndptr kvIndptr : Slice Int32)
    (block : Nat) : DeviceM (Option TiledBlock) := do
  match ← tiledGuard batchSize nnzQo nnzKv numKvHeads qoIndptr kvIndptr block with
  | none => return none
  | some tile =>
    let maskedTokens ← subUsize tile.kvLen tile.qoLen
    return some ⟨tile, tiledKvHead numKvHeads block, tiledPartition block, maskedTokens⟩

/-- `ragged_prefill_bf16_nhd_causal_tiled_gqa4` -/
def DeviceOps.raggedPrefillTiledGqa4 (batchSize nnzQo nnzKv numQueryHeads numKvHeads : Nat)
    (softmaxScaleLog2 : F) (query key value : Nat → B) (qoIndptr kvIndptr : Slice Int32)
    (shared : Nat → B) (block thread : Nat) : DeviceM (List (Nat × F)) := do
  match ← tiledWork batchSize nnzQo nnzKv numKvHeads qoIndptr kvIndptr block with
  | none => return []
  | some work =>
    let (regs, _) := ops.tiledLoop work numQueryHeads numKvHeads softmaxScaleLog2 query key value
      shared
    return tiledStores work numQueryHeads (regs thread) thread

/-- `ragged_prefill_bf16_nhd_causal_tiled_gqa4_merge` -/
def DeviceOps.raggedPrefillTiledGqa4Merge (nnzQo numQueryHeads : Nat) (workspace : Nat → F)
    (state lane : Nat) : DeviceM (AttentionWrites F B) := do
  if state ≥ nnzQo * numQueryHeads then return ⟨[], []⟩
  else
    let s ← mergeShared 0 tiledPartitions (fun _ => ops.mergeNonempty)
      ⟨ops.negInf, ops.zero, fun _ => ops.zero⟩
      fun partition => loadState workspace
        ((state * tiledPartitions + partition) * singleDecodePartialStateWidth)
    return ops.storeResult state s lane

end Kernel

end LoomKernels
