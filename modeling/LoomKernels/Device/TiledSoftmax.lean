import LoomKernels.Device.TiledLayout
import LoomKernels.Lib.Reduction

/-!
# Softmax of the tiled kernel

What a block of the tiled kernel computes for one of its packed rows, in exact arithmetic. The four
lanes of the row's quad hold one softmax state between them (`rowState`), and keep its maximum and
its sum in common. A tile of 64 tokens is taken in at once: the columns below the row's causal end
hold the scores of its tokens, the others minus infinity (`maskedScore_column`), and the step of the
tile appends the tokens of the former to the state (`tileStep_holds`). After the last tile the state
stands for the tokens of the partition that the row sees (`tiledLoop_holds`).
-/

namespace LoomKernels

variable {K : Type} [Field K]

/-! ## Products -/

theorem add_fin_add (a : Ext K) (p q : K) :
    Ext.add (Ext.add a (.fin p)) (.fin q) = Ext.add a (.fin (p + q)) := by
  rw [Ext.add_swap, Ext.fin_add_add]

/-- A loop of products into one register. -/
theorem forRange_products {n i : Nat} (body : Nat → (Nat → Ext K) → Nat → Ext K) (g : Nat → K)
    (init : Nat → Ext K)
    (pass : ∀ part < n, ∀ accumulator : Nat → Ext K,
      body part accumulator i = Ext.add (accumulator i) (.fin (g part))) :
    forRange 0 n body init i = Ext.add (init i) (.fin (∑ part ∈ Finset.range n, g part)) := by
  refine forRange_invariant
    (P := fun n (accumulator : Nat → Ext K) =>
      accumulator i = Ext.add (init i) (.fin (∑ part ∈ Finset.range n, g part)))
    (Nat.zero_le n) (Ext.add_fin_zero _).symm ?_
  intro part accumulator _ hpart sum
  rw [pass part hpart, sum, add_fin_add, Finset.sum_range_succ]

variable [LinearOrder K] [ExactExp K]

/-- A product of fragments that hold numbers adds a dot product to the accumulator. -/
theorem mma_exact {row lane e : Nat} (accumulator : Nat → Ext K) {a b : Nat → Nat → Ext K}
    {p q : Nat → K} (hl : lane < 4) (he : e < 2)
    (left : ∀ k < 16,
      a (rowThread row (k % 8 / 2)) (2 * (rowHalf row + 2 * (k / 8)) + k % 2) = .fin (p k))
    (right : ∀ k < 16, b (row / 16 * warpThreads + ((2 * lane + e) * 4 + k % 8 / 2))
      (2 * (k / 8) + k % 2) = .fin (q k)) :
    (extOps K).mmaM16n8k16 accumulator (warpOf a (rowThread row lane))
        (warpOf b (rowThread row lane)) (rowThread row lane % warpThreads) (2 * rowHalf row + e) =
      Ext.add (accumulator (2 * rowHalf row + e)) (.fin (∑ k ∈ Finset.range 16, p k * q k)) := by
  rw [mma_row _ _ _ _ hl he]
  refine forRange_invariant
    (P := fun n sum => sum = Ext.add (accumulator (2 * rowHalf row + e))
      (.fin (∑ k ∈ Finset.range n, p k * q k)))
    (Nat.zero_le 16) (Ext.add_fin_zero _).symm ?_
  rintro k _ _ hk rfl
  rw [left k hk, right k hk, Finset.sum_range_succ]
  exact Ext.fin_add_add _ _ _

/-! ## Scores -/

section Scores

variable (work : TiledBlock) (numQueryHeads numKvHeads : Nat) (query key value : Nat → K)
  {row kvTileStart : Nat}

/-- Where the key and the value of a token start, for the block's head. -/
def TiledBlock.kvOffset (work : TiledBlock) (numKvHeads token : Nat) : Nat :=
  (token * numKvHeads + work.kvHead) * 128

/-- The tile holds the numbers of a token of the partition. -/
theorem tiledKvTile_token (global : Nat → K) (shared : Nat → Ext K) {n c : Nat} (hn : n < 64)
    (hc : c < 128) (inside : kvTileStart + n < work.partitionTokenEnd) :
    (extOps K).tiledKvTile work numKvHeads (finArray global) kvTileStart shared (n * 128 + c) =
      .fin (global (work.kvOffset numKvHeads (work.tile.kvStart + (kvTileStart + n)) + c)) := by
  rw [tiledKvTile_apply _ _ _ _ _ _ hn hc, if_pos inside]
  rfl

/-- The products over all components give the dot product of the row and a token. -/
theorem tiledScore_exact (kvOffset : Nat) {kvTile : Nat → Ext K} {subtile lane e : Nat}
    (valid : work.queryValid row = true) (hl : lane < 4) (he : e < 2)
    (keys : ∀ c < 128, kvTile ((8 * subtile + (2 * lane + e)) * 128 + c) = .fin (key (kvOffset + c))) :
    (extOps K).tiledScore work numQueryHeads (finArray query) kvTile (rowThread row lane) subtile
        (2 * rowHalf row + e) =
      .fin (headDot query key (work.queryState numQueryHeads row * 128) kvOffset) := by
  let term := fun c => query (work.queryState numQueryHeads row * 128 + c) * key (kvOffset + c)
  have products := forRange_products (n := 8) (i := 2 * rowHalf row + e)
    (fun componentTile accumulator => (extOps K).mmaM16n8k16 accumulator
      (warpOf ((extOps K).tiledQueryFragment work numQueryHeads (finArray query) componentTile)
        (rowThread row lane))
      (warpOf (tiledKeyFragment kvTile subtile componentTile) (rowThread row lane))
      (rowThread row lane % warpThreads))
    (fun componentTile => ∑ k ∈ Finset.range 16, term (componentTile * 16 + k))
    (fun _ => .fin 0) fun componentTile hct accumulator => by
      refine mma_exact accumulator hl he (fun k _ => ?_) fun k hk => ?_
      · rw [tiledQueryFragment_row _ _ valid, Nat.mul_comm 16]
        rfl
      · rw [tiledKeyFragment_column hl he, keys _ (by omega), Nat.mul_comm 16]
  rw [sum_groups term 8 16] at products
  refine products.trans ?_
  rw [Ext.add_fin, zero_add]
  rfl

/-- A column of a packed row: the score of its token, or minus infinity from the row's end on. -/
theorem maskedScore_column (valid : work.queryValid row = true) (shared : Nat → Ext K) {n : Nat}
    (hn : n < 64) :
    columnOf ((extOps K).tiledMaskedScore work numQueryHeads (.fin (scaleLog2 K)) (finArray query)
        ((extOps K).tiledKvTile work numKvHeads (finArray key) kvTileStart shared) kvTileStart)
        row n =
      if kvTileStart + n < work.causalEnd row then
        .fin (scoreLog2 (headDot query key (work.queryState numQueryHeads row * 128)
          (work.kvOffset numKvHeads (work.tile.kvStart + (kvTileStart + n)))))
      else .negInf := by
  have hl : n % 8 / 2 < 4 := by omega
  have half : (2 * rowHalf row + n % 2) / 2 = rowHalf row := by omega
  have parity : (2 * rowHalf row + n % 2) % 2 = n % 2 := by omega
  have token : kvTileStart + 8 * (n / 8) + n % 8 / 2 * 2 + n % 2 = kvTileStart + n := by omega
  have column : 8 * (n / 8) + (2 * (n % 8 / 2) + n % 2) = n := by omega
  simp only [columnOf, DeviceOps.tiledMaskedScore, DeviceOps.tiledMaskScore, half, parity,
    packedRow_rowThread hl, laneInGroup_rowThread hl, valid, token, Bool.true_and, decide_eq_true_eq]
  split
  · rename_i seen
    have inside : kvTileStart + n < work.partitionTokenEnd :=
      Nat.lt_of_lt_of_le seen (Nat.min_le_right _ _)
    rw [tiledScore_exact work numQueryHeads query key
      (work.kvOffset numKvHeads (work.tile.kvStart + (kvTileStart + n))) valid hl
      (Nat.mod_lt _ (by decide)) fun c hc => by
        rw [column, tiledKvTile_token work numKvHeads key shared hn hc inside], ← mul_scaleLog2]
    rfl
  · rfl

end Scores

/-! ## The state of a row -/

/-- The softmax state that the lanes of a packed row's quad hold. -/
def rowState {F : Type} (regs : Nat → TiledRegisters F) (row : Nat) : SoftmaxState F Nat where
  max := (regs (rowThread row 0)).rowMax (rowHalf row)
  norm := (regs (rowThread row 0)).rowSum (rowHalf row)
  acc c := (regs (rowThread row (c % 8 / 2))).output (c / 8) (2 * rowHalf row + c % 2)

/-- The quad of a packed row has its maximum and sum in common, and its state stands for the
tokens. -/
structure RowHolds (regs : Nat → TiledRegisters (Ext K)) (row : Nat)
    (ts : List (Token K (Fin 128))) : Prop where
  rowMax : ∀ lane < 4,
    (regs (rowThread row lane)).rowMax (rowHalf row) = (rowState regs row).max
  rowSum : ∀ lane < 4,
    (regs (rowThread row lane)).rowSum (rowHalf row) = (rowState regs row).norm
  summarises : ExtSummarises (rowState regs row).restrict ts

/-- The first tokens of a tile, with scores `x` and values `v`. -/
def tileTokens (x : Nat → K) (v : Nat → Nat → K) (count : Nat) : List (Token K (Fin 128)) :=
  (List.range count).map fun n => ⟨x n, fun c => v n c⟩

section Totals

variable (x : Nat → K) (v : Nat → Nat → K) (m : K) {count : Nat} (hcount : count ≤ 64)
include hcount

theorem tileTokens_expSum :
    ∑ n ∈ Finset.range 64, (if n < count then ExactExp.exp2 (x n - m) else 0) =
      expSum (fun y => ExactExp.exp2 (y - m)) (tileTokens x v count) := by
  rw [sum_range_ite _ hcount, sum_range_list, expSum, tileTokens, List.map_map]
  rfl

theorem tileTokens_weightedSum (c : Fin 128) :
    ∑ n ∈ Finset.range 64, (if n < count then ExactExp.exp2 (x n - m) else 0) * v n c =
      weightedSum (fun y => ExactExp.exp2 (y - m)) (tileTokens x v count) c := by
  simp only [ite_mul, zero_mul]
  rw [sum_range_ite _ hcount, sum_range_list, weightedSum, tileTokens, List.map_map]
  rfl

end Totals

/-! ## One tile -/

/-- The maximum of a packed row after a tile. -/
def rowNext (work : TiledBlock) (score : Nat → Nat → Nat → Ext K)
    (regs : Nat → TiledRegisters (Ext K)) (row : Nat) : Ext K :=
  (extOps K).tiledNextMax work score regs (rowThread row 0) (rowHalf row)

section Step

variable {work : TiledBlock} {row : Nat} {score : Nat → Nat → Nat → Ext K}
  {regs : Nat → TiledRegisters (Ext K)}

/-- A property that a maximum has exactly when both sides have it. -/
theorem quadMax_forall {P : Ext K → Prop} (both : ∀ a b, P (Ext.max a b) ↔ P a ∧ P b)
    {lane : Nat} (hl : lane < 4) :
    P (quadReduce (extOps K).max (fun thread => (extOps K).tiledTileMax score thread (rowHalf row))
      (rowThread row lane)) ↔ ∀ n < 64, P (columnOf score row n) := by
  have thread : ∀ lane, P ((extOps K).tiledTileMax score (rowThread row lane) (rowHalf row)) ↔
      ∀ subtile < 8, ∀ e < 2, P (score (rowThread row lane) subtile (2 * rowHalf row + e)) := by
    intro lane
    change P (Ext.max (Ext.max (Ext.max (Ext.max _ _) (Ext.max _ _))
      (Ext.max (Ext.max _ _) (Ext.max _ _))) (Ext.max (Ext.max (Ext.max _ _) (Ext.max _ _))
        (Ext.max (Ext.max _ _) (Ext.max _ _)))) ↔ _
    simp only [both, Nat.forall_lt_succ_right, Nat.not_lt_zero, false_implies, implies_true,
      true_and, and_assoc, Nat.add_zero]
  have comm : ∀ a b, (extOps K).max a b = (extOps K).max b a := Ext.max_swap
  rw [quadReduce_eq comm _ row hl]
  change P (Ext.max (Ext.max _ _) (Ext.max _ _)) ↔ _
  rw [both, both, both, thread, thread, thread, thread]
  constructor
  · rintro ⟨⟨h0, h1⟩, h2, h3⟩ n hn
    have cases : n % 8 / 2 = 0 ∨ n % 8 / 2 = 1 ∨ n % 8 / 2 = 2 ∨ n % 8 / 2 = 3 := by omega
    unfold columnOf
    rcases cases with lane | lane | lane | lane <;> rw [lane]
    · exact h0 _ (by omega) _ (by omega)
    · exact h1 _ (by omega) _ (by omega)
    · exact h2 _ (by omega) _ (by omega)
    · exact h3 _ (by omega) _ (by omega)
  · intro h
    have lanes : ∀ lane < 4, ∀ subtile < 8, ∀ e < 2,
        P (score (rowThread row lane) subtile (2 * rowHalf row + e)) := by
      intro lane hl subtile hs e he
      rw [columnOf_register score row hl he]
      exact h _ (by omega)
    exact ⟨⟨lanes 0 (by decide), lanes 1 (by decide)⟩, lanes 2 (by decide), lanes 3 (by decide)⟩

/-- The sum that the quad computes over the columns. -/
theorem quadSum_exact {weight : Nat → Nat → Nat → Ext K} {w : Nat → K}
    (columns : ∀ n < 64, columnOf weight row n = .fin (w n)) {lane : Nat} (hl : lane < 4) :
    quadReduce (extOps K).add (fun thread => (extOps K).tiledTileSum weight thread (rowHalf row))
      (rowThread row lane) = .fin (∑ n ∈ Finset.range 64, w n) := by
  have thread : ∀ lane < 4, (extOps K).tiledTileSum weight (rowThread row lane) (rowHalf row) =
      .fin (∑ n ∈ Finset.range 16, w (8 * (n / 2) + (2 * lane + n % 2))) := by
    intro lane hl
    have register : ∀ n < 16, weight (rowThread row lane) (n / 2) (2 * rowHalf row + n % 2) =
        .fin (w (8 * (n / 2) + (2 * lane + n % 2))) := by
      intro n hn
      rw [columnOf_register weight row hl (Nat.mod_lt _ (by decide))]
      exact columns _ (by omega)
    refine forRange_invariant
      (P := fun k sum =>
        sum = Ext.fin (∑ n ∈ Finset.range k, w (8 * (n / 2) + (2 * lane + n % 2))))
      (show 1 ≤ 16 by decide) ?_ ?_
    · rw [Finset.sum_range_one]
      exact register 0 (by decide)
    · rintro n _ _ hn rfl
      rw [register n hn, Finset.sum_range_succ]
      rfl
  have comm : ∀ a b, (extOps K).add a b = (extOps K).add b a := Ext.add_swap
  rw [quadReduce_eq comm _ row hl, thread 0 (by decide), thread 1 (by decide),
    thread 2 (by decide), thread 3 (by decide), ← sum_columns w]
  change Ext.fin _ = Ext.fin _
  congr 1
  simp only [Finset.sum_range_succ (fun lane => ∑ n ∈ Finset.range 16, _), Finset.sum_range_zero]
  ring

variable (valid : work.queryValid row = true) {ts : List (Token K (Fin 128))}
  (holds : RowHolds regs row ts)
include valid holds

/-- The lanes of the quad find the same maximum. -/
theorem nextMax_lane {lane : Nat} (hl : lane < 4) :
    (extOps K).tiledNextMax work score regs (rowThread row lane) (rowHalf row) =
      rowNext work score regs row := by
  have comm : ∀ a b, (extOps K).max a b = (extOps K).max b a := Ext.max_swap
  simp only [rowNext, DeviceOps.tiledNextMax, packedRow_rowThread hl,
    packedRow_rowThread (show 0 < 4 by decide), valid, if_true, holds.rowMax lane hl,
    quadReduce_eq comm _ row hl, quadReduce_eq comm _ row (show 0 < 4 by decide)]
  rfl

/-- They scale what they have by the same factor. -/
theorem previousScale_lane {lane : Nat} (hl : lane < 4) :
    (extOps K).tiledPreviousScale work score regs (rowThread row lane) (rowHalf row) =
      (rowState regs row).restrict.rescale (rowNext work score regs row) := by
  simp only [DeviceOps.tiledPreviousScale, nextMax_lane valid holds hl, holds.rowSum lane hl,
    holds.rowMax lane hl]
  rfl

variable {count : Nat} {x : Nat → K} (columns : ∀ n < 64,
  columnOf score row n = if n < count then .fin (x n) else .negInf)
include columns

/-- The new maximum is minus infinity when the row has seen no token yet, and else a number. -/
theorem nextMax_cases :
    (ts = [] → count = 0 → rowNext work score regs row = .negInf) ∧
    (ts ≠ [] ∨ 0 < count → ∃ m, rowNext work score regs row = .fin m) := by
  have lane : 0 < 4 := by decide
  have next : rowNext work score regs row =
      Ext.max (rowState regs row).max (quadReduce (extOps K).max
        (fun thread => (extOps K).tiledTileMax score thread (rowHalf row)) (rowThread row 0)) := by
    simp only [rowNext, DeviceOps.tiledNextMax, packedRow_rowThread lane, valid, if_true]
    rfl
  have number : quadReduce (extOps K).max
      (fun thread => (extOps K).tiledTileMax score thread (rowHalf row)) (rowThread row 0) ≠ .nan := by
    rw [quadMax_forall (P := (· ≠ Ext.nan)) (fun _ _ => Ext.max_ne_nan) lane]
    intro n hn
    rw [columns n hn]
    split <;> simp
  rw [next]
  rcases holds.summarises.max_cases with ⟨empty, max⟩ | ⟨some, y, max⟩
  · have max : (rowState regs row).max = .negInf := max
    rw [max]
    refine ⟨fun _ none => ?_, fun some => ?_⟩
    · refine Ext.max_eq_negInf.mpr ⟨rfl, ?_⟩
      rw [quadMax_forall (P := (· = Ext.negInf)) (fun _ _ => Ext.max_eq_negInf) lane]
      intro n hn
      rw [columns n hn, if_neg (by omega)]
    · have pos : 0 < count := some.resolve_left fun h => h empty
      have finite : quadReduce (extOps K).max
          (fun thread => (extOps K).tiledTileMax score thread (rowHalf row)) (rowThread row 0) ≠
            .negInf := by
        intro none
        rw [quadMax_forall (P := (· = Ext.negInf)) (fun _ _ => Ext.max_eq_negInf) lane] at none
        have first := none 0 (by decide)
        rw [columns 0 (by decide), if_pos pos] at first
        cases first
      cases found : quadReduce (extOps K).max
          (fun thread => (extOps K).tiledTileMax score thread (rowHalf row)) (rowThread row 0) with
      | negInf => exact absurd found finite
      | nan => exact absurd found number
      | fin z => exact ⟨z, rfl⟩
  · have max : (rowState regs row).max = .fin y := max
    rw [max]
    refine ⟨fun empty => absurd empty some, fun _ => ?_⟩
    cases found : quadReduce (extOps K).max
        (fun thread => (extOps K).tiledTileMax score thread (rowHalf row)) (rowThread row 0) with
    | negInf => exact ⟨y, rfl⟩
    | nan => exact absurd found number
    | fin z => exact ⟨_, rfl⟩

/-- The weights of the columns. -/
theorem weight_column {m : K} (next : 0 < count → rowNext work score regs row = .fin m) :
    ∀ n < 64, columnOf ((extOps K).tiledSoftmaxScore work score regs) row n =
      .fin (if n < count then ExactExp.exp2 (x n - m) else 0) := by
  intro n hn
  have hl : n % 8 / 2 < 4 := by omega
  have half : (2 * rowHalf row + n % 2) / 2 = rowHalf row := by omega
  have column : score (rowThread row (n % 8 / 2)) (n / 8) (2 * rowHalf row + n % 2) =
      if n < count then .fin (x n) else .negInf := columns n hn
  simp only [columnOf, DeviceOps.tiledSoftmaxScore, half, packedRow_rowThread hl, valid,
    nextMax_lane valid holds hl, column, Bool.true_and]
  split
  · rename_i seen
    rw [next (Nat.zero_lt_of_lt seen)]
    rfl
  · rfl

/-- The sum of a row after the tile. -/
theorem rowSum_tileStep {m : K} (next : 0 < count → rowNext work score regs row = .fin m)
    (kvTile : Nat → Ext K) {lane : Nat} (hl : lane < 4) :
    ((extOps K).tiledTileStep work score regs kvTile (rowThread row lane)).rowSum (rowHalf row) =
      Ext.add (Ext.mul (rowState regs row).norm
          ((rowState regs row).restrict.rescale (rowNext work score regs row)))
        (.fin (∑ n ∈ Finset.range 64, if n < count then ExactExp.exp2 (x n - m) else 0)) := by
  have weights := weight_column valid holds columns next
  simp only [DeviceOps.tiledTileStep, previousScale_lane valid holds hl, holds.rowSum lane hl,
    quadSum_exact weights hl]
  rfl

/-- The output of a row after the tile. -/
theorem output_tileStep {m : K} (next : 0 < count → rowNext work score regs row = .fin m)
    {v : Nat → Nat → K} {kvTile : Nat → Ext K}
    (values : ∀ n < 64, ∀ c < 128, kvTile (n * 128 + c) = .fin (v n c)) {c : Nat} (hc : c < 128) :
    (rowState ((extOps K).tiledTileStep work score regs kvTile) row).acc c =
      Ext.add (Ext.mul ((rowState regs row).acc c)
          ((rowState regs row).restrict.rescale (rowNext work score regs row)))
        (.fin (∑ n ∈ Finset.range 64,
          (if n < count then ExactExp.exp2 (x n - m) else 0) * v n c)) := by
  have weights := weight_column valid holds columns next
  have hl : c % 8 / 2 < 4 := by omega
  have half : (2 * rowHalf row + c % 2) / 2 = rowHalf row := by omega
  have component : 8 * (c / 8) + 2 * (c % 8 / 2) + c % 2 = c := by omega
  let term := fun n => (if n < count then ExactExp.exp2 (x n - m) else 0) * v n c
  have products := forRange_products (n := 4) (i := 2 * rowHalf row + c % 2)
    (fun part accumulator => (extOps K).mmaM16n8k16 accumulator
      (warpOf ((extOps K).tiledWeightFragment ((extOps K).tiledSoftmaxScore work score regs) part)
        (rowThread row (c % 8 / 2)))
      (warpOf (tiledValueFragment kvTile part (c / 8)) (rowThread row (c % 8 / 2)))
      (rowThread row (c % 8 / 2) % warpThreads))
    (fun part => ∑ k ∈ Finset.range 16, term (part * 16 + k))
    (fun i => Ext.mul ((regs (rowThread row (c % 8 / 2))).output (c / 8) i)
      ((extOps K).tiledPreviousScale work score regs (rowThread row (c % 8 / 2)) (i / 2)))
    fun part hpart accumulator => by
      refine mma_exact accumulator hl (Nat.mod_lt _ (by decide)) (fun k hk => ?_) fun k hk => ?_
      · have column := weights (part * 16 + k) (by omega)
        have lane : (part * 16 + k) % 8 / 2 = k % 8 / 2 := by omega
        have subtile : (part * 16 + k) / 8 = 2 * part + k / 8 := by omega
        have parity : (part * 16 + k) % 2 = k % 2 := by omega
        rw [columnOf, lane, subtile, parity] at column
        rw [tiledWeightFragment_row]
        exact column
      · rw [tiledValueFragment_column hl (Nat.mod_lt _ (by decide)), component,
          values _ (by omega) _ hc, Nat.mul_comm 16]
  rw [sum_groups term 4 16, half, previousScale_lane valid holds hl] at products
  exact products

variable [IsStrictOrderedRing K]

/-- The step of a tile appends the tokens that the row sees. -/
theorem tileStep_holds (hcount : count ≤ 64) {v : Nat → Nat → K} {kvTile : Nat → Ext K}
    (values : ∀ n < 64, ∀ c < 128, kvTile (n * 128 + c) = .fin (v n c)) :
    RowHolds ((extOps K).tiledTileStep work score regs kvTile) row (ts ++ tileTokens x v count) := by
  obtain ⟨empty, some⟩ := nextMax_cases valid holds columns
  have reference : ∃ m, ts ≠ [] ∨ 0 < count → rowNext work score regs row = .fin m := by
    by_cases h : ts ≠ [] ∨ 0 < count
    · obtain ⟨m, hm⟩ := some h
      exact ⟨m, fun _ => hm⟩
    · exact ⟨0, fun h' => absurd h' h⟩
  obtain ⟨m, next⟩ := reference
  have sums := fun lane (hl : lane < 4) => rowSum_tileStep valid holds columns
    (fun pos => next (Or.inr pos)) kvTile hl
  refine ⟨fun lane hl => nextMax_lane valid holds hl, fun lane hl => ?_, ?_⟩
  · rw [sums lane hl, ← sums 0 (by decide)]
    rfl
  · have state : (rowState ((extOps K).tiledTileStep work score regs kvTile) row).restrict = _ :=
      congrArg₂ (SoftmaxState.mk (rowNext work score regs row)) (sums 0 (by decide))
        (funext fun c : Fin 128 => output_tileStep valid holds columns
          (fun pos => next (Or.inr pos)) values c.isLt)
    rw [state, tileTokens_expSum x v m hcount]
    simp only [tileTokens_weightedSum x v m hcount]
    refine holds.summarises.append _ m (fun none none' => empty none ?_) fun h => next ?_
    · simpa [tileTokens] using none'
    · simpa [tileTokens, Nat.pos_iff_ne_zero] using h

end Step

/-! ## All tiles -/

section Loop

variable (work : TiledBlock) (numQueryHeads numKvHeads : Nat) (query key value : Nat → K)
  {row : Nat}

/-- The tokens of a row from `lo` on, one tile later. -/
theorem raggedTokens_tile (state kvHead lo n count : Nat) :
    raggedTokens query key value numKvHeads state kvHead lo (lo + n) ++ tileTokens
        (fun i => scoreLog2 (headDot query key (state * 128)
          (((lo + n + i) * numKvHeads + kvHead) * 128)))
        (fun i c => value (((lo + n + i) * numKvHeads + kvHead) * 128 + c)) count =
      raggedTokens query key value numKvHeads state kvHead lo (lo + n + count) := by
  have tile : (List.range count).map (lo + n + ·) = List.range' (lo + 1 * n) count := by
    rw [List.range'_eq_map_range, Nat.one_mul]
  have len : lo + n + count - lo = n + count := by omega
  simp only [raggedTokens, rowTokens, Nat.add_sub_cancel_left, len, List.range'_append.symm,
    List.map_append, ← tile, List.map_map]
  rfl

/-- The values of a tile, as numbers. -/
def TiledBlock.tileValue (work : TiledBlock) (numKvHeads : Nat) (value : Nat → K)
    (kvTileStart n c : Nat) : K :=
  if kvTileStart + n < work.partitionTokenEnd then
    value (work.kvOffset numKvHeads (work.tile.kvStart + (kvTileStart + n)) + c)
  else 0

theorem tiledKvTile_value (kvTileStart : Nat) (shared : Nat → Ext K) : ∀ n < 64, ∀ c < 128,
    (extOps K).tiledKvTile work numKvHeads (finArray value) kvTileStart shared (n * 128 + c) =
      .fin (work.tileValue numKvHeads value kvTileStart n c) := by
  intro n hn c hc
  rw [tiledKvTile_apply _ _ _ _ _ _ hn hc, TiledBlock.tileValue]
  split <;> rfl

variable [IsStrictOrderedRing K]

/-- Where the registers of the row's quad stand after `passes` tiles. -/
def TiledBlock.HoldsTiles (work : TiledBlock) (numQueryHeads numKvHeads : Nat)
    (query key value : Nat → K) (passes : Nat) (regs : Nat → TiledRegisters (Ext K)) (row : Nat) :
    Prop :=
  RowHolds regs row (raggedTokens query key value numKvHeads (work.queryState numQueryHeads row)
    work.kvHead (work.tile.kvStart + work.partitionTokenStart)
    (work.tile.kvStart + work.partitionTokenStart +
      min (passes * tiledKvRows) (work.causalEnd row - work.partitionTokenStart)))

/-- One pass takes in the next tile. -/
theorem tilePass_holds (valid : work.queryValid row = true) {passes : Nat}
    {regs : Nat → TiledRegisters (Ext K)} (shared : Nat → Ext K)
    (holds : work.HoldsTiles numQueryHeads numKvHeads query key value passes regs row) :
    let kvTileStart := work.partitionTokenStart + passes * tiledKvRows
    let keyTile := (extOps K).tiledKvTile work numKvHeads (finArray key) kvTileStart shared
    work.HoldsTiles numQueryHeads numKvHeads query key value (passes + 1)
      ((extOps K).tiledTileStep work
        ((extOps K).tiledMaskedScore work numQueryHeads (.fin (scaleLog2 K)) (finArray query) keyTile
          kvTileStart)
        regs
        ((extOps K).tiledKvTile work numKvHeads (finArray value) kvTileStart keyTile)) row := by
  intro kvTileStart keyTile
  let count := min tiledKvRows (work.causalEnd row - kvTileStart)
  have columns : ∀ n < 64, columnOf ((extOps K).tiledMaskedScore work numQueryHeads
      (.fin (scaleLog2 K)) (finArray query) keyTile kvTileStart) row n =
      if n < count then .fin (scoreLog2 (headDot query key (work.queryState numQueryHeads row * 128)
        (work.kvOffset numKvHeads (work.tile.kvStart + (kvTileStart + n))))) else .negInf := by
    intro n hn
    rw [maskedScore_column work numQueryHeads numKvHeads query key valid shared hn]
    refine if_congr ?_ rfl rfl
    simp only [count, tiledKvRows]
    omega
  have step := tileStep_holds valid holds columns (Nat.min_le_left _ _)
    (tiledKvTile_value work numKvHeads value kvTileStart keyTile)
  have tokens : ∀ lo, lo = work.tile.kvStart + work.partitionTokenStart →
      raggedTokens query key value numKvHeads (work.queryState numQueryHeads row) work.kvHead lo
          (lo + min (passes * tiledKvRows) (work.causalEnd row - work.partitionTokenStart)) ++
        tileTokens (fun i => scoreLog2 (headDot query key (work.queryState numQueryHeads row * 128)
            (work.kvOffset numKvHeads (work.tile.kvStart + (kvTileStart + i)))))
          (work.tileValue numKvHeads value kvTileStart) count =
      raggedTokens query key value numKvHeads (work.queryState numQueryHeads row) work.kvHead lo
        (lo + min ((passes + 1) * tiledKvRows)
          (work.causalEnd row - work.partitionTokenStart)) := by
    intro lo hlo
    have next : (passes + 1) * tiledKvRows = passes * tiledKvRows + tiledKvRows :=
      Nat.succ_mul _ _
    rcases Nat.lt_or_ge (work.causalEnd row - work.partitionTokenStart) (passes * tiledKvRows) with
      done | more
    · -- the row's tokens end before this tile
      have none : count = 0 := by
        simp only [count, kvTileStart]
        omega
      rw [none, Nat.min_eq_right done.le, Nat.min_eq_right (by omega)]
      exact List.append_nil _
    · have stop : min ((passes + 1) * tiledKvRows) (work.causalEnd row - work.partitionTokenStart) =
          passes * tiledKvRows + count := by
        simp only [count, kvTileStart]
        omega
      rw [stop, Nat.min_eq_left more, ← Nat.add_assoc, ← raggedTokens_tile]
      refine congrArg _ (List.map_congr_left fun i hi => ?_)
      have seen : kvTileStart + i < work.causalEnd row := by
        have := List.mem_range.mp hi
        simp only [count] at this
        omega
      have inside : kvTileStart + i < work.partitionTokenEnd :=
        Nat.lt_of_lt_of_le seen (Nat.min_le_right _ _)
      have token : work.tile.kvStart + (kvTileStart + i) = lo + passes * tiledKvRows + i := by
        simp only [kvTileStart, hlo]
        omega
      simp only [TiledBlock.tileValue, if_pos inside, token, TiledBlock.kvOffset]
  rw [TiledBlock.HoldsTiles, ← tokens _ rfl]
  exact step

/-- The loop ends with the tokens of the partition that the row sees. -/
theorem tiledLoop_holds (valid : work.queryValid row = true) (shared : Nat → Ext K) :
    RowHolds ((extOps K).tiledLoop work numQueryHeads numKvHeads (.fin (scaleLog2 K))
        (finArray query) (finArray key) (finArray value) shared).1 row
      (raggedTokens query key value numKvHeads (work.queryState numQueryHeads row) work.kvHead
        (work.tile.kvStart + work.partitionTokenStart)
        (work.tile.kvStart + work.partitionTokenStart +
          (work.causalEnd row - work.partitionTokenStart))) := by
  let tiles := (work.partitionTokenEnd - work.partitionTokenStart + tiledKvRows - 1) / tiledKvRows
  have loop : work.HoldsTiles numQueryHeads numKvHeads query key value tiles
      ((extOps K).tiledLoop work numQueryHeads numKvHeads (.fin (scaleLog2 K)) (finArray query)
        (finArray key) (finArray value) shared).1 row := by
    refine forRange_invariant
      (P := fun passes (s : (Nat → TiledRegisters (Ext K)) × (Nat → Ext K)) =>
        work.HoldsTiles numQueryHeads numKvHeads query key value passes s.1 row)
      (Nat.zero_le tiles) ?_ ?_
    · refine ⟨fun _ _ => rfl, fun _ _ => rfl, ?_⟩
      rw [Nat.zero_mul, Nat.zero_min, Nat.add_zero, raggedTokens, rowTokens_self]
      exact extSummarises_empty
    · rintro passes ⟨regs, shared⟩ _ _ holds
      exact tilePass_holds work numQueryHeads numKvHeads query key value valid shared holds
  have enough : work.causalEnd row - work.partitionTokenStart ≤ tiles * tiledKvRows := by
    have end_le : work.causalEnd row ≤ work.partitionTokenEnd := Nat.min_le_right _ _
    simp only [tiles, tiledKvRows]
    omega
  rwa [TiledBlock.HoldsTiles, Nat.min_eq_right enough] at loop

end Loop

end LoomKernels
