import LoomKernels.Device.TiledOwnership

/-!
# Where the tiled kernel keeps its numbers

The tiled kernel spreads a tile over the threads in the layouts of the matrix products. Seen from a
packed row, whose quad is `rowThread row 0 … rowThread row 3`: the query fragments are the query of
the row, the key fragments the keys of the shared tile, column `n` of the scores belongs to lane
`n % 8 / 2` (`columnOf`), and the weights and values meet token by token in the second product.
-/

namespace LoomKernels

/-! ## Quads -/

theorem xor_one : ∀ lane < 32, lane ^^^ 1 = lane / 2 * 2 + (1 - lane % 2) := by decide

theorem xor_two : ∀ lane < 32, lane ^^^ 2 = lane / 4 * 4 + (lane % 4 + 2) % 4 := by decide

theorem shuffleXor_one {F : Type} (value : Nat → F) (row lane : Nat) :
    shuffleXor value 1 (rowThread row lane) = value (rowThread row (lane / 2 * 2 + (1 - lane % 2))) := by
  unfold shuffleXor warpOf
  rw [xor_one _ (Nat.mod_lt _ (by decide))]
  simp only [rowThread, warpThreads]
  congr 1
  omega

theorem shuffleXor_two {F : Type} (value : Nat → F) (row : Nat) {lane : Nat} (hl : lane < 4) :
    shuffleXor value 2 (rowThread row lane) = value (rowThread row ((lane + 2) % 4)) := by
  unfold shuffleXor warpOf
  rw [xor_two _ (Nat.mod_lt _ (by decide))]
  simp only [rowThread, warpThreads]
  congr 1
  omega

/-- The two shuffles give every lane of a quad the values of all four. -/
theorem quadReduce_eq {F : Type} {op : F → F → F} (comm : ∀ a b, op a b = op b a)
    (value : Nat → F) (row : Nat) {lane : Nat} (hl : lane < 4) :
    quadReduce op value (rowThread row lane) =
      op (op (value (rowThread row 0)) (value (rowThread row 1)))
        (op (value (rowThread row 2)) (value (rowThread row 3))) := by
  simp only [quadReduce]
  rw [shuffleXor_two _ row hl, shuffleXor_one, shuffleXor_one]
  have cases : lane = 0 ∨ lane = 1 ∨ lane = 2 ∨ lane = 3 := by omega
  rcases cases with rfl | rfl | rfl | rfl
  · rfl
  · show op (op _ _) (op _ _) = _
    rw [comm (value (rowThread row 1)), comm (value (rowThread row 3))]
  · exact comm _ _
  · show op (op _ _) (op _ _) = _
    rw [comm (op _ _), comm (value (rowThread row 1)), comm (value (rowThread row 3))]

/-! ## Fragments -/

section Fragments

variable {F B : Type} (ops : DeviceOps F B) (work : TiledBlock) {row lane e k : Nat}

/-- Entry `(row, k)` of the `A` matrix is with lane `k % 8 / 2` of the row's quad. -/
theorem fragmentA_row (a : Nat → Nat → B) (hl : lane < 4) :
    fragmentA (warpOf a (rowThread row lane)) (row % 16) k =
      a (rowThread row (k % 8 / 2)) (2 * (rowHalf row + 2 * (k / 8)) + k % 2) := by
  simp only [fragmentA, warpOf, rowThread, rowHalf, warpThreads]
  congr 1
  omega

/-- Entry `(k, column)` of the `B` matrix is with lane `k % 8 / 2` of quad `column`. -/
theorem fragmentB_column (b : Nat → Nat → B) {column : Nat} (hl : lane < 4) :
    fragmentB (warpOf b (rowThread row lane)) k column =
      b (row / 16 * warpThreads + (column * 4 + k % 8 / 2)) (2 * (k / 8) + k % 2) := by
  simp only [fragmentB, warpOf, rowThread, warpThreads]
  congr 1
  omega

/-- The product of a row and a column, as the row's quad computes it. -/
theorem mma_row (accumulator : Nat → F) (a b : Nat → Nat → B) (hl : lane < 4) (he : e < 2) :
    ops.mmaM16n8k16 accumulator (warpOf a (rowThread row lane)) (warpOf b (rowThread row lane))
        (rowThread row lane % warpThreads) (2 * rowHalf row + e) =
      forRange 0 16
        (fun k sum => ops.fma
          (ops.toF32 (a (rowThread row (k % 8 / 2)) (2 * (rowHalf row + 2 * (k / 8)) + k % 2)))
          (ops.toF32 (b (row / 16 * warpThreads + ((2 * lane + e) * 4 + k % 8 / 2))
            (2 * (k / 8) + k % 2))) sum)
        (accumulator (2 * rowHalf row + e)) := by
  have matrixRow : rowThread row lane % warpThreads / 4 + 8 * ((2 * rowHalf row + e) / 2) =
      row % 16 := by
    simp only [rowThread, rowHalf, warpThreads]
    omega
  have column : 2 * (rowThread row lane % warpThreads % 4) + (2 * rowHalf row + e) % 2 =
      2 * lane + e := by
    simp only [rowThread, warpThreads]
    omega
  simp only [DeviceOps.mmaM16n8k16, matrixRow, column, fragmentA_row a hl, fragmentB_column b hl]

/-- The query fragments of a row with a query hold the query. -/
theorem tiledQueryFragment_row {numQueryHeads : Nat} {query : Nat → B} {componentTile : Nat}
    (valid : work.queryValid row = true) :
    ops.tiledQueryFragment work numQueryHeads query componentTile (rowThread row (k % 8 / 2))
        (2 * (rowHalf row + 2 * (k / 8)) + k % 2) =
      query (work.queryState numQueryHeads row * 128 + (16 * componentTile + k)) := by
  have hl : k % 8 / 2 < 4 := by omega
  have half : (2 * (rowHalf row + 2 * (k / 8)) + k % 2) / 2 % 2 = rowHalf row := by
    have := rowHalf_lt row
    omega
  have pair : (2 * (rowHalf row + 2 * (k / 8)) + k % 2) / 4 = k / 8 := by
    have := rowHalf_lt row
    omega
  have element : (2 * (rowHalf row + 2 * (k / 8)) + k % 2) % 2 = k % 2 := by omega
  simp only [DeviceOps.tiledQueryFragment, half, pair, element, packedRow_rowThread hl,
    laneInGroup_rowThread hl, if_pos valid]
  congr 1
  simp only [bf16PairsPerHead, singleDecodeHeadDim]
  omega

/-- The key fragments of a subtile hold its keys. -/
theorem tiledKeyFragment_column {kvTile : Nat → B} {subtile componentTile : Nat} (hl : lane < 4)
    (he : e < 2) :
    tiledKeyFragment kvTile subtile componentTile
        (row / 16 * warpThreads + ((2 * lane + e) * 4 + k % 8 / 2)) (2 * (k / 8) + k % 2) =
      kvTile ((8 * subtile + (2 * lane + e)) * 128 + (16 * componentTile + k)) := by
  simp only [tiledKeyFragment, laneGroup, laneInGroup, warpThreads, bf16PairsPerHead,
    singleDecodeHeadDim]
  congr 1
  omega

/-- The weight fragments of a row hold its weights. -/
theorem tiledWeightFragment_row {weight : Nat → Nat → Nat → F} {part : Nat} :
    ops.tiledWeightFragment weight part (rowThread row (k % 8 / 2))
        (2 * (rowHalf row + 2 * (k / 8)) + k % 2) =
      ops.fromF32 (weight (rowThread row (k % 8 / 2)) (2 * part + k / 8) (2 * rowHalf row + k % 2)) := by
  have := rowHalf_lt row
  simp only [DeviceOps.tiledWeightFragment]
  congr 2 <;> omega

/-- The value fragments hold the values of sixteen tokens. -/
theorem tiledValueFragment_column {kvTile : Nat → B} {part d : Nat} (hl : lane < 4) (he : e < 2) :
    tiledValueFragment kvTile part d (row / 16 * warpThreads + ((2 * lane + e) * 4 + k % 8 / 2))
        (2 * (k / 8) + k % 2) =
      kvTile ((16 * part + k) * 128 + (8 * d + 2 * lane + e)) := by
  simp only [tiledValueFragment, laneGroup, laneInGroup, warpThreads, singleDecodeHeadDim]
  congr 1
  omega

end Fragments

/-! ## Columns -/

/-- Column `n` of the scores of a packed row. -/
def columnOf {F : Type} (score : Nat → Nat → Nat → F) (row n : Nat) : F :=
  score (rowThread row (n % 8 / 2)) (n / 8) (2 * rowHalf row + n % 2)

/-- A register of the row's quad is a column. -/
theorem columnOf_register {F : Type} (score : Nat → Nat → Nat → F) (row : Nat)
    {lane subtile e : Nat} (hl : lane < 4) (he : e < 2) :
    score (rowThread row lane) subtile (2 * rowHalf row + e) =
      columnOf score row (8 * subtile + (2 * lane + e)) := by
  unfold columnOf
  congr 2 <;> omega

/-- The columns of the four lanes are the 64 columns of the tile. -/
theorem sum_columns {M : Type} [AddCommMonoid M] (f : Nat → M) :
    ∑ lane ∈ Finset.range 4, ∑ n ∈ Finset.range 16, f (8 * (n / 2) + (2 * lane + n % 2)) =
      ∑ n ∈ Finset.range 64, f n := by
  rw [← Finset.sum_product']
  refine Finset.sum_nbij' (fun p => 8 * (p.2 / 2) + (2 * p.1 + p.2 % 2))
    (fun n => (n % 8 / 2, n / 8 * 2 + n % 2)) ?_ ?_ ?_ ?_ fun _ _ => rfl
  · simp only [Finset.mem_product, Finset.mem_range]
    omega
  · simp only [Finset.mem_product, Finset.mem_range]
    omega
  · simp only [Finset.mem_product, Finset.mem_range]
    rintro ⟨lane, n⟩ ⟨hl, hn⟩
    ext <;> simp only <;> omega
  · simp only [Finset.mem_range]
    omega

/-! ## The shared tile -/

section Tile

variable {F B : Type} (ops : DeviceOps F B) (work : TiledBlock) (numKvHeads : Nat)
  (global : Nat → B) (kvTileStart : Nat)

/-- What the copies put at address `a` of the shared tile. -/
def tileImage (a : Nat) : B :=
  if kvTileStart + a / 128 < work.partitionTokenEnd then
    global (((work.tile.kvStart + (kvTileStart + a / 128)) * numKvHeads + work.kvHead) * 128 + a % 128)
  else ops.zeroBits

/-- Every copied element is where the tile has it. -/
theorem loadTiledKvAsync_agree {thread : Nat} {w : Nat × B}
    (h : w ∈ ops.loadTiledKvAsync work numKvHeads global kvTileStart thread) :
    w.2 = tileImage ops work numKvHeads global kvTileStart w.1 := by
  simp only [DeviceOps.loadTiledKvAsync, DeviceOps.cpAsyncCgZfill16, List.mem_flatMap, List.mem_map,
    List.mem_range] at h
  obtain ⟨iteration, hit, e, he, rfl⟩ := h
  simp only [tiledThreads, tiledWarps, warpThreads, tiledKvCopyPairs, tiledKvCopyBytes,
    bf16PairsPerHead, singleDecodeHeadDim] at *
  have tileRow : (2 * ((thread + iteration * (32 * 4)) * (16 / 4)) + e) / 128 =
      thread / 16 + iteration * 8 := by omega
  have component : (2 * ((thread + iteration * (32 * 4)) * (16 / 4)) + e) % 128 =
      thread % 16 * 8 + e := by omega
  unfold tileImage
  rw [tileRow, component, ← Nat.add_assoc]
  split
  · rename_i inside
    rw [if_pos (by omega), Nat.min_eq_left (by omega)]
    congr 1
    omega
  · rename_i outside
    exact if_neg (by omega)

/-- Every element of the tile is copied. -/
theorem loadTiledKvAsync_named {a : Nat} (ha : a < tiledKvRows * 128) :
    a ∈ ((List.range tiledThreads).flatMap
      (ops.loadTiledKvAsync work numKvHeads global kvTileStart)).map Prod.fst := by
  simp only [List.map_flatMap, List.mem_flatMap, List.mem_range, DeviceOps.loadTiledKvAsync,
    DeviceOps.cpAsyncCgZfill16, List.map_map, List.mem_map, Function.comp_apply, tiledThreads,
    tiledWarps, warpThreads, tiledKvRows, tiledKvCopyPairs, tiledKvCopyBytes] at *
  exact ⟨a / 8 % 128, by omega, a / 8 / 128, by omega, a % 8, by omega, by omega⟩

/-- The shared tile holds the partition's tokens, and zeros beyond them. -/
theorem tiledKvTile_apply (shared : Nat → B) {r c : Nat} (hr : r < tiledKvRows) (hc : c < 128) :
    ops.tiledKvTile work numKvHeads global kvTileStart shared (r * 128 + c) =
      if kvTileStart + r < work.partitionTokenEnd then
        global (((work.tile.kvStart + (kvTileStart + r)) * numKvHeads + work.kvHead) * 128 + c)
      else ops.zeroBits := by
  have image : ops.tiledKvTile work numKvHeads global kvTileStart shared (r * 128 + c) =
      tileImage ops work numKvHeads global kvTileStart (r * 128 + c) := by
    refine applyWrites_of_agree (fun w hw => ?_)
      (loadTiledKvAsync_named ops work numKvHeads global kvTileStart (rowMajor_lt hr hc))
    obtain ⟨thread, -, hw⟩ := List.mem_flatMap.mp hw
    exact loadTiledKvAsync_agree ops work numKvHeads global kvTileStart hw
  rw [image, tileImage, row_div hc, row_mod hc]

end Tile

end LoomKernels
