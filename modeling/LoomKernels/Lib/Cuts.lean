import Mathlib.Algebra.BigOperators.Intervals
import Mathlib.Tactic.Linarith
import LoomKernels.Lib.Loops

/-!
# Cutting an interval into cells

A nondecreasing sequence of boundaries `f 0 ≤ f 1 ≤ … ≤ f n` cuts `[f 0, f n)` into `n` cells
`[f i, f (i + 1))`, some of which may be empty. Every point lies in exactly one cell
(`existsUnique_cell`), and the cells in order give back the interval (`flatMap_cells`). Three
boundary sequences are used:

* `floorCut n parts i = i * n / parts`, the proportional cut;
* `balancedCut n parts i`, equal cells whose first `n % parts` hold one more;
* partial sums of a list of sizes, which lay out items of given sizes one after another.
-/

namespace LoomKernels

/-! ## Cells of a boundary sequence -/

section Cells

variable {f : Nat → Nat} {n : Nat}

theorem cut_le_cut (mono : ∀ i < n, f i ≤ f (i + 1)) {i j : Nat} (hij : i ≤ j) (hj : j ≤ n) :
    f i ≤ f j := by
  induction j, hij using Nat.le_induction with
  | base => exact Nat.le_refl _
  | succ j _ ih => exact (ih (Nat.le_of_succ_le hj)).trans (mono j hj)

/-- Every point between the outer boundaries lies in exactly one cell. -/
theorem existsUnique_cell (mono : ∀ i < n, f i ≤ f (i + 1)) {t : Nat} (lo : f 0 ≤ t)
    (hi : t < f n) : ∃! i, i < n ∧ f i ≤ t ∧ t < f (i + 1) := by
  have least : ∃ j, t < f j := ⟨n, hi⟩
  have hpos : Nat.find least ≠ 0 := by
    intro h0
    have := Nat.find_spec least
    rw [h0] at this
    omega
  obtain ⟨i, hfind⟩ : ∃ i, Nat.find least = i + 1 := Nat.exists_eq_succ_of_ne_zero hpos
  have hin : i < n := by
    have := Nat.find_min' least hi
    omega
  refine ⟨i, ⟨hin, ?_, ?_⟩, ?_⟩
  · have := Nat.find_min least (m := i) (by omega)
    omega
  · have := Nat.find_spec least
    rwa [hfind] at this
  · rintro j ⟨hj, hlo, hhi⟩
    rcases Nat.lt_trichotomy j i with h | h | h
    · have := Nat.find_min' least hhi
      omega
    · exact h
    · have hspec := Nat.find_spec least
      rw [hfind] at hspec
      have := cut_le_cut mono (i := i + 1) (j := j) h hj.le
      omega

/-- A point of a cell lies between the outer boundaries. -/
theorem mem_of_cell (mono : ∀ i < n, f i ≤ f (i + 1)) {i t : Nat} (hi : i < n) (lo : f i ≤ t)
    (hi' : t < f (i + 1)) : f 0 ≤ t ∧ t < f n := by
  have h0 := cut_le_cut mono (Nat.zero_le i) hi.le
  have hn := cut_le_cut mono (i := i + 1) hi (Nat.le_refl n)
  omega

/-- The cells in order are the whole interval. -/
theorem flatMap_cells (mono : ∀ i < n, f i ≤ f (i + 1)) :
    (List.range n).flatMap (fun i => List.range' (f i) (f (i + 1) - f i)) =
      List.range' (f 0) (f n - f 0) := by
  induction n with
  | zero => simp
  | succ n ih =>
    have hle := cut_le_cut (fun i hi => mono i (Nat.lt_succ_of_lt hi)) (Nat.zero_le n) (Nat.le_refl n)
    have hstep := mono n (Nat.lt_succ_self n)
    rw [List.range_succ, List.flatMap_append, ih fun i hi => mono i (Nat.lt_succ_of_lt hi)]
    have hlen : f (n + 1) - f 0 = (f n - f 0) + (f (n + 1) - f n) := by omega
    have hmid : f 0 + 1 * (f n - f 0) = f n := by omega
    rw [hlen, ← List.range'_append, hmid]
    simp

end Cells

/-! ## Proportional and balanced cuts -/

/-- Boundary `i` of `n` points cut proportionally into `parts` cells. -/
def floorCut (n parts i : Nat) : Nat := i * n / parts

@[simp] theorem floorCut_zero (n parts : Nat) : floorCut n parts 0 = 0 := by simp [floorCut]

theorem floorCut_last {n parts : Nat} (h : 0 < parts) : floorCut n parts parts = n :=
  Nat.mul_div_cancel_left n h

theorem floorCut_mono (n parts i : Nat) : floorCut n parts i ≤ floorCut n parts (i + 1) :=
  Nat.div_le_div_right (Nat.mul_le_mul_right n (Nat.le_succ i))

theorem floorCut_le {n parts i : Nat} (h : i ≤ parts) : floorCut n parts i ≤ n :=
  Nat.div_le_of_le_mul (Nat.mul_le_mul_right n h)

/-- With no more cells than points, no cell is empty. -/
theorem floorCut_lt {n parts i : Nat} (h : 0 < parts) (hle : parts ≤ n) :
    floorCut n parts i < floorCut n parts (i + 1) := by
  have hstep : (i + 1) * n = i * n + n := by rw [Nat.add_mul, Nat.one_mul]
  calc floorCut n parts i < i * n / parts + 1 := Nat.lt_succ_self _
    _ = (i * n + parts) / parts := (Nat.add_div_right _ h).symm
    _ ≤ (i * n + n) / parts := Nat.div_le_div_right (by omega)
    _ = floorCut n parts (i + 1) := by rw [floorCut, hstep]

/-- Boundary `i` of `n` points cut into `parts` cells of `n / parts` points, the first
`n % parts` cells holding one more. -/
def balancedCut (n parts i : Nat) : Nat := i * (n / parts) + min i (n % parts)

@[simp] theorem balancedCut_zero (n parts : Nat) : balancedCut n parts 0 = 0 := by
  simp [balancedCut]

theorem balancedCut_last {n parts : Nat} (h : 0 < parts) : balancedCut n parts parts = n := by
  have := Nat.mod_lt n h
  rw [balancedCut, Nat.min_eq_right this.le]
  exact Nat.div_add_mod n parts

theorem balancedCut_succ (n parts i : Nat) :
    balancedCut n parts (i + 1) =
      balancedCut n parts i + (n / parts + if i < n % parts then 1 else 0) := by
  have hmul : (i + 1) * (n / parts) = i * (n / parts) + n / parts := by
    rw [Nat.add_mul, Nat.one_mul]
  rw [balancedCut, balancedCut, hmul]
  split <;> omega

theorem balancedCut_mono (n parts i : Nat) : balancedCut n parts i ≤ balancedCut n parts (i + 1) := by
  rw [balancedCut_succ]
  exact Nat.le_add_right _ _

/-- With no more cells than points, no cell is empty. -/
theorem balancedCut_lt {n parts : Nat} (h : 0 < parts) (hle : parts ≤ n) (i : Nat) :
    balancedCut n parts i < balancedCut n parts (i + 1) := by
  have : 0 < n / parts := Nat.div_pos hle h
  rw [balancedCut_succ]
  exact Nat.lt_add_of_pos_right (Nat.add_pos_left this _)

/-! ## Ranges that tile an interval -/

/-- Ranges that are not empty, each of which starts where the one before it ends, and that are
together `0..n`. -/
structure Tiles (range : Nat → Nat × Nat) (parts n : Nat) : Prop where
  nonempty : ∀ i < parts, (range i).1 < (range i).2
  first : (range 0).1 = 0
  consecutive : ∀ i, i + 1 < parts → (range (i + 1)).1 = (range i).2
  last : (range (parts - 1)).2 = n
  inside : ∀ i < parts, (range i).2 ≤ n
  cover : ∀ t < n, ∃! i, i < parts ∧ (range i).1 ≤ t ∧ t < (range i).2

/-- The lengths of the ranges differ by at most one. -/
def Balanced (range : Nat → Nat × Nat) (parts : Nat) : Prop :=
  ∀ i < parts, ∀ j < parts, (range i).2 - (range i).1 ≤ (range j).2 - (range j).1 + 1

/-- The cells of a strictly increasing cut. -/
theorem tiles_of_cut {f : Nat → Nat} {parts n : Nat} (pos : 0 < parts) (first : f 0 = 0)
    (last : f parts = n) (lt : ∀ i < parts, f i < f (i + 1)) :
    Tiles (fun i => (f i, f (i + 1))) parts n := by
  have mono : ∀ i < parts, f i ≤ f (i + 1) := fun i hi => (lt i hi).le
  refine ⟨lt, first, fun _ _ => rfl, ?_, fun i hi => ?_, fun t ht => ?_⟩
  · change f (parts - 1 + 1) = n
    rw [Nat.sub_add_cancel pos, last]
  · exact last ▸ cut_le_cut mono hi le_rfl
  · exact existsUnique_cell mono (first.trans_le (Nat.zero_le t)) (ht.trans_eq last.symm)

theorem balancedCut_tiles {n parts : Nat} (pos : 0 < parts) (le : parts ≤ n) :
    Tiles (fun i => (balancedCut n parts i, balancedCut n parts (i + 1))) parts n :=
  tiles_of_cut pos (balancedCut_zero n parts) (balancedCut_last pos)
    fun i _ => balancedCut_lt pos le i

theorem balancedCut_balanced (n parts : Nat) :
    Balanced (fun i => (balancedCut n parts i, balancedCut n parts (i + 1))) parts := by
  intro i _ j _
  have length : ∀ k, balancedCut n parts (k + 1) - balancedCut n parts k =
      n / parts + if k < n % parts then 1 else 0 := by
    intro k
    rw [balancedCut_succ, Nat.add_sub_cancel_left]
  rw [length i, length j]
  split <;> split <;> omega

theorem floorCut_tiles {n parts : Nat} (pos : 0 < parts) (le : parts ≤ n) :
    Tiles (fun i => (floorCut n parts i, floorCut n parts (i + 1))) parts n :=
  tiles_of_cut pos (floorCut_zero n parts) (floorCut_last pos) fun _ _ => floorCut_lt pos le

/-! ## Partial sums -/

/-- Where item `i` starts when items of the given sizes are laid out one after another. -/
def startOf (size : Nat → Nat) (i : Nat) : Nat := ∑ j ∈ Finset.range i, size j

@[simp] theorem startOf_zero (size : Nat → Nat) : startOf size 0 = 0 := by simp [startOf]

theorem startOf_succ (size : Nat → Nat) (i : Nat) : startOf size (i + 1) = startOf size i + size i :=
  Finset.sum_range_succ size i

theorem startOf_mono (size : Nat → Nat) (i : Nat) : startOf size i ≤ startOf size (i + 1) := by
  rw [startOf_succ]
  omega

/-- Rounding every size up to whole tiles costs less than one tile for each item after the
first. -/
theorem startOf_ceilDiv_le {tile : Nat} (ht : 0 < tile) (size : Nat → Nat) {n : Nat} (hn : 0 < n) :
    startOf (fun i => (size i + tile - 1) / tile) n ≤
      (startOf size n + tile - 1) / tile + (n - 1) := by
  induction n, hn using Nat.le_induction with
  | base => simp [startOf]
  | succ n hn ih =>
    rw [startOf_succ, startOf_succ]
    -- two roundings up exceed one by at most a tile
    have join : (startOf size n + tile - 1) / tile + (size n + tile - 1) / tile ≤
        (startOf size n + size n + tile - 1) / tile + 1 := by
      have ha := Nat.div_mul_le_self (startOf size n + tile - 1) tile
      have hb := Nat.div_mul_le_self (size n + tile - 1) tile
      have hc := Nat.lt_div_mul_add (a := startOf size n + size n + tile - 1) ht
      by_contra hlt
      have hmul : ((startOf size n + size n + tile - 1) / tile + 2) * tile ≤
          ((startOf size n + tile - 1) / tile + (size n + tile - 1) / tile) * tile :=
        Nat.mul_le_mul_right tile (by omega)
      rw [Nat.add_mul, Nat.add_mul] at hmul
      omega
    omega

end LoomKernels
