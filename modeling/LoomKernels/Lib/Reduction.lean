import Mathlib.Algebra.BigOperators.Group.Finset.Basic
import Mathlib.Data.List.Nodup
import LoomKernels.Lib.Loops

/-!
# Reductions

Sums that several workers compute together. Each worker adds the terms of its stride to an accumulator
(`foldl_add`), and the partial sums are added in groups (`sum_groups`). The strides of all workers are
a permutation of the indices (`strided_perm`), so every term is added once (`sum_partition`).
-/

namespace LoomKernels

/-! ## Strides -/

theorem strided_nodup {start step bound : Nat} (hstep : 0 < step) :
    (strided start step bound).Nodup := by
  refine List.nodup_range.map fun k k' same => ?_
  exact Nat.eq_of_mul_eq_mul_right hstep (Nat.add_left_cancel same)

/-- A worker meets the indices that leave its own number as remainder. -/
theorem mem_strided_worker {worker workers bound i : Nat} (hw : worker < workers) :
    i ∈ strided worker workers bound ↔ i < bound ∧ i % workers = worker := by
  rw [mem_strided (Nat.zero_lt_of_lt hw)]
  constructor
  · rintro ⟨first, last, step⟩
    have shape : i = i - worker + worker := by omega
    rw [shape, Nat.add_mod, step, Nat.zero_add, Nat.mod_mod, Nat.mod_eq_of_lt hw]
    exact ⟨by omega, rfl⟩
  · rintro ⟨last, rfl⟩
    refine ⟨Nat.mod_le i workers, last, ?_⟩
    rw [← Nat.dvd_iff_mod_eq_zero]
    exact Nat.dvd_sub_mod i

/-- The strides of all workers hold every index once. -/
theorem strided_perm {workers : Nat} (hw : 0 < workers) (bound : Nat) :
    ((List.range workers).flatMap fun worker => strided worker workers bound).Perm
      (List.range bound) := by
  refine (List.perm_ext_iff_of_nodup (List.nodup_flatMap.mpr ⟨?_, ?_⟩) List.nodup_range).mpr ?_
  · exact fun worker _ => strided_nodup hw
  · refine List.Pairwise.imp_of_mem (fun {worker worker'} mem mem' ne => ?_) List.nodup_range
    rw [Function.onFun, List.disjoint_left]
    intro i hi hi'
    rw [mem_strided_worker (List.mem_range.mp mem)] at hi
    rw [mem_strided_worker (List.mem_range.mp mem')] at hi'
    exact ne (hi.2.symm.trans hi'.2)
  · intro i
    rw [List.mem_flatMap, List.mem_range]
    constructor
    · rintro ⟨worker, _, hi⟩
      exact lt_of_mem_strided hw hi
    · intro hi
      obtain ⟨worker, lt, mem⟩ := exists_mem_strided hw hi
      exact ⟨worker, List.mem_range.mpr lt, mem⟩

/-! ## Sums -/

section Sums

variable {K : Type} [AddCommMonoid K] (f : Nat → K)

theorem foldl_add (xs : List Nat) (start : K) :
    xs.foldl (fun sum i => sum + f i) start = start + (xs.map f).sum := by
  induction xs generalizing start with
  | nil => simp
  | cons i xs ih => rw [List.foldl_cons, ih, List.map_cons, List.sum_cons, add_assoc]

theorem forRange_sum (n : Nat) :
    forRange 0 n (fun i sum => sum + f i) 0 = ∑ i ∈ Finset.range n, f i := by
  refine forRange_invariant (P := fun n sum => sum = ∑ i ∈ Finset.range n, f i) (Nat.zero_le n) rfl ?_
  rintro i _ _ _ rfl
  exact (Finset.sum_range_succ f i).symm

/-- The sum of the sums of consecutive groups. -/
theorem sum_groups (groups size : Nat) :
    ∑ group ∈ Finset.range groups, ∑ i ∈ Finset.range size, f (group * size + i) =
      ∑ i ∈ Finset.range (groups * size), f i := by
  induction groups with
  | zero => simp
  | succ groups ih =>
    rw [Finset.sum_range_succ, ih, Nat.succ_mul, Finset.sum_range_add]

/-- A sum over a segment whose terms behind `n` vanish. -/
theorem sum_range_ite {n total : Nat} (h : n ≤ total) :
    ∑ i ∈ Finset.range total, (if i < n then f i else 0) = ∑ i ∈ Finset.range n, f i := by
  rw [← Finset.sum_filter]
  congr 1
  ext i
  simp only [Finset.mem_filter, Finset.mem_range]
  omega

theorem sum_range_list (n : Nat) :
    ∑ i ∈ Finset.range n, f i = ((List.range n).map f).sum :=
  rfl

/-- Workers whose lists hold every index once add every term once. -/
theorem sum_partition {workers bound : Nat} {indices : Nat → List Nat}
    (once : ((List.range workers).flatMap indices).Perm (List.range bound)) :
    ∑ worker ∈ Finset.range workers, ((indices worker).map f).sum =
      ∑ i ∈ Finset.range bound, f i := by
  calc ∑ worker ∈ Finset.range workers, ((indices worker).map f).sum
      = (((List.range workers).flatMap indices).map f).sum := by
        rw [sum_range_list, List.map_flatMap, List.flatMap_def, List.sum_flatten, List.map_map]
        rfl
    _ = ∑ i ∈ Finset.range bound, f i := (once.map f).sum_eq

end Sums

end LoomKernels
