import Mathlib.Data.List.Nodup
import Mathlib.Logic.Function.Basic
import LoomKernels.Lib.Loops

/-!
# Stores

A memory is a function from addresses to values. `applyWrites` runs a list of writes in order.
Two facts carry every later proof about memories: an address that no write names keeps its value
(`applyWrites_of_not_mem`), and an address that some write names holds the agreed value when all
writes agree with one function (`applyWrites_of_agree`). Neither looks at the order of the list,
so both hold of every interleaving.

`writeRange` is the inner loop `for c in 0..n { mem[offset + c] = f c }`. A loop whose passes write
consecutive rows fills a whole segment (`forRange_rows_apply`); one over distinct destinations
scatters its rows (`scatterRows_at`, `scatterRows_frame`).

`WrittenOnce` says that one address is written by exactly one thread of one block, once.
-/

namespace LoomKernels

/-! ## Lists of writes -/

section Writes

variable {A V : Type} [DecidableEq A]

/-- The memory after the writes of `ws`, in order. -/
def applyWrites (ws : List (A × V)) (mem : A → V) : A → V :=
  ws.foldl (fun mem w => Function.update mem w.1 w.2) mem

@[simp] theorem applyWrites_nil (mem : A → V) : applyWrites [] mem = mem := rfl

@[simp] theorem applyWrites_cons (w : A × V) (ws : List (A × V)) (mem : A → V) :
    applyWrites (w :: ws) mem = applyWrites ws (Function.update mem w.1 w.2) := rfl

theorem applyWrites_append (ws ws' : List (A × V)) (mem : A → V) :
    applyWrites (ws ++ ws') mem = applyWrites ws' (applyWrites ws mem) :=
  List.foldl_append

/-- A loop whose passes make lists of writes makes these lists one after the other. -/
theorem forRange_applyWrites (n : Nat) (ws : Nat → List (A × V)) (mem : A → V) :
    forRange 0 n (fun i mem => applyWrites (ws i) mem) mem =
      applyWrites ((List.range n).flatMap ws) mem := by
  induction n with
  | zero => rfl
  | succ n ih =>
    rw [forRange_succ (Nat.zero_le n), ih, List.range_succ, List.flatMap_append,
      List.flatMap_singleton, applyWrites_append]

/-- The frame of a list of writes: an address that none of them names is unchanged. -/
theorem applyWrites_of_not_mem {ws : List (A × V)} {mem : A → V} {a : A}
    (h : a ∉ ws.map Prod.fst) : applyWrites ws mem a = mem a := by
  induction ws generalizing mem with
  | nil => rfl
  | cons w ws ih =>
    rw [List.map_cons, List.mem_cons, not_or] at h
    rw [applyWrites_cons, ih h.2, Function.update_of_ne h.1]

/-- Writes that all give an address the value `v`, and name it, leave it there. -/
theorem applyWrites_of_value {ws : List (A × V)} {mem : A → V} {a : A} {v : V}
    (same : ∀ w ∈ ws, w.1 = a → w.2 = v) (named : a ∈ ws.map Prod.fst) :
    applyWrites ws mem a = v := by
  induction ws generalizing mem with
  | nil => simp at named
  | cons w ws ih =>
    rw [applyWrites_cons]
    by_cases later : a ∈ ws.map Prod.fst
    · exact ih (fun w' h => same w' (List.mem_cons_of_mem _ h)) later
    · have here : a = w.1 := by
        rw [List.map_cons, List.mem_cons] at named
        exact named.resolve_right later
      rw [applyWrites_of_not_mem later, here, Function.update_self,
        same w List.mem_cons_self here.symm]

/-- Writes that all agree with `f` leave `f a` at every address they name. -/
theorem applyWrites_of_agree {ws : List (A × V)} {mem : A → V} {f : A → V} {a : A}
    (agree : ∀ w ∈ ws, w.2 = f w.1) (named : a ∈ ws.map Prod.fst) :
    applyWrites ws mem a = f a :=
  applyWrites_of_value (fun w hw here => by rw [agree w hw, here]) named

/-- What an address holds after a write to it does not depend on what it held before. -/
theorem applyWrites_of_named {ws : List (A × V)} {a : A} (named : a ∈ ws.map Prod.fst)
    (mem mem' : A → V) : applyWrites ws mem a = applyWrites ws mem' a := by
  induction ws generalizing mem mem' with
  | nil => simp at named
  | cons w ws ih =>
    rw [applyWrites_cons, applyWrites_cons]
    by_cases later : a ∈ ws.map Prod.fst
    · exact ih later _ _
    · have here : a = w.1 := by
        rw [List.map_cons, List.mem_cons] at named
        exact named.resolve_right later
      rw [applyWrites_of_not_mem later, applyWrites_of_not_mem later, here, Function.update_self,
        Function.update_self]

/-- Writes to distinct addresses can be made in any order. -/
theorem applyWrites_perm {ws ws' : List (A × V)} (perm : ws.Perm ws')
    (distinct : (ws.map Prod.fst).Nodup) (mem : A → V) : applyWrites ws mem = applyWrites ws' mem := by
  refine perm.foldl_eq' (fun w hw w' hw' mem => ?_) mem
  by_cases same : w.1 = w'.1
  · rw [List.inj_on_of_nodup_map distinct hw hw' same]
  · exact Function.update_comm same _ _ _

/-- The value of the last write to an address. -/
def lastWrite : List (A × V) → A → Option V
  | [], _ => none
  | w :: ws, a => (lastWrite ws a).or (if w.1 = a then some w.2 else none)

/-- An address holds the value of the last write to it, or what it held before. -/
theorem applyWrites_eq_lastWrite (ws : List (A × V)) (mem : A → V) (a : A) :
    applyWrites ws mem a = (lastWrite ws a).getD (mem a) := by
  induction ws generalizing mem with
  | nil => rfl
  | cons w ws ih =>
    rw [applyWrites_cons, ih, lastWrite]
    cases lastWrite ws a with
    | some v => rfl
    | none =>
      rw [Option.none_or, Option.getD_none, Function.update_apply]
      by_cases here : w.1 = a
      · rw [if_pos here, if_pos here.symm, Option.getD_some]
      · rw [if_neg here, if_neg fun same => here same.symm, Option.getD_none]

theorem applyWrites_of_lastWrite {ws : List (A × V)} {a : A} {v : V}
    (last : lastWrite ws a = some v) (mem : A → V) : applyWrites ws mem a = v := by
  rw [applyWrites_eq_lastWrite, last, Option.getD_some]

end Writes

/-! ## Rows -/

section Rows

variable {V : Type}

/-- `for c in 0..n { mem[offset + c] = f c }`. -/
def writeRange (offset n : Nat) (f : Nat → V) (mem : Nat → V) : Nat → V :=
  forRange 0 n (fun c mem => Function.update mem (offset + c) (f c)) mem

theorem writeRange_eq_applyWrites (offset n : Nat) (f : Nat → V) (mem : Nat → V) :
    writeRange offset n f mem =
      applyWrites ((List.range n).map fun c => (offset + c, f c)) mem := by
  rw [List.map_eq_flatMap, ← forRange_applyWrites]
  rfl

theorem writeRange_apply (offset n : Nat) (f : Nat → V) (mem : Nat → V) (i : Nat) :
    writeRange offset n f mem i = if offset ≤ i ∧ i < offset + n then f (i - offset) else mem i := by
  refine forRange_invariant
    (P := fun k (m : Nat → V) => m i = if offset ≤ i ∧ i < offset + k then f (i - offset) else mem i)
    (Nat.zero_le n) ?_ ?_
  · rw [if_neg (by omega)]
  · intro c m _ _ hm
    by_cases here : i = offset + c
    · rw [here, Function.update_self, if_pos (by omega), Nat.add_sub_cancel_left]
    · rw [Function.update_of_ne here, hm]
      by_cases before : offset ≤ i ∧ i < offset + c
      · rw [if_pos before, if_pos (by omega)]
      · rw [if_neg before, if_neg (by omega)]

/-- Row `r` of length `n` holds the entries of the flat index that divide to `r`. -/
theorem mem_row_iff {n r i : Nat} (hn : 0 < n) : (r * n ≤ i ∧ i < r * n + n) ↔ i / n = r := by
  rw [Nat.div_eq_iff hn]
  omega

theorem sub_row_eq_mod {n r i : Nat} (h : i / n = r) : i - r * n = i % n := by
  have := Nat.div_add_mod i n
  rw [h, Nat.mul_comm] at this
  omega

theorem lt_rows_iff {n rows i : Nat} (hn : 0 < n) : i / n < rows ↔ i < rows * n :=
  Nat.div_lt_iff_lt_mul hn

/-- A loop whose pass `r` writes row `r` fills the segment from the first row to the last. -/
theorem forRange_rows_apply {n lo hi : Nat} (h : lo ≤ hi) {write : Nat → (Nat → V) → Nat → V}
    {f : Nat → Nat → V}
    (row : ∀ r mem i, write r mem i = if i / n = r then f r (i % n) else mem i) (mem : Nat → V)
    (i : Nat) :
    forRange lo hi write mem i =
      if lo ≤ i / n ∧ i / n < hi then f (i / n) (i % n) else mem i := by
  refine forRange_invariant
    (P := fun k (m : Nat → V) => m i = if lo ≤ i / n ∧ i / n < k then f (i / n) (i % n) else mem i) h ?_ ?_
  · rw [if_neg (by omega)]
  · intro r m hl _ hm
    rw [row]
    by_cases here : i / n = r
    · rw [if_pos here, if_pos (by omega), here]
    · rw [if_neg here, hm]
      by_cases before : lo ≤ i / n ∧ i / n < r
      · rw [if_pos before, if_pos (by omega)]
      · rw [if_neg before, if_neg (by omega)]

/-- `writeRange` on a whole row. -/
theorem writeRow_apply {n : Nat} (hn : 0 < n) (r : Nat) (f : Nat → V) (mem : Nat → V) (i : Nat) :
    writeRange (r * n) n f mem i = if i / n = r then f (i % n) else mem i := by
  rw [writeRange_apply]
  by_cases here : i / n = r
  · rw [if_pos ((mem_row_iff hn).mpr here), if_pos here, sub_row_eq_mod here]
  · rw [if_neg fun hr => here ((mem_row_iff hn).mp hr), if_neg here]

/-- A loop that scatters rows: an element of no destination row is unchanged. -/
theorem scatterRows_frame {n rows : Nat} (hn : 0 < n) {dest : Nat → Nat} {f : Nat → Nat → V}
    {mem : Nat → V} {i : Nat} (h : ∀ r < rows, i / n ≠ dest r) :
    forRange 0 rows (fun r mem => writeRange (dest r * n) n (f r) mem) mem i = mem i := by
  refine forRange_invariant (P := fun _ (m : Nat → V) => m i = mem i) (Nat.zero_le rows) rfl ?_
  intro r m _ hr hm
  rw [writeRow_apply hn, if_neg (h r hr), hm]

/-- A loop that scatters rows to distinct destinations: every row is found at its own. -/
theorem scatterRows_at {n rows : Nat} (hn : 0 < n) {dest : Nat → Nat} {f : Nat → Nat → V}
    {mem : Nat → V} (distinct : ∀ r < rows, ∀ r' < rows, dest r = dest r' → r = r') {r : Nat}
    (hr : r < rows) {i : Nat} (hi : i / n = dest r) :
    forRange 0 rows (fun r mem => writeRange (dest r * n) n (f r) mem) mem i = f r (i % n) := by
  suffices h : r < rows →
      forRange 0 rows (fun r mem => writeRange (dest r * n) n (f r) mem) mem i = f r (i % n) from
    h hr
  refine forRange_invariant (P := fun k (m : Nat → V) => r < k → m i = f r (i % n))
    (Nat.zero_le rows) (fun h => by omega) ?_
  intro k m _ hk hm hlt
  rw [writeRow_apply hn]
  by_cases here : r = k
  · rw [if_pos (by rw [hi, here]), here]
  · rw [if_neg fun h => here (distinct r hr k hk (hi ▸ h)), hm (by omega)]

theorem row_div {rows n c : Nat} (h : c < n) : (rows * n + c) / n = rows := by
  rw [Nat.mul_comm, Nat.mul_add_div (Nat.zero_lt_of_lt h), Nat.div_eq_of_lt h, Nat.add_zero]

theorem row_mod {rows n c : Nat} (h : c < n) : (rows * n + c) % n = c := by
  rw [Nat.mul_comm, Nat.mul_add_mod, Nat.mod_eq_of_lt h]

/-- Row-major offsets stay below the size of the array. -/
theorem rowMajor_lt {rows n r c : Nat} (hr : r < rows) (hc : c < n) : r * n + c < rows * n := by
  calc r * n + c < r * n + n := by omega
    _ = (r + 1) * n := by rw [Nat.add_mul, Nat.one_mul]
    _ ≤ rows * n := Nat.mul_le_mul_right n hr

end Rows

/-! ## Writers -/

section Writers

variable {A V : Type}

/-- All writes of a launch, block after block and thread after thread. -/
def gridWrites (blocks threads : Nat) (writes : Nat → Nat → List (A × V)) : List (A × V) :=
  (List.range blocks).flatMap fun block => (List.range threads).flatMap (writes block)

theorem mem_gridWrites {blocks threads : Nat} {writes : Nat → Nat → List (A × V)} {w : A × V} :
    w ∈ gridWrites blocks threads writes ↔
      ∃ block < blocks, ∃ thread < threads, w ∈ writes block thread := by
  simp [gridWrites, List.mem_flatMap]

/-- A launch is determined by what its own threads write. -/
theorem gridWrites_congr {blocks threads : Nat} {writes writes' : Nat → Nat → List (A × V)}
    (same : ∀ block < blocks, ∀ thread < threads, writes block thread = writes' block thread) :
    gridWrites blocks threads writes = gridWrites blocks threads writes' :=
  List.flatMap_congr fun block hb => List.flatMap_congr fun thread ht =>
    same block (List.mem_range.mp hb) thread (List.mem_range.mp ht)

/-- Exactly one thread of exactly one block writes `a`, and it does so once. -/
def WrittenOnce [DecidableEq A] (blocks threads : Nat) (writes : Nat → Nat → List (A × V))
    (a : A) : Prop :=
  ∃ block < blocks, ∃ thread < threads,
    ((writes block thread).map Prod.fst).count a = 1 ∧
    ∀ block' < blocks, ∀ thread' < threads,
      a ∈ (writes block' thread').map Prod.fst → block' = block ∧ thread' = thread

theorem WrittenOnce.named [DecidableEq A] {blocks threads : Nat}
    {writes : Nat → Nat → List (A × V)} {a : A} (once : WrittenOnce blocks threads writes a)
    {order : List (A × V)} (perm : order.Perm (gridWrites blocks threads writes)) :
    a ∈ order.map Prod.fst := by
  obtain ⟨block, hb, thread, ht, count, -⟩ := once
  obtain ⟨w, hw, rfl⟩ := List.mem_map.mp (List.count_pos_iff.mp (by rw [count]; exact Nat.one_pos))
  exact List.mem_map.mpr ⟨w, perm.mem_iff.mpr (mem_gridWrites.mpr ⟨block, hb, thread, ht, hw⟩), rfl⟩

/-- An address that one thread names alone, and without repetition, is written once. -/
theorem writtenOnce_of_owner [DecidableEq A] {blocks threads : Nat}
    {writes : Nat → Nat → List (A × V)} {a : A} {block thread : Nat} (hb : block < blocks)
    (ht : thread < threads) (nodup : ((writes block thread).map Prod.fst).Nodup)
    (own : ∀ block' < blocks, ∀ thread' < threads,
      a ∈ (writes block' thread').map Prod.fst ↔ block' = block ∧ thread' = thread) :
    WrittenOnce blocks threads writes a :=
  ⟨block, hb, thread, ht, List.count_eq_one_of_mem nodup ((own block hb thread ht).mpr ⟨rfl, rfl⟩),
    fun block' hb' thread' ht' => (own block' hb' thread' ht').mp⟩

/-- When every thread writes the row of its own number, without repetition, every element of the
rows is written once. -/
theorem writtenOnce_rows {blocks threads n : Nat} (hn : 0 < n) {writes : Nat → Nat → List (Nat × V)}
    (nodup : ∀ block < blocks, ∀ thread < threads, ((writes block thread).map Prod.fst).Nodup)
    (own : ∀ block < blocks, ∀ thread < threads, ∀ a,
      a ∈ (writes block thread).map Prod.fst ↔ a / n = block * threads + thread)
    {a : Nat} (ha : a < blocks * threads * n) : WrittenOnce blocks threads writes a := by
  have row : a / n < blocks * threads := (lt_rows_iff hn).mpr ha
  have positive : 0 < threads := Nat.pos_of_mul_pos_left (Nat.zero_lt_of_lt row)
  have hb : a / n / threads < blocks := (lt_rows_iff positive).mpr row
  have ht : a / n % threads < threads := Nat.mod_lt _ positive
  refine writtenOnce_of_owner hb ht (nodup _ hb _ ht) fun block hb' thread ht' => ?_
  rw [own block hb' thread ht']
  constructor
  · intro here
    rw [here, row_div ht', row_mod ht']
    exact ⟨rfl, rfl⟩
  · rintro ⟨rfl, rfl⟩
    exact (Nat.div_add_mod' (a / n) threads).symm

/-- An address written once holds the value that its writer gives it, in any order. -/
theorem WrittenOnce.value [DecidableEq A] {blocks threads : Nat}
    {writes : Nat → Nat → List (A × V)} {a : A} {v : V} (once : WrittenOnce blocks threads writes a)
    (same : ∀ block < blocks, ∀ thread < threads, ∀ w ∈ writes block thread, w.1 = a → w.2 = v)
    {order : List (A × V)} (perm : order.Perm (gridWrites blocks threads writes)) (before : A → V) :
    applyWrites order before a = v := by
  refine applyWrites_of_value (fun w hw => ?_) (once.named perm)
  obtain ⟨block, hb, thread, ht, hw⟩ := mem_gridWrites.mp (perm.mem_iff.mp hw)
  exact same block hb thread ht w hw

/-- An address written once, by writes that agree with one function, holds its value after them in
any order. -/
theorem WrittenOnce.final [DecidableEq A] {blocks threads : Nat}
    {writes : Nat → Nat → List (A × V)} {a : A} {f : A → V}
    (once : WrittenOnce blocks threads writes a)
    (agree : ∀ block < blocks, ∀ thread < threads, ∀ w ∈ writes block thread, w.2 = f w.1)
    {order : List (A × V)} (perm : order.Perm (gridWrites blocks threads writes)) (before : A → V) :
    applyWrites order before a = f a :=
  once.value (fun block hb thread ht w hw here => by rw [agree block hb thread ht w hw, here]) perm
    before

end Writers

end LoomKernels
