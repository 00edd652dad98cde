import LoomKernels.Host.Indptr

/-!
# Device code

Kernel code is modelled for one thread of one block. A read outside an array, a `usize` subtraction
below zero and a floating-point difference without a value are faults, so that a kernel that returns
has met none of them. A value that lanes exchange is a function of the lane; between two barriers,
shared memory is a function as well.
-/

namespace LoomKernels

/-- `WARP_THREADS` -/
abbrev warpThreads : Nat := 32

/-- `LaunchConfig1D`, without the dynamic shared memory, of which no launch has any. -/
structure LaunchConfig1D where
  grid : Nat
  block : Nat
  deriving DecidableEq, Repr

/-- What stops a thread. -/
inductive DeviceFault where
  | outOfBounds (index len : Nat)
  | underflow (minuend subtrahend : Nat)
  | indeterminate
  deriving DecidableEq, Repr

/-- The result of a thread's code. -/
abbrev DeviceM := Except DeviceFault

/-- `array[index]` of an `i32` array. -/
def Slice.read (array : Slice Int32) (index : Nat) : DeviceM Int :=
  if index < array.len then .ok (array.int index) else .error (.outOfBounds index array.len)

/-- `a - b` of two `usize` values. -/
def subUsize (a b : Nat) : DeviceM Nat := if b ≤ a then .ok (a - b) else .error (.underflow a b)

theorem Slice.read_ok {array : Slice Int32} {index : Nat} (h : index < array.len) :
    array.read index = .ok (array.int index) :=
  if_pos h

theorem Slice.read_eq_ok {array : Slice Int32} {index : Nat} {v : Int}
    (h : array.read index = .ok v) : v = array.int index := by
  unfold Slice.read at h
  split at h
  · exact (Except.ok.inj h).symm
  · cases h

theorem subUsize_ok {a b : Nat} (h : b ≤ a) : subUsize a b = .ok (a - b) := if_pos h

/-- `warp::any(value)` of the lanes of one warp. -/
def warpAny (value : Nat → Bool) (warp : Nat) : Bool :=
  (List.range warpThreads).any fun lane => value (warp * warpThreads + lane)

theorem warpAny_eq_true {value : Nat → Bool} {warp : Nat} :
    warpAny value warp = true ↔ ∃ lane < warpThreads, value (warp * warpThreads + lane) = true := by
  simp [warpAny]

/-- A vote of two warps: some thread of the block has the value. -/
theorem warpAny_two {value : Nat → Bool} :
    (warpAny value 0 || warpAny value 1) = true ↔ ∃ thread < 2 * warpThreads, value thread = true := by
  rw [Bool.or_eq_true, warpAny_eq_true, warpAny_eq_true]
  constructor
  · rintro (⟨lane, hl, h⟩ | ⟨lane, hl, h⟩)
    · exact ⟨lane, by omega, by simpa using h⟩
    · exact ⟨1 * warpThreads + lane, by omega, h⟩
  · rintro ⟨thread, ht, h⟩
    by_cases first : thread < warpThreads
    · exact Or.inl ⟨thread, first, by simpa using h⟩
    · refine Or.inr ⟨thread - warpThreads, by omega, ?_⟩
      rwa [show 1 * warpThreads + (thread - warpThreads) = thread by omega]

/-- `warp::all(value)` of the lanes of one warp. -/
def warpAll (value : Nat → Bool) (warp : Nat) : Bool :=
  (List.range warpThreads).all fun lane => value (warp * warpThreads + lane)

/-- A vote of all warps: every thread of the block has the value. -/
theorem warpAll_block {value : Nat → Bool} {warps : Nat} :
    (List.range warps).all (warpAll value) = true ↔
      ∀ thread < warps * warpThreads, value thread = true := by
  simp only [warpAll, List.all_eq_true, List.mem_range]
  constructor
  · intro h thread ht
    rw [← Nat.div_add_mod' thread warpThreads]
    exact h _ ((lt_rows_iff (by decide)).mpr ht) _ (Nat.mod_lt _ (by decide))
  · intro h warp hw lane hl
    exact h _ (rowMajor_lt hw hl)

/-- `n as i32` of a `usize`. -/
def asI32 (n : Nat) : Int := (n : Int).bmod (2 ^ 32)

theorem asI32_of_lt {n : Nat} (h : n < 2 ^ 31) : asI32 n = n :=
  Int.bmod_eq_of_le (by omega) (by omega)

section Indptr

variable {count total : Nat} {indptr : Slice Int32} (valid : IndptrWellFormed count total indptr)
include valid

theorem IndptrWellFormed.read_ok {request : Nat} (h : request ≤ count) :
    indptr.read request = .ok (indptr.int request) := by
  have := valid.len
  exact Slice.read_ok (by omega)

/-- The check of the last entry passes. -/
theorem IndptrWellFormed.last : indptr.int count = asI32 total := by
  rw [asI32_of_lt valid.total_lt, valid.total]

end Indptr

end LoomKernels
