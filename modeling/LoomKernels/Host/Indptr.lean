import LoomKernels.Host.Contract
import LoomKernels.Lib.Cuts

/-!
# Index pointers

An indptr array of `count + 1` entries cuts `total` rows into one range for each request.
`IndptrWellFormed` says that it starts at zero, grows strictly and ends at the total; over such an
array every cast to `usize` is exact, and every row belongs to exactly one request
(`existsUnique_request`).
-/

namespace LoomKernels

/-- What the validators check of an indptr array. -/
structure IndptrWellFormed (count total : Nat) (indptr : Slice Int32) : Prop where
  len : indptr.len = count + 1
  start : indptr.int 0 = 0
  increasing : ∀ request < count, indptr.int request < indptr.int (request + 1)
  total : indptr.int count = total

/-- The first row of a request. -/
def indptrStart (indptr : Slice Int32) (request : Nat) : Nat := (indptr.int request).toNat

/-- The number of rows of a request. -/
def indptrLen (indptr : Slice Int32) (request : Nat) : Nat :=
  indptrStart indptr (request + 1) - indptrStart indptr request

/-- The request that a row belongs to: the first one that ends behind it. -/
def requestOf (indptr : Slice Int32) (count row : Nat) : Nat :=
  (List.range count).findIdx fun request => row < indptrStart indptr (request + 1)

/-- The cast of a nonnegative entry is exact. -/
theorem asUsize_int {indptr : Slice Int32} {i : Nat} (h : 0 ≤ indptr.int i) :
    asUsize (indptr.int i) = indptrStart indptr i := by
  have := asUsize_of_nonneg h (indptr.int_lt i)
  unfold indptrStart
  omega

/-- The cast of the difference of two ascending entries is exact. -/
theorem asUsize_int_sub {indptr : Slice Int32} {request : Nat} (h : 0 ≤ indptr.int request)
    (increasing : indptr.int request < indptr.int (request + 1)) :
    asUsize (indptr.int (request + 1) - indptr.int request) = indptrLen indptr request := by
  have := indptr.int_lt (request + 1)
  have := asUsize_of_nonneg (x := indptr.int (request + 1) - indptr.int request) (by omega)
    (by omega)
  unfold indptrLen indptrStart
  omega

namespace IndptrWellFormed

variable {count total : Nat} {indptr : Slice Int32} (valid : IndptrWellFormed count total indptr)
include valid

theorem int_nonneg {request : Nat} (h : request ≤ count) : 0 ≤ indptr.int request := by
  induction request with
  | zero => rw [valid.start]
  | succ request ih => exact (ih (by omega)).trans (valid.increasing request h).le

theorem int_le_total {request : Nat} (h : request ≤ count) : indptr.int request ≤ total := by
  induction h using Nat.decreasingInduction with
  | self => rw [valid.total]
  | of_succ request h ih => exact (valid.increasing request h).le.trans ih

theorem int_eq_start {request : Nat} (h : request ≤ count) :
    indptr.int request = indptrStart indptr request :=
  (Int.toNat_of_nonneg (valid.int_nonneg h)).symm

theorem asUsize_eq_start {request : Nat} (h : request ≤ count) :
    asUsize (indptr.int request) = indptrStart indptr request :=
  asUsize_int (valid.int_nonneg h)

/-- The length of a request, as the source computes it from the casts. -/
theorem asUsize_len {request : Nat} (h : request < count) :
    asUsize (indptr.int (request + 1) - indptr.int request) = indptrLen indptr request :=
  asUsize_int_sub (valid.int_nonneg h.le) (valid.increasing request h)

theorem start_zero : indptrStart indptr 0 = 0 := by
  rw [indptrStart, valid.start]
  rfl

theorem start_total : indptrStart indptr count = total := by
  rw [indptrStart, valid.total]
  rfl

theorem start_lt {request : Nat} (h : request < count) :
    indptrStart indptr request < indptrStart indptr (request + 1) := by
  have := valid.increasing request h
  have := valid.int_eq_start h.le
  have := valid.int_eq_start (show request + 1 ≤ count from h)
  omega

theorem start_le_total {request : Nat} (h : request ≤ count) :
    indptrStart indptr request ≤ total := by
  have := valid.int_le_total h
  have := valid.int_eq_start h
  omega

theorem total_lt : total < 2 ^ 31 := by
  have := valid.total
  have := indptr.int_lt count
  omega

theorem len_pos {request : Nat} (h : request < count) : 0 < indptrLen indptr request := by
  have := valid.start_lt h
  unfold indptrLen
  omega

/-- Every request owns a row. -/
theorem count_le_total : count ≤ total := by
  have owns : ∀ request ≤ count, request ≤ indptrStart indptr request := by
    intro request hr
    induction request with
    | zero => exact Nat.zero_le _
    | succ request ih =>
      have := ih (by omega)
      have := valid.start_lt hr
      omega
  have := owns count le_rfl
  rwa [valid.start_total] at this

/-- Every row belongs to exactly one request. -/
theorem existsUnique_request {row : Nat} (h : row < total) :
    ∃! request, request < count ∧ indptrStart indptr request ≤ row ∧
      row < indptrStart indptr (request + 1) :=
  existsUnique_cell (fun _ hr => (valid.start_lt hr).le) (by rw [valid.start_zero]; exact Nat.zero_le _)
    (by rwa [valid.start_total])

theorem start_mono {i j : Nat} (h : i ≤ j) (hj : j ≤ count) :
    indptrStart indptr i ≤ indptrStart indptr j :=
  cut_le_cut (fun _ hr => (valid.start_lt hr).le) h hj

theorem requestOf_eq {request row : Nat} (h : request < count)
    (lo : indptrStart indptr request ≤ row) (hi : row < indptrStart indptr (request + 1)) :
    requestOf indptr count row = request := by
  rw [requestOf, List.findIdx_eq (by simpa using h)]
  refine ⟨by simpa using hi, fun j hj => ?_⟩
  have := valid.start_mono (show j + 1 ≤ request from hj) h.le
  simpa using this.trans lo

/-- The rows of the request of a row. -/
theorem requestOf_spec {row : Nat} (h : row < total) :
    requestOf indptr count row < count ∧ indptrStart indptr (requestOf indptr count row) ≤ row ∧
      row < indptrStart indptr (requestOf indptr count row + 1) := by
  obtain ⟨request, ⟨hr, lo, hi⟩, _⟩ := valid.existsUnique_request h
  rw [valid.requestOf_eq hr lo hi]
  exact ⟨hr, lo, hi⟩

end IndptrWellFormed

end LoomKernels
