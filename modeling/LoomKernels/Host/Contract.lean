import LoomKernels.Lib.ExactExp
import LoomKernels.Lib.LogSumExp
import LoomKernels.Lib.Store

/-!
# Contracts of the host crate

What every operator of the host crate shares: the errors of a contract, checked `usize` arithmetic,
length checks, borrowed arrays, and the floating-point operations the references are written with.

Floating point is a parameter. `FloatOps F B` lists the operations on `f32` (`F`) and `bf16` (`B`)
values that the references use; `exactOps K` reads them as exact arithmetic over an ordered field.
-/

namespace LoomKernels

/-! ## Errors -/

/-- Element type stored by an operator tensor. -/
inductive DType where
  | f32
  | f16
  | bf16
  deriving DecidableEq, Repr

/-- The errors of the modelled contracts. An `f32` payload is its bit pattern. -/
inductive ContractError where
  | zeroDimension
  | elementCountOverflow
  | unsupportedHeadDimension (expected actual : Nat)
  | unsupportedPageSize (expected actual : Nat)
  | invalidHeadMapping (queryHeads kvHeads : Nat)
  | invalidPartitionCount (partitions kvLen : Nat)
  | invalidIndptrStart (buffer : String) (actual : Int)
  | nonMonotonicIndptr (buffer : String) (request : Nat) (start stop : Int)
  | emptyRaggedRequest (buffer : String) (request : Nat)
  | raggedQueryLongerThanKv (request queryLen kvLen : Nat)
  | invalidPageIndptrStart (actual : Int)
  | nonMonotonicPageIndptr (request : Nat) (start stop : Int)
  | emptyPagedRequest (request : Nat)
  | pageIndexOutOfRange (position : Nat) (index : Int) (maxNumPages : Nat)
  | invalidLastPageLength (request : Nat) (length : Int) (pageSize : Nat)
  | invalidEpsilon (bits : UInt32)
  | invalidRotaryDimension (rotaryDim headDim : Nat)
  | invalidRopeScale (bits : UInt32)
  | invalidRopeTheta (bits : UInt32)
  | negativePositionId (token : Nat) (position : Int)
  | unsupportedAppendTokenCount (maximum actual : Nat)
  | appendBatchIndexOutOfRange (token : Nat) (index : Int) (batchSize : Nat)
  | appendPositionOutOfRange (token request : Nat) (position : Int) (kvLen : Nat)
  | duplicatePageAppendSlot (firstRequest secondRequest physicalPage offset : Nat)
  | duplicatePageAppendTokenSlot (firstToken secondToken physicalPage offset : Nat)
  | unsupportedDType (dtype : DType)
  | lengthMismatch (buffer : String) (expected actual : Nat)
  deriving DecidableEq, Repr

/-- A host function stops with a contract error, or panics in an `expect`. -/
inductive HostFailure where
  | contract (error : ContractError)
  | panic (message : String)
  deriving DecidableEq, Repr

/-- The result of a host function. -/
abbrev Host := Except HostFailure

section Host

variable {α β : Type}

def fail (error : ContractError) : Host α := .error (.contract error)

/-- `option.ok_or(error)?` -/
def okOr (option : Option α) (error : ContractError) : Host α :=
  match option with
  | some a => .ok a
  | none => fail error

/-- `option.expect(message)` -/
def expect (option : Option α) (message : String) : Host α :=
  match option with
  | some a => .ok a
  | none => .error (.panic message)

/-- `if !condition { return Err(error) }` -/
def ensure (condition : Prop) [Decidable condition] (error : ContractError) : Host Unit :=
  if condition then .ok () else fail error

def requireLen (buffer : String) (actual expected : Nat) : Host Unit :=
  ensure (actual = expected) (.lengthMismatch buffer expected actual)

@[simp] theorem okOr_some (a : α) (error : ContractError) : okOr (some a) error = .ok a := rfl

@[simp] theorem expect_some (a : α) (message : String) : expect (some a) message = .ok a := rfl

theorem okOr_eq_ok {option : Option α} {error : ContractError} {a : α} :
    okOr option error = .ok a ↔ option = some a := by
  cases option <;> simp [okOr, fail]

theorem okOr_bind_eq_ok {option : Option α} {error : ContractError} {f : α → Host β} {b : β} :
    (okOr option error >>= f) = .ok b ↔ ∃ a, option = some a ∧ f a = .ok b := by
  simp only [bind_eq_ok, okOr_eq_ok]

theorem ensure_eq_ok {condition : Prop} [Decidable condition] {error : ContractError} :
    ensure condition error = .ok () ↔ condition := by
  unfold ensure
  split <;> simp [fail, *]

theorem requireLen_eq_ok {buffer : String} {actual expected : Nat} :
    requireLen buffer actual expected = .ok () ↔ actual = expected :=
  ensure_eq_ok

end Host

/-! ## Machine integers -/

/-- `usize` has 64 bits. -/
abbrev usizeSize : Nat := 2 ^ 64

def checkedAdd (a b : Nat) : Option Nat := if a + b < usizeSize then some (a + b) else none

def checkedMul (a b : Nat) : Option Nat := if a * b < usizeSize then some (a * b) else none

theorem checkedMul_eq_some {a b c : Nat} :
    checkedMul a b = some c ↔ a * b < usizeSize ∧ a * b = c := by
  unfold checkedMul
  split <;> simp [*]

theorem checkedAdd_eq_some {a b c : Nat} :
    checkedAdd a b = some c ↔ a + b < usizeSize ∧ a + b = c := by
  unfold checkedAdd
  split <;> simp [*]

theorem checkedMul_of_lt {a b : Nat} (h : a * b < usizeSize) : checkedMul a b = some (a * b) :=
  if_pos h

theorem checkedAdd_of_lt {a b : Nat} (h : a + b < usizeSize) : checkedAdd a b = some (a + b) :=
  if_pos h

/-- `usize::try_from(x)` of an `i32`. -/
def usizeTryFrom (x : Int) : Option Nat := if 0 ≤ x then some x.toNat else none

/-- `x as usize` of an `i32`: the sign bit is extended. -/
def asUsize (x : Int) : Nat := (x % 2 ^ 64).toNat

/-- `i32::try_from(n)` of a `usize`. -/
def i32TryFrom (n : Nat) : Option Int32 := if n < 2 ^ 31 then some (Int32.ofNat n) else none

theorem usizeTryFrom_eq_some {x : Int} {n : Nat} :
    usizeTryFrom x = some n ↔ x = n := by
  unfold usizeTryFrom
  split <;> simp <;> omega

theorem i32TryFrom_eq_some {n : Nat} {x : Int32} : i32TryFrom n = some x ↔ x.toInt = n := by
  unfold i32TryFrom
  split
  · rename_i h
    rw [Option.some.injEq, ← Int32.toInt_inj, Int32.toInt_ofNat_of_lt h, eq_comm]
  · have := x.toInt_lt
    simp
    omega

theorem asUsize_natCast {n : Nat} (h : n < 2 ^ 64) : asUsize n = n := by
  unfold asUsize
  omega

/-- A cast of a nonnegative `i32` is exact. -/
theorem asUsize_of_nonneg {x : Int} (h : 0 ≤ x) (h' : x < 2 ^ 31) : (asUsize x : Int) = x := by
  unfold asUsize
  omega

/-! ## Arrays -/

/-- A borrowed array: its length and its elements. Indices from `len` on carry no meaning. -/
structure Slice (α : Type) where
  len : Nat
  get : Nat → α

/-- A vector, borrowed. -/
def Slice.ofList {α : Type} [Inhabited α] (xs : List α) : Slice α := ⟨xs.length, fun i => xs[i]!⟩

/-- Entry `i` of an `i32` array. -/
def Slice.int (s : Slice Int32) (i : Nat) : Int := (s.get i).toInt

theorem Slice.int_lt (s : Slice Int32) (i : Nat) : s.int i < 2 ^ 31 := (s.get i).toInt_lt

/-! ## Floating point -/

/-- The `f32` and `bf16` operations of the references. -/
structure FloatOps (F B : Type) where
  zero : F
  one : F
  log2e : F
  ofUsize : Nat → F
  add : F → F → F
  sub : F → F → F
  mul : F → F → F
  div : F → F → F
  mulAdd : F → F → F → F
  max : F → F → F
  exp : F → F
  exp2 : F → F
  ln : F → F
  log2 : F → F
  sqrt : F → F
  toF32 : B → F
  fromF32 : F → B

/-- Exact arithmetic: no operation rounds and both types are the field. -/
def exactOps (K : Type) [Field K] [LinearOrder K] [ExactExp K] : FloatOps K K where
  zero := 0
  one := 1
  log2e := ExactExp.log2e
  ofUsize n := n
  add := (· + ·)
  sub := (· - ·)
  mul := (· * ·)
  div := (· / ·)
  mulAdd a b c := a * b + c
  max := Max.max
  exp := ExactExp.exp
  exp2 := ExactExp.exp2
  ln := ExactExp.ln
  log2 := ExactExp.log2
  sqrt := ExactExp.sqrt
  toF32 := id
  fromF32 := id

end LoomKernels
