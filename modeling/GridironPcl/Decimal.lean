import Mathlib.Data.List.Basic

namespace GridironPcl.Decimal

/-- The errors of `cosmwasm_std` that the contract passes on. A Rust panic (an overflowing
`Uint128` or `Decimal256` operator, a division by zero, `unreachable!`) aborts the transaction
like an error does, so it is one more constructor here. -/
inductive StdError where
  | genericErr (msg : String)
  | notFound (kind : String)
  | parseErr (target : String)
  | overflow (operation : String)
  | conversionOverflow
  | panic (msg : String)
  deriving DecidableEq, Repr

/-- `Decimal256`: a fixed-point number with 18 fractional digits, kept as its atomics. -/
structure Decimal256 where
  atoms : Nat
  deriving DecidableEq, Repr

namespace Decimal256

def fractional : Nat := Nat.pow 10 18

def maxAtoms : Nat := Nat.pow 2 256 - 1

def uint128Max : Nat := Nat.pow 2 128 - 1

def zero : Decimal256 := ⟨0⟩

def one : Decimal256 := ⟨fractional⟩

def isZero (d : Decimal256) : Bool := d.atoms == 0

instance : LE Decimal256 := ⟨fun a b => a.atoms ≤ b.atoms⟩

instance : LT Decimal256 := ⟨fun a b => a.atoms < b.atoms⟩

instance (a b : Decimal256) : Decidable (a ≤ b) := inferInstanceAs (Decidable (a.atoms ≤ b.atoms))

instance (a b : Decimal256) : Decidable (a < b) := inferInstanceAs (Decidable (a.atoms < b.atoms))

def add (a b : Decimal256) : Except StdError Decimal256 :=
  if a.atoms + b.atoms ≤ maxAtoms then .ok ⟨a.atoms + b.atoms⟩
  else .error (.panic "attempt to add with overflow")

def mul (a b : Decimal256) : Except StdError Decimal256 :=
  if a.atoms * b.atoms / fractional ≤ maxAtoms then .ok ⟨a.atoms * b.atoms / fractional⟩
  else .error (.panic "attempt to multiply with overflow")

/-- The `/` operator, rounding down; it panics on a zero divisor and on a quotient above
`maxAtoms`. -/
def div (a b : Decimal256) : Except StdError Decimal256 :=
  if b.atoms = 0 then .error (.panic "Division failed - denominator must not be zero")
  else if a.atoms * fractional / b.atoms ≤ maxAtoms then .ok ⟨a.atoms * fractional / b.atoms⟩
  else .error (.panic "Division failed - multiplication overflow")

def checkedSub (a b : Decimal256) : Option Decimal256 :=
  if b.atoms ≤ a.atoms then some ⟨a.atoms - b.atoms⟩ else none

def sub (a b : Decimal256) : Except StdError Decimal256 :=
  if b.atoms ≤ a.atoms then .ok ⟨a.atoms - b.atoms⟩ else .error (.panic "attempt to subtract with overflow")

def saturatingSub (a b : Decimal256) : Decimal256 := ⟨a.atoms - b.atoms⟩

def diff (a b : Decimal256) : Decimal256 :=
  if a.atoms ≤ b.atoms then ⟨b.atoms - a.atoms⟩ else ⟨a.atoms - b.atoms⟩

def fromRatio (n d : Nat) : Decimal256 := ⟨n * fractional / d⟩

/-- `Decimal256::with_precision` (and `IntegerToDecimal::to_decimal256`): an integer amount
with `precision` decimals read as a decimal. -/
def withPrecision (value precision : Nat) : Decimal256 :=
  if precision ≤ 18 then ⟨value * Nat.pow 10 (18 - precision)⟩
  else ⟨value / Nat.pow 10 (precision - 18)⟩

theorem isZero_withPrecision {value precision : Nat} (h : precision ≤ 18) :
    (withPrecision value precision).isZero = true ↔ value = 0 := by
  simp [withPrecision, h, isZero, Nat.mul_eq_zero]

@[simp] theorem withPrecision_zero (precision : Nat) : withPrecision 0 precision = zero := by
  unfold withPrecision
  split <;> simp [zero]

/-- Modelled from the spec: `Decimal256Ext::to_uint` (gridiron's `cosmwasm_ext`) is not under
src/. The integer amount with `precision` decimals, rounding down; `none` is its
`ConversionOverflowError`, for an amount above `Uint128::MAX`. -/
def toUint (d : Decimal256) (precision : Nat) : Option Nat :=
  let amount := if precision ≤ 18 then d.atoms / Nat.pow 10 (18 - precision)
    else d.atoms * Nat.pow 10 (precision - 18)
  if amount ≤ uint128Max then some amount else none

/-- The `Display` of `Decimal256`: the whole part, then the 18 fractional digits without
trailing zeros. -/
def toString (d : Decimal256) : String :=
  let frac := d.atoms % fractional
  if frac = 0 then Nat.repr (d.atoms / fractional)
  else
    let digits := Nat.toDigits 10 frac
    let padded := List.replicate (18 - digits.length) '0' ++ digits
    Nat.repr (d.atoms / fractional) ++ "." ++ String.mk (padded.reverse.dropWhile (· = '0')).reverse

@[simp] theorem le_def (a b : Decimal256) : a ≤ b ↔ a.atoms ≤ b.atoms := Iff.rfl

@[simp] theorem lt_def (a b : Decimal256) : a < b ↔ a.atoms < b.atoms := Iff.rfl

@[simp] theorem isZero_iff (d : Decimal256) : d.isZero = true ↔ d.atoms = 0 := by
  simp [isZero]

theorem toUint_eq_some {d : Decimal256} {precision n : Nat} (h : d.toUint precision = some n)
    (hp : precision ≤ 18) : n = d.atoms / Nat.pow 10 (18 - precision) := by
  simp only [toUint, if_pos hp] at h
  split at h <;> cases h
  rfl

end Decimal256

end GridironPcl.Decimal
