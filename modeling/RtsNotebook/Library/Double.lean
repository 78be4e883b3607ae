import Mathlib.Algebra.Group.Nat.Defs

/-!
# Doubles by their shortest decimal

A double is kept by the shortest decimal that reads back as it, which is the
one that common languages print.  Every double has one such decimal, so the
doubles are a part of this type.  The digits carry no trailing zero, as a
field of the structure.
-/

namespace RtsNotebook.Library

/-- The decimal `± digits * 10 ^ exponent`, in lowest form. -/
structure Decimal where
  negative : Bool
  digits : Nat
  exponent : Int
  lowest : digits % 10 ≠ 0 ∨ digits = 0 ∧ exponent = 0
  deriving DecidableEq, Repr

namespace Decimal

def zero : Decimal where
  negative := false
  digits := 0
  exponent := 0
  lowest := Or.inr ⟨rfl, rfl⟩

/-- The lowest form of `± digits * 10 ^ exponent`. -/
def normalize (negative : Bool) (digits : Nat) (exponent : Int) : Decimal :=
  if lowest : digits % 10 ≠ 0 then
    { negative := negative
      digits := digits
      exponent := exponent
      lowest := Or.inl lowest }
  else if digits = 0 then
    zero
  else
    normalize negative (digits / 10) (exponent + 1)
termination_by digits

/-- The decimal is greater than a natural number. -/
def exceeds (decimal : Decimal) (bound : Nat) : Bool :=
  !decimal.negative &&
    decimal.digits * 10 ^ decimal.exponent.toNat >
      bound * 10 ^ (-decimal.exponent).toNat

end Decimal

/-- A floating-point number. -/
inductive Double where
  | nan
  | infinity (negative : Bool)
  | finite (decimal : Decimal)
  deriving DecidableEq, Repr

namespace Double

/-- A natural number with no trailing zero, such as a small literal. -/
def ofNat (value : Nat) (lowest : value % 10 ≠ 0 ∨ value = 0) : Double :=
  .finite {
    negative := false
    digits := value
    exponent := 0
    lowest := lowest.imp_right fun zero => ⟨zero, rfl⟩ }

/-- The number is neither zero nor undefined. -/
def nonzero : Double → Bool
  | nan => false
  | infinity _ => true
  | finite decimal => decimal.digits ≠ 0

/-- The number is greater than zero. -/
def isPositive : Double → Bool
  | nan => false
  | infinity negative => !negative
  | finite decimal => !decimal.negative && decimal.digits ≠ 0

end Double

end RtsNotebook.Library
