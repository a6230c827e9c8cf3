
namespace Migrations

/-- A number with a mantissa below `2 ^ 53`, an infinite one, or none at all. -/
inductive Double where
  | finite (negative : Bool) (mantissa : Nat) (exponent : Int)
  | infinite (negative : Bool)
  | undefined
  deriving DecidableEq, Repr

namespace Double

def minExponent : Int := -1074

def maxExponent : Int := 971

/-- The integer next to `a / b`. Of two that are equally near it is the even one. -/
def roundDiv (a b : Nat) : Nat :=
  let q := a / b
  let r := a % b
  if 2 * r < b ∨ (2 * r = b ∧ q % 2 = 0) then q else q + 1

/-- The exponent at which the mantissa of `a / b` has 53 digits, or the least one. -/
def exponentOf (a b : Nat) : Int :=
  let low : Int := (a.log2 : Int) - b.log2 - 53
  max minExponent (if b * Nat.pow 2 (53 + low.toNat) ≤ a * Nat.pow 2 (-low).toNat
    then low + 1 else low)

def ofFraction (negative : Bool) (a b : Nat) : Double :=
  let e := exponentOf a b
  let m := roundDiv (a * Nat.pow 2 (-e).toNat) (b * Nat.pow 2 e.toNat)
  let (m, e) := if m = Nat.pow 2 53 then (Nat.pow 2 52, e + 1) else (m, e)
  if maxExponent < e then infinite negative else finite negative m e

/-- The number next to a decimal: the digits times ten to the exponent. The bounds keep the powers
small and lie outside of the range of finite numbers. -/
def ofDecimal (negative : Bool) (digits : Nat) (exponent : Int) : Double :=
  let size : Int := (Nat.toDigits 10 digits).length + exponent
  if digits = 0 ∨ size < -330 then finite negative 0 minExponent
  else if 310 < size then infinite negative
  else ofFraction negative (digits * Nat.pow 10 exponent.toNat) (Nat.pow 10 (-exponent).toNat)

end Double

end Migrations
