import Migrations.Decimal.Double
import Migrations.Text.Basic

namespace Migrations.Double

/-- The decimals that round to a number, in quarters of its last binary place. The gap below a power
of two is half as wide as the one above it. Both ends belong to an even mantissa. -/
structure Interval where
  low : Nat
  high : Nat
  closed : Bool
  deriving DecidableEq, Repr

def interval (mantissa : Nat) (exponent : Int) : Interval :=
  { low := if mantissa = Nat.pow 2 52 ∧ minExponent < exponent then 4 * mantissa - 1
      else 4 * mantissa - 2
    high := 4 * mantissa + 2
    closed := mantissa % 2 = 0 }

def Interval.contains (i : Interval) (place value unit : Nat) : Bool :=
  if i.closed then i.low * place ≤ value * unit && value * unit ≤ i.high * place
  else i.low * place < value * unit && value * unit < i.high * place

/-- The multiple of `10 ^ power` that rounds to a positive number and is nearest to it, if there is
one. Of two that are equally near it is the greater one. -/
def multiple? (mantissa : Nat) (exponent power : Int) : Option Nat :=
  let place := Nat.pow 2 (exponent - 2).toNat * Nat.pow 10 (-power).toNat
  let unit := Nat.pow 10 power.toNat * Nat.pow 2 (2 - exponent).toNat
  let i := interval mantissa exponent
  let below := 4 * mantissa * place / unit
  let rest := 4 * mantissa * place % unit
  match i.contains place below unit, i.contains place (below + 1) unit with
  | true, true => some (if 2 * rest < unit then below else below + 1)
  | true, false => some below
  | false, true => some (below + 1)
  | false, false => none

def powers : List Int := (List.range 660).map fun (n : Nat) => 309 - (n : Int)

def shortest (mantissa : Nat) (exponent : Int) : Nat × Int :=
  if mantissa = 0 then (0, 0)
  else
    (powers.findSome? fun power =>
      (multiple? mantissa exponent power).map fun digits => (digits, power)).getD (0, 0)

def positional (digits : Nat) (power : Int) : Text :=
  let shown := Nat.toDigits 10 digits
  if 0 ≤ power then shown ++ List.replicate power.toNat '0' ++ ['.', '0']
  else
    let places := (-power).toNat
    let shown := List.replicate (places + 1 - shown.length) '0' ++ shown
    shown.take (shown.length - places) ++ '.' :: shown.drop (shown.length - places)

def text : Double → Text
  | finite negative mantissa exponent =>
    let (digits, power) := shortest mantissa exponent
    (if negative then ['-'] else []) ++ positional digits power
  | infinite negative => if negative then "-inf" else "inf"
  | undefined => "NaN"

end Migrations.Double
