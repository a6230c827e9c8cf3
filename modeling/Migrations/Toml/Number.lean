import Migrations.Toml.Item

namespace Migrations.Toml.Number

def digits? (isDigit : Char → Bool) : Text → Option Text
  | [] => none
  | [c] => if isDigit c then some [c] else none
  | c :: '_' :: rest => if isDigit c then (digits? isDigit rest).map (c :: ·) else none
  | c :: rest => if isDigit c then (digits? isDigit rest).map (c :: ·) else none

def digitValue (c : Char) : Nat :=
  if c.isDigit then c.toNat - '0'.toNat else c.toLower.toNat - 'a'.toNat + 10

def valueOf (base : Nat) (digits : Text) : Nat :=
  digits.foldl (fun n c => base * n + digitValue c) 0

def isDigitOf (base : Nat) (c : Char) : Bool :=
  (c.isDigit || ('a' ≤ c.toLower && c.toLower ≤ 'f')) && digitValue c < base

def splitSign : Text → Bool × Text
  | '-' :: rest => (true, rest)
  | '+' :: rest => (false, rest)
  | t => (false, t)

/-- The digits of a decimal integer, which has no zero in front. -/
def decimal? (t : Text) : Option Text :=
  (digits? Char.isDigit t).bind fun digits =>
    if digits.head? = some '0' ∧ t ≠ ['0'] then none else some digits

def inRange (n : Int) : Bool :=
  let bound : Int := Nat.pow 2 63
  n < bound && -bound ≤ n

def inBase? (base : Nat) (t : Text) : Option Int :=
  (digits? (isDigitOf base) t).bind fun digits =>
    if inRange (valueOf base digits) then some (valueOf base digits : Int) else none

def integer? : Text → Option Int
  | '0' :: 'x' :: rest => inBase? 16 rest
  | '0' :: 'o' :: rest => inBase? 8 rest
  | '0' :: 'b' :: rest => inBase? 2 rest
  | t =>
    let (negative, t) := splitSign t
    (decimal? t).bind fun digits =>
      let n : Int := valueOf 10 digits
      let n := if negative then -n else n
      if inRange n then some n else none

def exponent? : Text → Option Int
  | [] => some 0
  | c :: rest =>
    if c = 'e' ∨ c = 'E' then
      let (negative, t) := splitSign rest
      (digits? Char.isDigit t).map fun digits =>
        let n : Int := valueOf 10 digits
        if negative then -n else n
    else none

/-- A number with a point, an exponent or both. One that is too great is refused, unless it is
negative. -/
def finite? (negative : Bool) (t : Text) : Option Double :=
  let isPart := fun (c : Char) => c.isDigit || c == '_'
  let whole := t.takeWhile isPart
  let parts? :=
    match t.dropWhile isPart with
    | '.' :: rest =>
      (digits? Char.isDigit (rest.takeWhile isPart)).map (·, rest.dropWhile isPart)
    | [] => none
    | rest => some (([] : Text), rest)
  do
    let whole ← decimal? whole
    let (places, rest) ← parts?
    let exponent ← exponent? rest
    let x := Double.ofDecimal negative (valueOf 10 (whole ++ places)) (exponent - places.length)
    if x = .infinite false then none else some x

def float? (t : Text) : Option Double :=
  let (negative, rest) := splitSign t
  if rest = "inf" then some (.infinite negative)
  else if rest = "nan" then some .undefined
  else finite? negative rest

end Migrations.Toml.Number
