import Migrations.Timestamp

namespace Migrations.Toml.Moment

def number? (width low high : Nat) (t : Text) : Option (Nat × Text) :=
  let digits := t.take width
  let n := Timestamp.digitsValue digits
  if digits.length = width ∧ digits.all Char.isDigit ∧ low ≤ n ∧ n ≤ high then
    some (n, t.drop width)
  else none

def after? (mark : Char) : Text → Option Text
  | c :: rest => if c = mark then some rest else none
  | [] => none

def date? (t : Text) : Option Text := do
  let (year, t) ← number? 4 0 9999 t
  let (month, t) ← number? 2 1 12 (← after? '-' t)
  let (_, t) ← number? 2 1 (Timestamp.daysInMonth year month) (← after? '-' t)
  return t

/-- What follows a time of day to the second or finer. A minute may have a leap second. -/
def time? (t : Text) : Option Text := do
  let (_, t) ← number? 2 0 23 t
  let (_, t) ← number? 2 0 59 (← after? ':' t)
  let (_, t) ← number? 2 0 60 (← after? ':' t)
  match t with
  | '.' :: d :: rest => if d.isDigit then return rest.dropWhile Char.isDigit else none
  | '.' :: [] => none
  | t => return t

def isOffset : Text → Bool
  | [] => true
  | c :: rest =>
    if c = 'Z' ∨ c = 'z' then rest.isEmpty
    else if c = '+' ∨ c = '-' then
      ((number? 2 0 23 rest).bind fun (_, t) =>
        (after? ':' t).bind (number? 2 0 59)).any (·.2.isEmpty)
    else false

def isTime (t : Text) : Bool := (time? t).any isOffset

def isMoment (t : Text) : Bool :=
  (time? t).any List.isEmpty ||
    (date? t).any fun
      | [] => true
      | c :: rest => (c == 'T' || c == 't') && isTime rest

end Migrations.Toml.Moment
