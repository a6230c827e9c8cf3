import Migrations.Text.Blank

namespace Migrations

namespace Timestamp

def minYear : Int := -262143

def maxYear : Int := 262142

def isLeapYear (year : Int) : Bool := year % 4 == 0 && (year % 100 != 0 || year % 400 == 0)

def daysInMonth (year : Int) (month : Nat) : Nat :=
  if month = 2 then if isLeapYear year then 29 else 28
  else if month ∈ [4, 6, 9, 11] then 30
  else 31

def IsDate (year : Int) (month day : Nat) : Prop :=
  minYear ≤ year ∧ year ≤ maxYear ∧ 1 ≤ month ∧ month ≤ 12 ∧ 1 ≤ day ∧ day ≤ daysInMonth year month

instance (year : Int) (month day : Nat) : Decidable (IsDate year month day) :=
  inferInstanceAs (Decidable (_ ∧ _ ∧ _ ∧ _ ∧ _ ∧ _))

end Timestamp

structure Timestamp where
  year : Int
  month : Nat
  day : Nat
  hour : Nat
  minute : Nat
  second : Nat
  isDate : Timestamp.IsDate year month day
  hour_lt : hour < 24
  minute_lt : minute < 60
  second_lt : second < 60
  deriving DecidableEq

namespace Timestamp

def ofParts? (year : Int) (month day hour minute second : Nat) : Option Timestamp :=
  if h : IsDate year month day ∧ hour < 24 ∧ minute < 60 ∧ second < 60 then
    some ⟨year, month, day, hour, minute, second, h.1, h.2.1, h.2.2.1, h.2.2.2⟩
  else none

def padded (width n : Nat) : Text :=
  let digits := Nat.toDigits 10 n
  List.replicate (width - digits.length) '0' ++ digits

/-- A year has four digits. One that needs more, or lies before the year zero, has a sign. -/
def yearText (year : Int) : Text :=
  if year < 0 then '-' :: padded 4 year.natAbs
  else if year ≤ 9999 then padded 4 year.natAbs
  else '+' :: padded 4 year.natAbs

def stamp (t : Timestamp) : Text :=
  yearText t.year ++ '_' :: padded 2 t.month ++ '_' :: padded 2 t.day ++
    '_' :: padded 2 t.hour ++ padded 2 t.minute ++ padded 2 t.second

def digitsValue (digits : Text) : Nat :=
  digits.foldl (fun n c => 10 * n + (c.toNat - '0'.toNat)) 0

def readDigits? (t : Text) : Option (Nat × Text) :=
  match t.takeWhile Char.isDigit with
  | [] => none
  | digits => some (digitsValue digits, t.dropWhile Char.isDigit)

def readNumber? (width : Nat) (t : Text) : Option (Nat × Text) :=
  let t := Text.trimLeft t
  (readDigits? (t.take width)).map fun (n, rest) => (n, rest ++ t.drop width)

/-- A year after blanks: at most four digits, or a sign and any number of digits. -/
def readYear? (t : Text) : Option (Int × Text) :=
  match Text.trimLeft t with
  | '-' :: rest => (readDigits? rest).map fun (n, after) => (-(n : Int), after)
  | '+' :: rest => (readDigits? rest).map fun (n, after) => ((n : Int), after)
  | t => (readNumber? 4 t).map fun (n, after) => ((n : Int), after)

def afterUnderscore? : Text → Option Text
  | '_' :: rest => some rest
  | _ => none

/-- The text reads as a stamp. A minute may have a leap second. -/
def isStamp (t : Text) : Bool :=
  let parts : Option (Int × Nat × Nat × Nat × Nat × Nat × Text) := do
    let (year, t) ← readYear? t
    let (month, t) ← readNumber? 2 (← afterUnderscore? t)
    let (day, t) ← readNumber? 2 (← afterUnderscore? t)
    let (hour, t) ← readNumber? 2 (← afterUnderscore? t)
    let (minute, t) ← readNumber? 2 t
    let (second, t) ← readNumber? 2 t
    return (year, month, day, hour, minute, second, t)
  match parts with
  | some (year, month, day, hour, minute, second, rest) =>
    rest.isEmpty && decide (IsDate year month day) && hour < 24 && minute < 60 && second ≤ 60
  | none => false

end Timestamp

end Migrations
