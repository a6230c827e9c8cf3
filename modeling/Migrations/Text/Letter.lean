import Migrations.Text.Basic
import Migrations.Text.CaseRanges
import Migrations.Text.LetterRanges

namespace Migrations.Text

/-- The code point lies in a run that lists every `step`-th one. -/
def inRun (n first last step : Nat) : Bool :=
  first ≤ n && n ≤ last && (n - first) % step == 0

def isLetterOrNumber (c : Char) : Bool :=
  if c.toNat < 128 then c.isAlphanum
  else letterOrNumberRanges.any fun (first, last) => first ≤ c.toNat && c.toNat ≤ last

def isLowercase (c : Char) : Bool :=
  if c.toNat < 128 then c.isLower
  else lowercaseRanges.any fun (first, last, step) => inRun c.toNat first last step

def isUppercase (c : Char) : Bool :=
  if c.toNat < 128 then c.isUpper
  else uppercaseRanges.any fun (first, last, step) => inRun c.toNat first last step

/-- The image of a code point from 128 on under a case mapping. One without an entry is its own
image. -/
def mapCase (expansions : Array (Nat × List Nat)) (shifts : Array (Nat × Nat × Nat × Int))
    (c : Char) : Text :=
  match expansions.find? fun (n, _) => n == c.toNat with
  | some (_, image) => image.map Char.ofNat
  | none =>
    match shifts.find? fun (first, last, step, _) => inRun c.toNat first last step with
    | some (_, _, _, shift) => [Char.ofNat (c.toNat + shift).toNat]
    | none => [c]

def toLowercase (c : Char) : Text :=
  if c.toNat < 128 then [c.toLower] else mapCase lowercaseExpansions lowercaseShifts c

def toUppercase (c : Char) : Text :=
  if c.toNat < 128 then [c.toUpper] else mapCase uppercaseExpansions uppercaseShifts c

end Migrations.Text
