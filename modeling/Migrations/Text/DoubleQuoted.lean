import Migrations.Text.HiddenRanges
import Migrations.Text.Basic

namespace Migrations.Text

/-- The character shows nothing of its own, or extends the character before it. -/
def isHidden (c : Char) : Bool :=
  if c.toNat < 128 then c.toNat < 32 || c.toNat == 127
  else hiddenRanges.any fun (first, last) => first ≤ c.toNat && c.toNat ≤ last

def showChar (c : Char) : Text :=
  if c = '"' then "\\\""
  else if c = '\\' then "\\\\"
  else if c = '\n' then "\\n"
  else if c = '\r' then "\\r"
  else if c = '\t' then "\\t"
  else if c.toNat = 0 then "\\0"
  else if isHidden c then "\\u\x7b" ++ Nat.toDigits 16 c.toNat ++ ['\x7d']
  else [c]

def quoteDouble (t : Text) : Text := '"' :: t.flatMap showChar ++ ['"']

end Migrations.Text
