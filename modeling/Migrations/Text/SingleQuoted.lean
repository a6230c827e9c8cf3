import Migrations.Text.Basic

namespace Migrations.Text

def escapeQuotes : Text → Text
  | [] => []
  | c :: cs => if c = '\'' then '\\' :: '\'' :: escapeQuotes cs else c :: escapeQuotes cs

def quoteSingle (t : Text) : Text := '\'' :: escapeQuotes t ++ ['\'']

/-- Reads on inside a literal: what it stands for, and the rest after its closing quote. A backslash
in front of a single quote or another backslash stands for that character, and in front of any other
one for itself. -/
def readQuoted? : Text → Option (Text × Text)
  | [] => none
  | '\'' :: rest => some ([], rest)
  | ['\\'] => none
  | '\\' :: c :: rest =>
    (readQuoted? rest).map fun (value, after) =>
      if c = '\'' ∨ c = '\\' then (c :: value, after) else ('\\' :: c :: value, after)
  | c :: rest => (readQuoted? rest).map fun (value, after) => (c :: value, after)

def readLiteral? : Text → Option (Text × Text)
  | '\'' :: rest => readQuoted? rest
  | _ => none

def unquoteSingle? (t : Text) : Option Text :=
  match readLiteral? t with
  | some (value, []) => some value
  | _ => none

end Migrations.Text
