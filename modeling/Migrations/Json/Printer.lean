import Migrations.Json.Basic

namespace Migrations.Json

def hexPair (n : Nat) : Text := [Nat.digitChar (n / 16), Nat.digitChar (n % 16)]

def escape (c : Char) : Text :=
  if c = '"' then "\\\""
  else if c = '\\' then "\\\\"
  else if c = '\x08' then "\\b"
  else if c = '\x0c' then "\\f"
  else if c = '\n' then "\\n"
  else if c = '\r' then "\\r"
  else if c = '\t' then "\\t"
  else if c.toNat < 32 then "\\u00" ++ hexPair c.toNat
  else [c]

def quote (t : Text) : Text := '"' :: t.flatMap escape ++ ['"']

def newLine (depth : Nat) : Text := '\n' :: List.replicate (2 * depth) ' '

def enclose (opening closing : Char) (depth : Nat) (parts : List Text) : Text :=
  if parts = [] then [opening, closing]
  else
    opening :: newLine (depth + 1) ++ Text.join (',' :: newLine (depth + 1)) parts ++
      newLine depth ++ [closing]

mutual

def printAt (depth : Nat) : Json → Text
  | null => "null"
  | bool b => if b then "true" else "false"
  | number numeral => numeral
  | string t => quote t
  | array items => enclose '[' ']' depth (printItems (depth + 1) items)
  | object members => enclose '\x7b' '\x7d' depth (printMembers (depth + 1) members)

def printItems (depth : Nat) : List Json → List Text
  | [] => []
  | item :: rest => printAt depth item :: printItems depth rest

def printMembers (depth : Nat) : List (Text × Json) → List Text
  | [] => []
  | (key, value) :: rest => (quote key ++ ": " ++ printAt depth value) :: printMembers depth rest

end

def print (j : Json) : Text := printAt 0 j

end Migrations.Json
