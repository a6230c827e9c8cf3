import Migrations.Error
import Migrations.Json.Printer

namespace Migrations.Template

inductive Hole where
  | value (key : Text)
  | truth (b : Bool)
  | everything
  deriving DecidableEq, Repr

namespace Hole

def truthWords : List (Text × Bool) :=
  [("true", true), ("false", false), ("True", true), ("False", false)]

def everythingKey : Text := "__tera_context"

def negation : Text := "not"

/-- The hole of a key. No key continues a word for a truth value. -/
def ofKey? (key : Text) : Option Hole :=
  match truthWords.find? fun (word, _) => word.isPrefixOf key with
  | some (word, b) => if key = word then some (.truth b) else none
  | none => some (if key = everythingKey then .everything else .value key)

end Hole

/-- The value of a key. The last one that is given counts. -/
def value? (values : List (Text × Text)) (key : Text) : Option Text :=
  (values.reverse.find? (·.1 = key)).map (·.2)

def put (key value : Text) : List (Text × Text) → List (Text × Text)
  | [] => [(key, value)]
  | (k, v) :: rest =>
    if key = k then (key, value) :: rest
    else if key < k then (key, value) :: (k, v) :: rest
    else (k, v) :: put key value rest

def everythingText (values : List (Text × Text)) : Text :=
  let sorted := values.foldl (fun sorted (key, value) => put key value sorted) []
  (Json.object (sorted.map fun (key, value) => (key, .string value))).print

def Hole.fill (values : List (Text × Text)) : Hole → Except TemplateFault Text
  | value key =>
    match value? values key with
    | none => .error (.missingValue key)
    | some found => .ok found
  | truth b => .ok (if b then "true".toList else "false".toList)
  | everything => .ok (everythingText values)

end Migrations.Template
