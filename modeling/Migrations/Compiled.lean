import Migrations.Config.Basic
import Migrations.Plan

namespace Migrations

structure Compiled where
  intent : Intent
  fields : List Field
  rendered : Rendered
  deriving DecidableEq

namespace Compiled

def ofFields (intent : Intent) (fields : List Field) : Compiled :=
  ⟨intent, fields, (intent.plan fields).render⟩

/-- Reads a name, then a schema. The first error decides. -/
def compile (config : Config) (name schema : Text) : Except Error Compiled :=
  match Intent.parse config.verbFallback name with
  | .error e => .error e
  | .ok intent =>
    match Schema.parse config.modifierPolicy schema with
    | .error e => .error e
    | .ok fields => .ok (ofFields intent fields)

def notices (config : Config) (name schema : Text) : List Notice :=
  Intent.notices config.verbFallback name ++
    if (Intent.parse config.verbFallback name).isOk then
      Schema.notices config.modifierPolicy schema
    else []

def emptyWarning? (c : Compiled) : Option Text :=
  if c.fields = [] ∧ c.intent.action ≠ .create then
    some ("Migration '" ++ c.intent.name ++ "' declares no fields; its schema body is empty.")
  else none

def keyWarning? (c : Compiled) : Option Text :=
  c.intent.relatedTable.bind fun related =>
    if c.fields ≠ [] ∧ ∀ f ∈ c.fields, ¬ f.IsForeign then
      some ("Migration '" ++ c.intent.name ++ "' looks like a reference to '" ++ related ++
        "' but no foreign key column is declared.")
    else none

def warnings (c : Compiled) : List Text := c.emptyWarning?.toList ++ c.keyWarning?.toList

end Compiled

end Migrations
