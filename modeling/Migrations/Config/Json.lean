import Migrations.Config.Basic
import Migrations.Json.Basic

namespace Migrations

namespace ModifierPolicy

def toJson (p : ModifierPolicy) : Json := .string p.name

def ofJson? (j : Json) : Option ModifierPolicy := j.variant?.bind ofName?

end ModifierPolicy

namespace VerbFallback

def toJson (v : VerbFallback) : Json := .string v.name

def ofJson? (j : Json) : Option VerbFallback := j.variant?.bind ofName?

end VerbFallback

namespace Config

def Key.valueOfJson? (j : Json) : (key : Key) → Option key.Value
  | .migrationsDir | .modelsDir => j.text?
  | .generateModel | .overwrite => j.bool?
  | .modifierPolicy => ModifierPolicy.ofJson? j
  | .verbFallback => VerbFallback.ofJson? j

def toJson (c : Config) : Json :=
  .object
    [(Key.migrationsDir.name, .string c.migrationsDir), (Key.modelsDir.name, .string c.modelsDir),
      (Key.generateModel.name, .bool c.generateModel), (Key.overwrite.name, .bool c.overwrite),
      (Key.modifierPolicy.name, c.modifierPolicy.toJson),
      (Key.verbFallback.name, c.verbFallback.toJson)]

/-- The configuration after one more member. Every key has to be known. -/
def setMember? (c : Config) (member : Text × Json) : Option Config := do
  let key ← Key.ofName? member.1
  let value ← key.valueOfJson? member.2
  return c.set key value

def ofJson? : Json → Option Config
  | .object members => members.foldlM setMember? {}
  | _ => none

end Config

end Migrations
