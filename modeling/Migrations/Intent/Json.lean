import Migrations.Intent.Basic
import Migrations.Intent.Pivot
import Migrations.Json.Basic

namespace Migrations

namespace Action

def toJson (a : Action) : Json := .string a.name

def ofJson? (j : Json) : Option Action := j.variant?.bind fun name => all.find? (·.name = name)

end Action

namespace Intent

def toJson (i : Intent) : Json :=
  .object
    (("name", .string i.name) :: ("action", i.action.toJson) :: ("table", .string i.table) ::
      Json.optionalMember "related_table" i.relatedTable)

def ofJson? (j : Json) : Option Intent :=
  match j.columns? ["name", "action", "table", "related_table"] with
  | some [some name, some action, some table, related] => do
    return ⟨← name.text?, ← Action.ofJson? action, ← table.text?, ← Json.optionalText? related⟩
  | _ => none

end Intent

namespace Pivot

def toJson (p : Pivot) : Json := .object [("first", .string p.first), ("second", .string p.second)]

def ofJson? (j : Json) : Option Pivot :=
  match j.columns? ["first", "second"] with
  | some [some first, some second] => do return ⟨← first.text?, ← second.text?⟩
  | _ => none

end Pivot

end Migrations
