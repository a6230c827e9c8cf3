import Migrations.Field.Basic
import Migrations.Json.Basic

namespace Migrations

namespace ColumnType

def toJson : ColumnType → Json
  | custom token => .object [("custom", .string token)]
  | type => .string type.name

def ofName? (name : Text) : Option ColumnType := known.find? (·.name = name)

def ofJson? : Json → Option ColumnType
  | .object [(key, .string token)] => if key = "custom" then some (.custom token) else none
  | j => j.variant?.bind ofName?

end ColumnType

namespace Modifier

def ofName? (name : Text) : Option Modifier := all.find? (·.keyword = name)

def toJson (m : Modifier) : Json := .string m.keyword

def ofJson? (j : Json) : Option Modifier := j.variant?.bind ofName?

end Modifier

namespace Setting

def toJson : Setting → Json
  | flag => .string "flag"
  | literal value => .object [("literal", .string value)]

def ofJson? : Json → Option Setting
  | .object [(key, .string value)] => if key = "literal" then some (.literal value) else none
  | j => if j.variant? = some "flag" then some .flag else none

end Setting

namespace Settings

def toJson (s : Settings) : Json :=
  .object (s.toList.map fun (m, value) => (m.keyword, value.toJson))

def entryOfJson? (entry : Text × Json) : Option (Modifier × Setting) := do
  let m ← Modifier.ofName? entry.1
  let value ← Setting.ofJson? entry.2
  return (m, value)

def ofJson? : Json → Option Settings
  | .object members => (members.mapM entryOfJson?).map ofList
  | _ => none

end Settings

namespace Field

def toJson (f : Field) : Json :=
  .object
    [("name", .string f.name), ("type", f.type.toJson), ("arguments", .texts f.arguments),
      ("options", f.settings.toJson)]

def ofJson? (j : Json) : Option Field :=
  match j.columns? ["name", "type", "arguments", "options"] with
  | some [some name, some type, some arguments, some options] => do
    return ⟨← name.text?, ← ColumnType.ofJson? type, ← arguments.texts?, ← Settings.ofJson? options⟩
  | _ => none

end Field

namespace Reference

def toJson (r : Reference) : Json :=
  .object
    (("table", .string r.table) :: ("column", .string r.column) ::
      Json.optionalMember "on_delete" r.onDelete)

def ofJson? (j : Json) : Option Reference :=
  match j.columns? ["table", "column", "on_delete"] with
  | some [some table, some column, onDelete] => do
    return ⟨← table.text?, ← column.text?, ← Json.optionalText? onDelete⟩
  | _ => none

end Reference

end Migrations
