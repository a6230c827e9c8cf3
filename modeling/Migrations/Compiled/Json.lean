import Migrations.Compiled
import Migrations.Field.Json
import Migrations.Intent.Json

namespace Migrations

namespace Rendered

def toJson (r : Rendered) : Json := .object [("up", .texts r.up), ("down", .texts r.down)]

def ofJson? (j : Json) : Option Rendered :=
  match j.columns? ["up", "down"] with
  | some [some up, some down] => do return ⟨← up.texts?, ← down.texts?⟩
  | _ => none

end Rendered

namespace Compiled

def toJson (c : Compiled) : Json :=
  .object
    [("intent", c.intent.toJson), ("fields", .array (c.fields.map Field.toJson)),
      ("rendered", c.rendered.toJson), ("warnings", .texts c.warnings)]

end Compiled

end Migrations
