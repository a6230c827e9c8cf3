import Migrations.Command.Style
import Migrations.Compiled
import Migrations.Schema.Printer

namespace Migrations.Command.Inspection

def cascadeText (f : Field) : Text := if f.settings.has .cascade then " on delete cascade" else ""

def referenceText (f : Field) : Text :=
  match f.foreignKey? with
  | none => []
  | some r => " -> " ++ r.table ++ '.' :: r.column ++ cascadeText f

def fieldText (f : Field) : Text :=
  f.name ++ ' ' :: f.type.method ++
    (if f.arguments = [] then [] else '(' :: Text.join ", " f.arguments ++ [')']) ++
    (f.settings.toList.flatMap fun setting => ' ' :: Schema.printSetting setting) ++ referenceText f

def fieldLines (index : Nat) : List Field → List Text
  | [] => []
  | f :: rest =>
    ("  " ++ Nat.toDigits 10 index ++ ". " ++ fieldText f) :: fieldLines (index + 1) rest

def warningLine (color : Bool) (warning : Text) : Text :=
  Style.boldYellow.paint color "warning:" ++ ' ' :: warning

def lines (color : Bool) (c : Compiled) : List Text :=
  [Style.bold.paint color "Migration:" ++ ' ' :: c.intent.name,
    "  Action:  " ++ Style.cyan.paint color c.intent.action.name,
    "  Table:   " ++ Style.cyan.paint color c.intent.table] ++
  (c.intent.relatedTable.map fun related =>
    "  Related: " ++ Style.cyan.paint color related).toList ++
  [Style.bold.paint color "Fields:"] ++
  (if c.fields = [] then ["  " ++ Style.dimmed.paint color "(none)"] else fieldLines 1 c.fields) ++
  c.warnings.map (warningLine color) ++
  [Style.bold.paint color "Up:", c.rendered.upText, Style.bold.paint color "Down:",
    c.rendered.downText]

def text (color : Bool) (c : Compiled) : Text := (lines color c).flatMap (· ++ ['\n'])

end Migrations.Command.Inspection
