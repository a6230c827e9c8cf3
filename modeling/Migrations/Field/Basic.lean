import Migrations.Error
import Migrations.Field.ColumnType
import Migrations.Field.Reference
import Migrations.Name.Inflection

namespace Migrations

structure Field where
  name : Text
  type : ColumnType
  arguments : List Text
  settings : Settings
  deriving DecidableEq

namespace Field

def plain (name : Text) (type : ColumnType) : Field := ⟨name, type, [], .empty⟩

def withArgument (f : Field) (argument : Text) : Field :=
  { f with arguments := f.arguments ++ [argument] }

def withSetting (f : Field) (m : Modifier) (value : Setting) : Field :=
  { f with settings := f.settings.set m value }

def defaultValue (f : Field) : Option Text := f.settings.literal? .default

/-- The arguments of the column itself. Those of a foreign key name its target. -/
def columnArguments (f : Field) : List Text :=
  if f.type = .foreignKey then [] else f.arguments

def target? (f : Field) : Option Text :=
  match f.settings.literal? .foreign with
  | some target => some target
  | none => if f.type = .foreignKey then f.arguments.head? else none

/-- The column that the second argument of a foreign key names, unless a modifier names the
target. -/
def targetColumn? (f : Field) : Option Text :=
  if f.type = .foreignKey ∧ f.settings.literal? .foreign = none then
    f.arguments[1]?.map (Text.trimMarks Reference.quotes)
  else none

def IsForeign (f : Field) : Prop := f.type = .foreignKey ∨ f.settings.has .foreign = true

instance (f : Field) : Decidable f.IsForeign := inferInstanceAs (Decidable (_ ∨ _))

/-- The reference that a foreign column makes. Without a target the column's name tells the
table. -/
def reference (f : Field) : Reference :=
  let target := (f.target?.map Reference.ofTarget).getD (.toTable (Name.foreignTable f.name))
  { table := target.table
    column := f.targetColumn?.getD target.column
    onDelete := if f.settings.has .cascade then some "cascade" else none }

def foreignKey? (f : Field) : Option Reference := if f.IsForeign then some f.reference else none

def settingFlaw? (f : Field) : Option Flaw :=
  f.settings.toList.findSome? fun (m, value) =>
    match m.valueRule, value with
    | .flag, .literal _ => some (.valueNotTaken m)
    | .literal, .flag => some (.valueRequired m)
    | _, _ => none

def typeFlaw? (f : Field) : Option Flaw :=
  match f.type with
  | .custom token => if Text.isIdentifier token then none else some (.columnType token)
  | _ => none

def flaw? (f : Field) : Option Flaw :=
  if f.name = [] then some .missingColumnName
  else if ¬ Text.isIdentifier f.name then some (.columnName f.name)
  else f.typeFlaw?.or <| f.settingFlaw?.or <|
    if f.settings.has .cascade ∧ ¬ f.IsForeign then some .cascadeWithoutKey else none

end Field

end Migrations
