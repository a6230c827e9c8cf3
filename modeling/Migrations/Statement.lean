import Migrations.Field.Basic
import Migrations.Text.Literal
import Migrations.Text.SingleQuoted

namespace Migrations

inductive Statement where
  | bigIncrements
  | softDeletes
  | timestamps
  | column (field : Field)
  | foreign (column : Text) (reference : Reference)
  | dropForeign (column : Text)
  | dropColumn (column : Text)
  | primary (first second : Text)
  deriving DecidableEq

namespace Statement

/-- The value of an enumeration. One that is quoted already is kept. -/
def enumValue (value : Text) : Text :=
  if Text.isQuoted value then value else Text.quoteSingle value

def argumentsText (f : Field) : Text :=
  if f.columnArguments = [] then []
  else if f.type = .enum then
    ", [" ++ Text.join ", " (f.columnArguments.map enumValue) ++ "]"
  else ", " ++ Text.join ", " f.columnArguments

def chainText (f : Field) (m : Modifier) : Text :=
  match f.settings.get? m with
  | none => []
  | some .flag => "->" ++ m.keyword ++ "()"
  | some (.literal value) => "->" ++ m.keyword ++ "(" ++ value ++ ")"

/-- The declaration of a column. Its modifiers are chained in their own order. -/
def columnText (f : Field) : Text :=
  "$table->" ++ f.type.method ++ "('" ++ f.name ++ "'" ++ argumentsText f ++ ")" ++
    Modifier.chained.flatMap (chainText f) ++ ";"

def onDeleteText : Option Text → Text
  | none => []
  | some action => "->onDelete('" ++ action ++ "')"

def foreignText (name : Text) (r : Reference) : Text :=
  "$table->foreign('" ++ name ++ "')->references('" ++ r.column ++ "')->on('" ++ r.table ++
    "')" ++ onDeleteText r.onDelete ++ ";"

def text : Statement → Text
  | bigIncrements => "$table->bigIncrements('id');"
  | softDeletes => "$table->softDeletes();"
  | timestamps => "$table->timestamps();"
  | column field => columnText field
  | foreign name reference => foreignText name reference
  | dropForeign name => "$table->dropForeign(['" ++ name ++ "']);"
  | dropColumn name => "$table->dropColumn('" ++ name ++ "');"
  | primary first second => "$table->primary(['" ++ first ++ "', '" ++ second ++ "']);"

end Statement

namespace Field

def added (f : Field) : List Statement :=
  .column f :: (f.foreignKey?.map (Statement.foreign f.name)).toList

/-- The statements that remove a field: its constraint goes before its column. -/
def dropped (f : Field) : List Statement :=
  (if f.foreignKey?.isSome then [.dropForeign f.name] else []) ++ [.dropColumn f.name]

end Field

end Migrations
