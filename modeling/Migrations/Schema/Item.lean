import Migrations.Field.ColumnType
import Migrations.Field.Modifier
import Migrations.Text.Blank
import Migrations.Text.Literal
import Migrations.Text.Nesting

namespace Migrations.Schema

/-- The comma-separated items of a segment, without blanks around them and without empty ones. -/
def splitList (segment : Text) : List Text :=
  ((Text.splitTop ',' segment).map Text.trim).filter (· ≠ [])

def keywordOf (item : Text) : Text := Text.trim (item.takeWhile (· ≠ '('))

/-- The word of an item and, if it is called, the value between the first parenthesis and the last
character, which has to close it. The value is kept as it is written. -/
def splitCall? (item : Text) : Option (Text × Option Text) :=
  match Text.splitFirst? '(' item with
  | none => some (Text.trim item, none)
  | some (word, rest) => (Text.dropSuffix? rest ")").map fun value => (Text.trim word, some value)

def namesModifier (item : Text) : Bool := (Modifier.ofKeyword? (keywordOf item)).isSome

/-- The items are constructor arguments of the type: not modifiers, and literals unless the type
takes identifiers. -/
def areArguments (type : ColumnType) (items : List Text) : Bool :=
  !items.isEmpty && items.all (fun item => !namesModifier item) &&
    (type.TakesIdentifiers || items.all Text.isLiteral)

end Migrations.Schema
