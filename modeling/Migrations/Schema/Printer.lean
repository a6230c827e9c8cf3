import Migrations.Field.Basic

namespace Migrations.Schema

def printList (parts : List Text) : Text := Text.join [','] parts

def printSetting : Modifier × Setting → Text
  | (m, .flag) => m.keyword
  | (m, .literal value) => m.keyword ++ '(' :: value ++ [')']

/-- A field: `name:type(arguments):modifiers`, without the parts that are empty. -/
def printField (f : Field) : Text :=
  f.name ++ ':' :: f.type.token ++
    (if f.arguments = [] then [] else '(' :: printList f.arguments ++ [')']) ++
    (if f.settings.toList = [] then [] else ':' :: printList (f.settings.toList.map printSetting))

def print (fields : List Field) : Text := printList (fields.map printField)

end Migrations.Schema
