import Migrations.Error
import Migrations.Name.Inflection

namespace Migrations

/-- The two sides of a join table. They are kept singular and in order, so that both ways of naming
them give the same table. -/
structure Pivot where
  first : Text
  second : Text
  deriving DecidableEq, Repr

namespace Pivot

def ofTables (one other : Text) : Pivot :=
  let a := Name.singularize one
  let b := Name.singularize other
  if b < a then ⟨b, a⟩ else ⟨a, b⟩

def table (p : Pivot) : Text := p.first ++ '_' :: p.second

def name (p : Pivot) : Text := "create_" ++ p.table ++ "_pivot_table"

def className (p : Pivot) : Text := Name.className p.name

def tables (p : Pivot) : Text × Text := (Name.pluralize p.first, Name.pluralize p.second)

def columns (p : Pivot) : Text × Text := (p.first ++ "_id", p.second ++ "_id")

def flaw? (p : Pivot) : Option Flaw :=
  if ¬ Text.isIdentifier p.first then some (.pivotSide p.first)
  else if ¬ Text.isIdentifier p.second then some (.pivotSide p.second)
  else if p.first = p.second then some (.pivotTwins p.first)
  else none

end Pivot

end Migrations
