import Migrations.Error
import Migrations.Name.Inflection
import Migrations.Text.Blank

namespace Migrations

inductive Action where
  | create
  | add
  | remove
  deriving DecidableEq, Repr

namespace Action

def name : Action → Text
  | create => "create"
  | add => "add"
  | remove => "remove"

def all : List Action := [.create, .add, .remove]

def verbs : List (Text × Action) :=
  [("create", .create), ("add", .add), ("insert", .add), ("remove", .remove),
    ("delete", .remove), ("drop", .remove)]

def ofVerb? (word : Text) : Option Action :=
  (verbs.find? (·.1 = word.lowerAscii)).map (·.2)

def connectives : Action → List Text
  | create => []
  | add => ["to", "into"]
  | remove => ["from"]

end Action

structure Intent where
  name : Text
  action : Action
  table : Text
  relatedTable : Option Text
  deriving DecidableEq, Repr

namespace Intent

def className (i : Intent) : Text := Name.className i.name

def modelName (i : Intent) : Text := Name.modelName i.table

def relatedFlaw? (i : Intent) : Option Flaw :=
  i.relatedTable.bind fun related =>
    if i.action = .create then some (.relatedTableOnCreate related)
    else if Text.isIdentifier related then none
    else some (.relatedTableName related)

def flaw? (i : Intent) : Option Flaw :=
  if Text.trim i.name = [] then some .blankMigrationName
  else if ¬ Text.isIdentifier i.table then some (.tableName i.table)
  else i.relatedFlaw?

end Intent

end Migrations
