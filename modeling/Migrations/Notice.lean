import Migrations.Error

namespace Migrations

inductive Notice where
  | unknownVerb (name : Text)
  | ignoredModifier (index : Nat) (keyword : Text)
  | warning (text : Text)
  | wroteFile (path : Text)
  | keptModel (path : Text)
  | removedMigration (path : Text)
  | leftBehind (path : Text) (fault : DiskFault)
  deriving DecidableEq, Repr

inductive Notice.Level where
  | warn
  | info
  deriving DecidableEq, Repr

namespace Notice

def level : Notice → Level
  | unknownVerb _ | ignoredModifier .. | warning _ | leftBehind .. => .warn
  | wroteFile _ | keptModel _ | removedMigration _ => .info

def message : Notice → Text
  | unknownVerb _ => "no recognized verb in migration name, treating it as an add migration"
  | ignoredModifier .. => "ignoring unsupported modifier"
  | warning text => text
  | wroteFile _ => "wrote file"
  | keptModel _ => "model already exists, skipping"
  | removedMigration _ => "removed replaced migration"
  | leftBehind .. => "could not remove partial output"

end Notice

end Migrations
