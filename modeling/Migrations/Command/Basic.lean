import Migrations.Text.Basic

namespace Migrations

inductive Command where
  | make (name : Text) (schema : Option Text) (model : Bool) (root : Text) (force dryRun : Bool)
  | pivot (first second root : Text) (dryRun : Bool)
  | inspect (name : Text) (schema : Option Text) (json : Bool)
  deriving DecidableEq, Repr

def Command.defaultRoot : Text := "."

def Command.root : Command → Text
  | make _ _ _ root _ _ | pivot _ _ root _ => root
  | inspect .. => defaultRoot

structure Invocation where
  command : Command
  configFile : Option Text
  verbose : Bool
  ignoreUnknownModifiers : Bool
  strictVerbs : Bool
  deriving DecidableEq, Repr

end Migrations
