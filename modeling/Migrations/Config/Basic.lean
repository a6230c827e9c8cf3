import Migrations.Intent.Parser
import Migrations.Schema.Parser

namespace Migrations

namespace ModifierPolicy

def all : List ModifierPolicy := [.reject, .ignore]

def name : ModifierPolicy → Text
  | reject => "reject"
  | ignore => "ignore"

def ofName? (name : Text) : Option ModifierPolicy := all.find? (·.name = name)

end ModifierPolicy

namespace VerbFallback

def all : List VerbFallback := [.add, .reject]

def name : VerbFallback → Text
  | add => "add"
  | reject => "reject"

def ofName? (name : Text) : Option VerbFallback := all.find? (·.name = name)

end VerbFallback

structure Config where
  migrationsDir : Text := "database/migrations"
  modelsDir : Text := "app/Models"
  generateModel : Bool := false
  overwrite : Bool := false
  modifierPolicy : ModifierPolicy := .reject
  verbFallback : VerbFallback := .add
  deriving DecidableEq, Repr

namespace Config

def fileName : Text := "schemaforge.toml"

inductive Key where
  | migrationsDir
  | modelsDir
  | generateModel
  | overwrite
  | modifierPolicy
  | verbFallback
  deriving DecidableEq, Repr

namespace Key

def all : List Key :=
  [.migrationsDir, .modelsDir, .generateModel, .overwrite, .modifierPolicy, .verbFallback]

def name : Key → Text
  | migrationsDir => "migrations_dir"
  | modelsDir => "models_dir"
  | generateModel => "generate_model"
  | overwrite => "overwrite"
  | modifierPolicy => "modifier_policy"
  | verbFallback => "verb_fallback"

def ofName? (name : Text) : Option Key := all.find? (·.name = name)

def Value : Key → Type
  | migrationsDir | modelsDir => Text
  | generateModel | overwrite => Bool
  | modifierPolicy => ModifierPolicy
  | verbFallback => VerbFallback

end Key

def set (c : Config) : (key : Key) → key.Value → Config
  | .migrationsDir, (path : Text) => { c with migrationsDir := path }
  | .modelsDir, (path : Text) => { c with modelsDir := path }
  | .generateModel, (on : Bool) => { c with generateModel := on }
  | .overwrite, (on : Bool) => { c with overwrite := on }
  | .modifierPolicy, (policy : ModifierPolicy) => { c with modifierPolicy := policy }
  | .verbFallback, (fallback : VerbFallback) => { c with verbFallback := fallback }

end Config

end Migrations
