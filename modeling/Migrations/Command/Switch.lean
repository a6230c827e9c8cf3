import Migrations.Text.Basic

namespace Migrations.Command

inductive Topic where
  | program
  | make
  | pivot
  | inspect
  | help
  deriving DecidableEq, Repr

inductive Switch where
  | schema
  | model
  | json
  | path
  | config
  | force
  | dryRun
  | verbose
  | ignoreUnknownModifiers
  | strictVerbs
  | help
  | version
  deriving DecidableEq, Repr

inductive Takes where
  | nothing
  | text (label : Text)
  | path (label : Text)
  deriving DecidableEq, Repr

namespace Switch

def long : Switch → Text
  | schema => "schema"
  | model => "model"
  | json => "json"
  | path => "path"
  | config => "config"
  | force => "force"
  | dryRun => "dry-run"
  | verbose => "verbose"
  | ignoreUnknownModifiers => "ignore-unknown-modifiers"
  | strictVerbs => "strict-verbs"
  | help => "help"
  | version => "version"

def short? : Switch → Option Char
  | schema => some 's'
  | verbose => some 'v'
  | help => some 'h'
  | version => some 'V'
  | _ => none

def takes : Switch → Takes
  | schema => .text "SCHEMA"
  | path => .path "DIR"
  | config => .path "FILE"
  | _ => .nothing

end Switch

namespace Topic

def word : Topic → Text
  | program => "schemaforge"
  | make => "make"
  | pivot => "pivot"
  | inspect => "inspect"
  | help => "help"

def tasks : List Topic := [.make, .pivot, .inspect, .help]

def ofWord? (word : Text) : Option Topic := tasks.find? (·.word = word)

def switches : Topic → List Switch
  | program => [.config, .verbose, .ignoreUnknownModifiers, .strictVerbs, .help, .version]
  | make =>
    [.schema, .model, .path, .config, .force, .dryRun, .verbose, .ignoreUnknownModifiers,
      .strictVerbs, .help]
  | pivot =>
    [.path, .dryRun, .config, .verbose, .ignoreUnknownModifiers, .strictVerbs, .help]
  | inspect =>
    [.schema, .json, .config, .verbose, .ignoreUnknownModifiers, .strictVerbs, .help]
  | help => []

def positionals : Topic → List (Text × Text)
  | make => [("NAME", "Migration name, e.g. add_views_to_posts_table")]
  | pivot => [("FIRST", "First table, e.g. posts"), ("SECOND", "Second table, e.g. tags")]
  | inspect => [("NAME", "Migration name")]
  | program | help => []

end Topic

end Migrations.Command
