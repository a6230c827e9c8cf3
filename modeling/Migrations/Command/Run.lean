import Migrations.Command.Basic
import Migrations.Command.Failure
import Migrations.Command.Inspection
import Migrations.Compiled.Json
import Migrations.Config.File
import Migrations.Json.Printer
import Migrations.Project.Generation
import Migrations.Project.Writing

namespace Migrations

namespace Command

/-- What a run printed before it ended, and the disk at that point. -/
structure Run where
  failure : Option Failure
  output : Text
  warnings : Text
  disk : Disk

namespace Run

def failed (d : Disk) (f : Failure) : Run := ⟨some f, [], [], d⟩

def exitCode (r : Run) : Nat := if r.failure.isSome then 1 else 0

def errors (color : Bool) (r : Run) : Text :=
  r.warnings ++ (r.failure.map (Failure.report color)).getD []

end Run

def inLines (lines : List Text) : Text := lines.flatMap (· ++ ['\n'])

def readConfig (file : Option Text) (root : Text) (d : Disk) : Except Failure Config :=
  match file with
  | some path =>
    (Config.load d path).mapError (Failure.trying ("failed to load configuration from " ++ path))
  | none => (Config.discover d root).mapError (Failure.trying "failed to load configuration")

def configFor (i : Invocation) (root : Text) (d : Disk) : Except Failure Config :=
  (readConfig i.configFile root d).map fun config =>
    { config with
      modifierPolicy := if i.ignoreUnknownModifiers then .ignore else config.modifierPolicy
      verbFallback := if i.strictVerbs then .reject else config.verbFallback }

def preview (color : Bool) (p : Project) : Text :=
  inLines (p.files.flatMap fun file =>
    [Style.dimmed.paint color "//" ++ ' ' :: Style.cyan.paint color file.path, file.content])

def summary (color : Bool) (p : Project) (written : List Text) : Text :=
  inLines (written.map (fun path =>
      "  " ++ Style.green.paint color "✓ Created:" ++ ' ' :: path) ++
    if written.length < p.files.length then
      ["  " ++ Style.dimmed.paint color "Existing model left unchanged."]
    else [])

def emit (color : Bool) (config : Config) (p : Project) (root : Text) (dryRun : Bool) (d : Disk)
    (names : TemporaryNames := .standard) : Run :=
  let warnings := inLines (p.warnings.map (Inspection.warningLine color))
  if dryRun then ⟨none, preview color p, warnings, d⟩
  else
    let outcome := p.write config root d names
    match outcome.result with
    | .ok written => ⟨none, summary color p written, warnings, outcome.disk⟩
    | .error e => ⟨some (.bare e), [], warnings, outcome.disk⟩

def explain (color : Bool) (config : Config) (name schema : Text) (json : Bool) (d : Disk) : Run :=
  match Compiled.compile config name schema with
  | .error e => .failed d (.trying ("failed to compile migration '" ++ name ++ ['\'']) e)
  | .ok compiled =>
    let output :=
      if json then compiled.toJson.print ++ ['\n'] else Inspection.text color compiled
    ⟨none, output, [], d⟩

def perform (c : Command) (color : Bool) (config : Config) (now : Timestamp) (d : Disk)
    (names : TemporaryNames := .standard) : Run :=
  match c with
  | .make name schema model root force dryRun =>
    let config :=
      { config with
        generateModel := config.generateModel || model
        overwrite := config.overwrite || force }
    match Project.ofMigration config name (schema.getD []) now with
    | .error e => .failed d (.trying ("failed to generate migration '" ++ name ++ ['\'']) e)
    | .ok p => emit color config p root dryRun d names
  | .pivot first second root dryRun =>
    match Project.ofPivot config first second now with
    | .error e => .failed d (.trying
      ("failed to generate pivot table for '" ++ first ++ "' and '" ++ second ++ ['\'']) e)
    | .ok p => emit color config p root dryRun d names
  | .inspect name schema json => explain color config name (schema.getD []) json d

end Command

open Command

def Invocation.run (i : Invocation) (color : Bool) (now : Timestamp) (d : Disk)
    (names : TemporaryNames := .standard) : Run :=
  match configFor i i.command.root d with
  | .error f => .failed d f
  | .ok config => i.command.perform color config now d names

end Migrations
