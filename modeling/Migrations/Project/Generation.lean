import Migrations.Compiled
import Migrations.MigrationFile
import Migrations.Project.Basic
import Migrations.Template.Classes

namespace Migrations.Project

def migrationFile (config : Config) (name className : Text) (rendered : Rendered)
    (t : Timestamp) : Except Error GeneratedFile :=
  (Template.migration.render
    [("class", className), ("schema_up", rendered.upText), ("schema_down", rendered.downText)]).map
    fun content =>
      ⟨Path.join config.migrationsDir (MigrationFile.fileName name t), content, .migration⟩

def namespaceOf (directory : Text) : Text :=
  Text.join ['\\'] ((Path.names directory).map Name.pascal)

def modelFile (config : Config) (intent : Intent) : Except Error GeneratedFile :=
  (Template.model.render
    [("namespace", namespaceOf config.modelsDir), ("class", intent.modelName),
      ("table", intent.table)]).map
    fun content =>
      ⟨Path.join config.modelsDir (intent.modelName ++ '.' :: FileKind.model.extension), content,
        .model⟩

def noModelWarning (name : Text) : Text :=
  "No model generated: '" ++ name ++ "' does not create a table."

def addModel (config : Config) (intent : Intent) (p : Project) : Except Error Project :=
  if ¬ config.generateModel then .ok p
  else if intent.action = .create then (modelFile config intent).map p.addFile
  else .ok (p.addWarning (noModelWarning intent.name))

def ofMigration (config : Config) (name schema : Text) (t : Timestamp) : Except Error Project :=
  match Compiled.compile config name schema with
  | .error e => .error e
  | .ok compiled =>
    let intent := compiled.intent
    match migrationFile config intent.name intent.className compiled.rendered t with
    | .error e => .error e
    | .ok file => addModel config intent ⟨intent.name, [file], compiled.warnings⟩

def migrationNotices (config : Config) (name schema : Text) : List Notice :=
  Compiled.notices config name schema ++
    match Compiled.compile config name schema with
    | .error _ => []
    | .ok compiled => compiled.warnings.map .warning

def ofPivot (config : Config) (first second : Text) (t : Timestamp) : Except Error Project :=
  let pivot := Pivot.ofTables first second
  match pivot.flaw? with
  | some flaw => .error (.invalid flaw)
  | none =>
    (migrationFile config pivot.name pivot.className pivot.plan.render t).map fun file =>
      ⟨pivot.name, [file], []⟩

end Migrations.Project
