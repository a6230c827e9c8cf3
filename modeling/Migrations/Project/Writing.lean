import Migrations.Config.Basic
import Migrations.MigrationFile
import Migrations.Project.Basic
import Migrations.Project.Staging

namespace Migrations

structure Outcome where
  result : Except Error (List Text)
  disk : Disk
  notices : List Notice

namespace Outcome

def withNotices (o : Outcome) (before : List Notice) : Outcome :=
  { o with notices := before ++ o.notices }

end Outcome

namespace Project

def takeBack (d : Disk) : List Text → Disk × List Notice
  | [] => (d, [])
  | path :: rest =>
    match d.removeFile path with
    | .ok d => takeBack d rest
    | .error fault => ((takeBack d rest).1, .leftBehind path fault :: (takeBack d rest).2)

/-- Moves staged files to their targets, in order. `written` are the targets of the files before
them. -/
def placeFiles (d : Disk) (written : List Text) : List Staged → Outcome
  | [] => ⟨.ok written, d, []⟩
  | file :: rest =>
    match d.moveFile file.place file.target with
    | .ok d => (placeFiles d (written ++ [file.target]) rest).withNotices [.wroteFile file.target]
    | .error fault =>
      let (d, notices) := takeBack d written
      ⟨.error (.fileUnwritten file.target fault), discard d (file :: rest), notices⟩

def targets (base : Text) (files : List GeneratedFile) : List (Text × Text) :=
  files.map fun file => (Path.join base file.path, file.content)

/-- Writes files below `base`. All of them are staged before the first one is moved to its target,
and a file that cannot be moved there takes back those before it. -/
def writeFiles (base : Text) (files : List GeneratedFile) (d : Disk)
    (names : TemporaryNames := .standard) : Outcome :=
  match stageFiles names d (targets base files) with
  | (d, staged, some e) => ⟨.error e, discard d staged, []⟩
  | (d, staged, none) => placeFiles d [] staged

def isKept (base : Text) (d : Disk) (file : GeneratedFile) : Bool :=
  file.kind = .model && d.reaches (Path.join base file.path)

/-- Removes the migration that a successful write replaced, unless the write put a file there. -/
def dropReplaced (existing : Option Text) (o : Outcome) : Outcome :=
  match o.result, existing with
  | .ok written, some path =>
    if (written.map Path.components).contains (Path.components path) then o
    else
      { o with
        disk := o.disk.erase (Path.location path)
        notices := o.notices ++ [.removedMigration path] }
  | _, _ => o

/-- Writes a project below `base`, unless a migration of its name exists and may not be replaced.
Models that exist are kept. -/
def write (config : Config) (base : Text) (p : Project) (d : Disk)
    (names : TemporaryNames := .standard) : Outcome :=
  let existing := MigrationFile.find? d (Path.join base config.migrationsDir) p.name
  match existing, config.overwrite with
  | some path, false => ⟨.error (.migrationExists path), d, []⟩
  | _, _ =>
    let kept := p.files.filter (isKept base d)
    let fresh := p.files.filter fun file => !isKept base d file
    (dropReplaced existing (writeFiles base fresh d names)).withNotices
      (kept.map fun file => .keptModel (Path.join base file.path))

end Project

end Migrations
