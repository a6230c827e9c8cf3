import Migrations.Text.Basic

namespace Migrations

inductive FileKind where
  | migration
  | model
  deriving DecidableEq, Repr

namespace FileKind

def name : FileKind → Text
  | migration => "migration"
  | model => "model"

def extension : FileKind → Text
  | migration | model => "php"

end FileKind

structure GeneratedFile where
  path : Text
  content : Text
  kind : FileKind
  deriving DecidableEq, Repr

structure Project where
  name : Text
  files : List GeneratedFile
  warnings : List Text
  deriving DecidableEq, Repr

namespace Project

def empty (name : Text) : Project := ⟨name, [], []⟩

def addFile (p : Project) (file : GeneratedFile) : Project :=
  { p with files := p.files ++ [file] }

def addWarning (p : Project) (warning : Text) : Project :=
  { p with warnings := p.warnings ++ [warning] }

def filesOf (p : Project) (kind : FileKind) : List GeneratedFile :=
  p.files.filter (·.kind = kind)

def firstMigration? (p : Project) : Option GeneratedFile :=
  p.files.find? (·.kind = .migration)

end Project

end Migrations
