import Migrations.Disk
import Migrations.Timestamp

namespace Migrations.MigrationFile

def ending : Text := ".php"

def fileName (name : Text) (t : Timestamp) : Text := t.stamp ++ '_' :: name ++ ending

/-- A file name without its ending consists of a stamp and the name. -/
def isNamed (stem name : Text) : Bool :=
  ((Text.dropSuffix? stem name).bind (Text.dropSuffix? · "_")).any Timestamp.isStamp

def isFileOf (name file : Text) : Bool := (Text.dropSuffix? file ending).any (isNamed · name)

/-- The first file in a directory that is a migration of this name, as a path. -/
def find? (d : Disk) (directory name : Text) : Option Text :=
  (Text.least? ((d.filesAt directory).filter (isFileOf name))).map
    (Path.join directory)

end Migrations.MigrationFile
