import Migrations.Config.Toml
import Migrations.Disk

namespace Migrations.Config

def load (d : Disk) (path : Text) : Except Error Config :=
  match d.readText path with
  | .error fault => .error (.fileUnread path fault)
  | .ok source => ofToml source

/-- Reads the configuration of a project. One without a configuration file has the defaults. -/
def discover (d : Disk) (directory : Text) : Except Error Config :=
  let path := Path.join directory fileName
  if d.reachesFile path then load d path else .ok {}

end Migrations.Config
