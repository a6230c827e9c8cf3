import Migrations.Command.Style
import Migrations.Error

namespace Migrations

namespace Error

def hint? : Error → Option Text
  | migrationExists _ => some "pass --force to replace it"
  | unsupportedModifier .. =>
    some "pass --ignore-unknown-modifiers to drop modifiers it does not know"
  | invalidName .. | malformedField .. =>
    some "run \x60schemaforge inspect <name> -s <schema>\x60 to see how the input is read"
  | _ => none

end Error

namespace Command

/-- An error and what was tried, the outermost first. -/
structure Failure where
  contexts : List Text
  error : Error
  deriving DecidableEq, Repr

namespace Failure

def bare (error : Error) : Failure := ⟨[], error⟩

def trying (context : Text) (error : Error) : Failure := ⟨[context], error⟩

def text (f : Failure) : Text := Text.join ": " (f.contexts ++ f.error.chain)

def report (color : Bool) (f : Failure) : Text :=
  Style.boldRed.paint color "error:" ++ ' ' :: f.text ++ ['\n'] ++
    match f.error.hint? with
    | none => []
    | some hint => "  " ++ Style.boldCyan.paint color "hint:" ++ ' ' :: hint ++ ['\n']

end Failure

end Command

end Migrations
