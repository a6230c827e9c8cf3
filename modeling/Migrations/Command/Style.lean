import Migrations.Text.Basic

namespace Migrations.Command

inductive Style where
  | bold
  | dimmed
  | cyan
  | green
  | boldYellow
  | boldRed
  | boldCyan
  deriving DecidableEq, Repr

namespace Style

def closing : Text := ['\x1b', '[', '0', 'm']

def code : Style → Text
  | bold => "1"
  | dimmed => "2"
  | cyan => "36"
  | green => "32"
  | boldYellow => "1;33"
  | boldRed => "1;31"
  | boldCyan => "1;36"

def opening (s : Style) : Text := '\x1b' :: '[' :: s.code ++ ['m']

/-- The text with the emphasis opened again wherever the text itself ends it. -/
def reopen (s : Style) : Text → Text
  | '\x1b' :: '[' :: '0' :: 'm' :: rest => closing ++ s.opening ++ reopen s rest
  | c :: rest => c :: reopen s rest
  | [] => []

def paint (color : Bool) (s : Style) (t : Text) : Text :=
  if color then s.opening ++ s.reopen t ++ closing else t

end Style

end Migrations.Command
