import Migrations.Template.Token
import Migrations.Text.Blank

namespace Migrations

structure Template where
  name : Text
  source : Text
  deriving DecidableEq, Repr

namespace Template

inductive Piece where
  | text (t : Text)
  | hole (h : Hole)
  deriving DecidableEq, Repr

def startsTight : List Token → Bool
  | .tag tight _ _ :: _ => tight
  | _ => false

/-- The pieces of tokens. `tight` says whether the tag before them removes blanks. -/
def tidy (tight : Bool) : List Token → List Piece
  | [] => []
  | .text t :: rest =>
    let t := if tight then Text.trimLeft t else t
    let t := if startsTight rest then Text.trimRight t else t
    .text t :: tidy false rest
  | .tag _ none tightAfter :: rest => tidy tightAfter rest
  | .tag _ (some hole) tightAfter :: rest => .hole hole :: tidy tightAfter rest

/-- The tokens without the comments in front of everything else. -/
def dropComments : List Token → List Token
  | .tag _ none _ :: rest => dropComments rest
  | tokens => tokens

def pieces? (source : Text) : Option (List Piece) :=
  (scan .text source).map fun tokens => tidy false (dropComments tokens)

def fill (values : List (Text × Text)) : List Piece → Except TemplateFault Text
  | [] => .ok []
  | .text t :: rest => (fill values rest).map (t ++ ·)
  | .hole hole :: rest =>
    match hole.fill values with
    | .error fault => .error fault
    | .ok value => (fill values rest).map (value ++ ·)

/-- The template with its holes filled. A value is not looked at again. A dash inside a tag removes
the blanks of the text next to it, but comments in front of everything else have no effect. -/
def render (t : Template) (values : List (Text × Text)) : Except Error Text :=
  match pieces? t.source with
  | none => .error (.templateFailed t.name .malformed)
  | some pieces => (fill values pieces).mapError (.templateFailed t.name)

end Template

end Migrations
