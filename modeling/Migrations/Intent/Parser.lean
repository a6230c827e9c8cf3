import Migrations.Intent.Basic
import Migrations.Notice

namespace Migrations

inductive VerbFallback where
  | add
  | reject
  deriving DecidableEq, Repr

namespace Intent

def closingWord : Text := "table"

def dropClosing (words : List Text) : List Text :=
  if words.getLast? = some closingWord then words.dropLast else words

/-- The words before and after the last connective. Without one, all words come after it. -/
def splitAtConnective (connectives : List Text) (words : List Text) : List Text × List Text :=
  let target := (words.reverse.takeWhile (!connectives.contains ·)).reverse
  if target.length = words.length then ([], words)
  else (words.take (words.length - target.length - 1), target)

/-- Columns that end in the word `id` refer to the table that the words before it name. -/
def relatedTable? (columns : List Text) : Option Text :=
  if columns.getLast? = some "id" ∧ columns.dropLast ≠ [] then
    some (Name.pluralize (Text.join ['_'] columns.dropLast))
  else none

def wordsOf (snake : Text) : List Text := (Text.splitWhere (· == '_') snake).filter (· ≠ [])

def readVerb (fallback : VerbFallback) (words : List Text) :
    Except NameFault (Action × List Text) :=
  match words with
  | [] => .error .noWords
  | first :: rest =>
    match Action.ofVerb? first, fallback with
    | some action, _ => .ok (action, rest)
    | none, .add => .ok (.add, words)
    | none, .reject => .error (.unknownVerb first)

def readTable (name : Text) (action : Action) (words : List Text) : Except NameFault Intent :=
  let (columns, target) := splitAtConnective action.connectives (dropClosing words)
  if target = [] then .error .noTable
  else .ok
    { name
      action
      table := Name.pluralize (Text.join ['_'] target)
      relatedTable := relatedTable? columns }

def read (fallback : VerbFallback) (name : Text) : Except NameFault Intent :=
  match readVerb fallback (wordsOf (Name.snake name)) with
  | .error fault => .error fault
  | .ok (action, words) =>
    match readTable (Name.snake name) action words with
    | .error fault => .error fault
    | .ok intent =>
      match intent.flaw? with
      | some flaw => .error (.flawed flaw)
      | none => .ok intent

/-- The intent of a migration name: a verb, for an existing table its columns and a connective, the
table, and the word `table`, which may be left out, as in `add_user_id_to_comments_table`. A blank
name is reported as it is, any other one without the blanks at its ends. -/
def parse (fallback : VerbFallback) (name : Text) : Except Error Intent :=
  if Text.trim name = [] then .error (.invalidName name .blank)
  else (read fallback (Text.trim name)).mapError (.invalidName (Text.trim name))

def notices (fallback : VerbFallback) (name : Text) : List Notice :=
  match fallback, wordsOf (Name.snake (Text.trim name)) with
  | .add, first :: _ =>
    if (Action.ofVerb? first).isNone then [.unknownVerb (Text.trim name)] else []
  | _, _ => []

end Intent

end Migrations
