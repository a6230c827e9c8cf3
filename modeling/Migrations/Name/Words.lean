import Migrations.Text.Letter

namespace Migrations.Name

inductive Casing where
  | none
  | lower
  | upper
  deriving DecidableEq, Repr

/-- The casing after one more character. Characters without case leave it alone. -/
def Casing.after (casing : Casing) (c : Char) : Casing :=
  if Text.isLowercase c then .lower else if Text.isUppercase c then .upper else casing

/-- Splits a run of letters and numbers: `BlogPost` and `HTMLPage` have two words each. A word ends
before a capital that follows a lower-case letter, and before the last capital of a row when a
lower-case letter follows it. The first part continues the current word and may be empty. -/
def splitCased : Casing → Text → List Text
  | _, [] => []
  | _, [c] => [[c]]
  | casing, c :: next :: rest =>
    if casing.after c = .lower ∧ Text.isUppercase next then
      [c] :: splitCased .none (next :: rest)
    else if casing = .upper ∧ Text.isUppercase c ∧ Text.isLowercase next then
      [] :: Text.consHead c (splitCased .none (next :: rest))
    else Text.consHead c (splitCased (casing.after c) (next :: rest))

def words (name : Text) : List Text :=
  (Text.splitWhere (fun c => !Text.isLetterOrNumber c) name).flatMap (splitCased .none)

/-- A word in lower case. A capital sigma at its end becomes a final sigma. -/
def lowerWord : Text → Text
  | [] => []
  | [c] => if c = 'Σ' then ['ς'] else Text.toLowercase c
  | c :: rest => Text.toLowercase c ++ lowerWord rest

def capitalWord : Text → Text
  | [] => []
  | c :: rest => Text.toUppercase c ++ lowerWord rest

def snake (name : Text) : Text := Text.join ['_'] ((words name).map lowerWord)

def pascal (name : Text) : Text := (words name).flatMap capitalWord

end Migrations.Name
