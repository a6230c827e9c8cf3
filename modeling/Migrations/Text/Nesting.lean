import Migrations.Text.Basic

namespace Migrations.Text

inductive Quoting where
  | off
  | on (mark : Char)
  | escaped (mark : Char)
  deriving DecidableEq, Repr

/-- Where a scanner stands: the quotation around it and the parentheses open outside of that. A
quotation runs from a single or double quote to the next quote of the same kind, and a backslash
inside it keeps the following character from ending it. -/
structure Place where
  depth : Nat
  quoting : Quoting
  deriving DecidableEq, Repr

namespace Place

def top : Place := ⟨0, .off⟩

/-- The place after one more character. A parenthesis that closes nothing leaves the depth at
zero. -/
def step (p : Place) (c : Char) : Place :=
  match p.quoting with
  | .escaped mark => { p with quoting := .on mark }
  | .on mark =>
    if c = '\\' then { p with quoting := .escaped mark }
    else if c = mark then { p with quoting := .off }
    else p
  | .off =>
    if c = '\'' ∨ c = '"' then { p with quoting := .on c }
    else if c = '(' then { p with depth := p.depth + 1 }
    else if c = ')' then { p with depth := p.depth - 1 }
    else p

end Place

def splitFrom (mark : Char) : Place → Text → List Text
  | _, [] => [[]]
  | p, c :: cs =>
    if p = .top ∧ c = mark then [] :: splitFrom mark .top cs
    else consHead c (splitFrom mark (p.step c) cs)

/-- The parts between the marks that stand outside of parentheses and quotations. The mark is
neither a quote nor a parenthesis. -/
def splitTop (mark : Char) (t : Text) : List Text := splitFrom mark .top t

def balancedFrom : Place → Text → Bool
  | p, [] => p = .top
  | p, c :: cs => if p = .top ∧ c = ')' then false else balancedFrom (p.step c) cs

/-- Every quotation ends and the parentheses match. The depth has no bound. Counted in a signed
number of 32 bits it is the same below 2147483648 open parentheses. -/
def isBalanced (t : Text) : Bool := balancedFrom .top t

theorem splitFrom_ne_nil (mark : Char) (p : Place) (t : Text) : splitFrom mark p t ≠ [] := by
  cases t with
  | nil => simp [splitFrom]
  | cons c cs =>
    unfold splitFrom
    split
    · simp
    · exact consHead_ne_nil _ _

/-- Splitting loses nothing but the marks, wherever it starts. -/
theorem join_splitFrom (mark : Char) (p : Place) (t : Text) :
    join [mark] (splitFrom mark p t) = t := by
  induction t generalizing p with
  | nil => rfl
  | cons c cs ih =>
    unfold splitFrom
    split
    · rename_i h
      simp [join_cons (splitFrom_ne_nil mark .top cs), ih, h.2]
    · simp [join_consHead (splitFrom_ne_nil mark (p.step c) cs), ih]

end Migrations.Text
