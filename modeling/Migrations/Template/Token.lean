import Migrations.Template.Hole

namespace Migrations.Template

/-- A text, or a tag that removes the blanks before or after it. A comment is a tag without hole. -/
inductive Token where
  | text (t : Text)
  | tag (tightBefore : Bool) (hole? : Option Hole) (tightAfter : Bool)
  deriving DecidableEq, Repr

inductive Tail where
  | nothing
  | dash
  | hash
  | dashHash
  deriving DecidableEq, Repr

namespace Tail

def after (tail : Tail) (c : Char) : Tail :=
  if c = '#' then if tail = .dash then .dashHash else .hash
  else if c = '-' then .dash
  else .nothing

def length : Tail → Nat
  | nothing => 0
  | dash | hash => 1
  | dashHash => 2

end Tail

inductive Mode where
  | text
  | brace
  | opened
  | beforeKey (tight : Bool)
  | inKey (tight : Bool) (key : Text)
  | afterKey (tight : Bool) (key : Text)
  | closing (tight : Bool) (key : Text) (tightAfter : Bool)
  | dashed (tight : Bool) (key : Text)
  | commentOpened
  /-- In a comment. `filled` says that it holds a character in front of the end seen so far. -/
  | comment (tight : Bool) (filled : Bool) (tail : Tail)
  deriving DecidableEq, Repr

def isTagBlank (c : Char) : Bool := c == ' ' || c == '\t' || c == '\n' || c == '\r'

def isKeyStart (c : Char) : Bool := c.isAlpha || c == '_'

def isKeyChar (c : Char) : Bool := c.isAlphanum || c == '_'

def consText (c : Char) : List Token → List Token
  | .text t :: rest => .text (c :: t) :: rest
  | tokens => .text [c] :: tokens

def startKey (tight : Bool) (c : Char) : Option Mode :=
  if isTagBlank c then some (.beforeKey tight)
  else if isKeyStart c then some (.inKey tight [c])
  else none

def endKey (tight : Bool) (key : Text) (c : Char) : Option Mode :=
  if isTagBlank c then if key = Hole.negation then none else some (.afterKey tight key)
  else if c = '-' then some (.dashed tight key)
  else if c = '}' then some (.closing tight key false)
  else none

def inComment (tight filled : Bool) (tail : Tail) (c : Char) : Mode :=
  .comment tight (filled || (tail.after c).length ≤ tail.length) (tail.after c)

/-- The tokens of a template from a mode on. Every tag that is opened has to be read to its end, and
a comment holds at least one character. A brace that opens no tag is text. -/
def scan : Mode → Text → Option (List Token)
  | .text, [] => some []
  | .brace, [] => some [.text ['{']]
  | _, [] => none
  | .text, c :: cs =>
    if c = '{' then scan .brace cs else (scan .text cs).map (consText c)
  | .brace, c :: cs =>
    if c = '{' then scan .opened cs
    else if c = '#' then scan .commentOpened cs
    else if c = '%' then none
    else (scan .text cs).map fun tokens => consText '{' (consText c tokens)
  | .opened, c :: cs =>
    if c = '-' then scan (.beforeKey true) cs
    else match startKey false c with
      | some mode => scan mode cs
      | none => none
  | .beforeKey tight, c :: cs =>
    match startKey tight c with
    | some mode => scan mode cs
    | none => none
  | .inKey tight key, c :: cs =>
    if isKeyChar c then scan (.inKey tight (key ++ [c])) cs
    else match endKey tight key c with
      | some mode => scan mode cs
      | none => none
  | .afterKey tight key, c :: cs =>
    match endKey tight key c with
    | some mode => scan mode cs
    | none => none
  | .dashed tight key, c :: cs =>
    if c = '}' then scan (.closing tight key true) cs else none
  | .closing tight key tightAfter, c :: cs =>
    if c = '}' then
      match Hole.ofKey? key with
      | some hole => (scan .text cs).map (.tag tight (some hole) tightAfter :: ·)
      | none => none
    else none
  | .commentOpened, c :: cs =>
    if c = '-' then scan (.comment true false .nothing) cs
    else scan (inComment false false .nothing c) cs
  | .comment tight filled tail, c :: cs =>
    if c = '}' ∧ (tail = .hash ∨ tail = .dashHash) then
      if filled then (scan .text cs).map (.tag tight none (tail = .dashHash) :: ·) else none
    else scan (inComment tight filled tail c) cs

end Migrations.Template
