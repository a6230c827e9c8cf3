import Migrations.Toml.Blank

namespace Migrations.Toml

/-- A kind of quoted text: between single or double quotes, of which only the latter know escapes,
and on one line or, between three quotes, on several. -/
structure Quoting where
  mark : Char
  long : Bool
  deriving DecidableEq, Repr

namespace Quoting

def escapes (q : Quoting) : Bool := q.mark == '"'

inductive Mode where
  | plain
  | marks (count : Nat)
  /-- After a carriage return. `gap` says whether the line break is left out. -/
  | carriage (gap : Bool)
  | backslash
  | trailing
  | gap
  /-- In a code point with `left` more digits. -/
  | hex (left value : Nat)
  deriving DecidableEq, Repr

inductive Move where
  | on (more : Text) (mode : Mode)
  /-- Adds to the text, which ends with this character. -/
  | last (more : Text)
  /-- Adds to the text, which ended before this character. -/
  | over (more : Text)
  | refuse
  deriving DecidableEq, Repr

def escapeLetters : List (Char × Char) :=
  [('b', '\x08'), ('f', '\x0c'), ('n', '\n'), ('r', '\r'), ('t', '\t'), ('\\', '\\'), ('"', '"')]

def escaped? (c : Char) : Option Char := (escapeLetters.find? (·.1 = c)).map (·.2)

def hexValue? (c : Char) : Option Nat :=
  if c.isDigit then some (c.toNat - '0'.toNat)
  else if 'a' ≤ c ∧ c ≤ 'f' then some (c.toNat - 'a'.toNat + 10)
  else if 'A' ≤ c ∧ c ≤ 'F' then some (c.toNat - 'A'.toNat + 10)
  else none

def movePlain (q : Quoting) (before : Text) (c : Char) : Move :=
  if c = q.mark then if q.long then .on before (.marks 1) else .last before
  else if c = '\\' ∧ q.escapes then .on before .backslash
  else if c = '\n' ∧ q.long then .on (before ++ ['\n']) .plain
  else if c = '\r' ∧ q.long then .on before (.carriage false)
  else if isPlain c then .on (before ++ [c]) .plain
  else .refuse

/-- What a character does. Up to two marks in front of the closing ones belong to the text. -/
def move (q : Quoting) : Mode → Char → Move
  | .plain, c => q.movePlain [] c
  | .marks count, c =>
    if c = q.mark then
      if count = 4 then .last [q.mark, q.mark] else .on [] (.marks (count + 1))
    else if 3 ≤ count then .over (List.replicate (count - 3) q.mark)
    else q.movePlain (List.replicate count q.mark) c
  | .carriage gap, c =>
    if c = '\n' then if gap then .on [] .gap else .on ['\n'] .plain else .refuse
  | .backslash, c =>
    match escaped? c with
    | some d => .on [d] .plain
    | none =>
      if c = 'u' then .on [] (.hex 4 0)
      else if c = 'U' then .on [] (.hex 8 0)
      else if ¬ q.long then .refuse
      else if isBlank c then .on [] .trailing
      else if c = '\n' then .on [] .gap
      else if c = '\r' then .on [] (.carriage true)
      else .refuse
  | .trailing, c =>
    if isBlank c then .on [] .trailing
    else if c = '\n' then .on [] .gap
    else if c = '\r' then .on [] (.carriage true)
    else .refuse
  | .gap, c =>
    if isBlank c ∨ c = '\n' then .on [] .gap
    else if c = '\r' then .on [] (.carriage true)
    else q.movePlain [] c
  | .hex left value, c =>
    match hexValue? c with
    | none => .refuse
    | some d =>
      let value := 16 * value + d
      if 1 < left then .on [] (.hex (left - 1) value)
      else if value.isValidChar then .on [Char.ofNat value] .plain
      else .refuse

def readFrom (q : Quoting) : Mode → Text → Option (Text × Text)
  | .marks count, [] => if 3 ≤ count then some (List.replicate (count - 3) q.mark, []) else none
  | _, [] => none
  | mode, c :: rest =>
    match q.move mode c with
    | .on more mode => (q.readFrom mode rest).map fun (t, after) => (more ++ t, after)
    | .last more => some (more, rest)
    | .over more => some (more, c :: rest)
    | .refuse => none

def readShort (mark : Char) (t : Text) : Option (Text × Text) := readFrom ⟨mark, false⟩ .plain t

/-- Reads quoted text on several lines, from after its opening marks. A line break right after them
is left out. -/
def readLong (mark : Char) (t : Text) : Option (Text × Text) :=
  readFrom ⟨mark, true⟩ .plain ((afterBreak? t).getD t)

def read? : Text → Option (Text × Text)
  | a :: b :: c :: rest =>
    if ¬ (a = '"' ∨ a = '\'') then none
    else if a = b ∧ b = c then readLong a rest
    else readShort a (b :: c :: rest)
  | a :: rest => if a = '"' ∨ a = '\'' then readShort a rest else none
  | [] => none

end Quoting

end Migrations.Toml
