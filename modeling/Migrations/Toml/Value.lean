import Migrations.Toml.Moment
import Migrations.Toml.Number
import Migrations.Toml.Quoted
import Migrations.Toml.Table

namespace Migrations.Toml

/-- Containers stand in one another, and a key has names, fewer than this. -/
def depthLimit : Nat := 80

def isBareKeyChar (c : Char) : Bool := c.isAlphanum || c == '-' || c == '_'

def readName (t : Text) : Option (Text × Text) :=
  match t with
  | '"' :: rest => Quoting.readShort '"' rest
  | '\'' :: rest => Quoting.readShort '\'' rest
  | t =>
    match t.takeWhile isBareKeyChar with
    | [] => none
    | name => some (name, t.dropWhile isBareKeyChar)

/-- The names of a key with dots between them, and what follows the blanks behind it. The fuel
bounds the number of names. -/
def readNames : Nat → Text → Option (List Key × Text)
  | 0, _ => none
  | fuel + 1, t => do
    let t := skipBlanks t
    let (name, after) ← readName t
    let key : Key := ⟨name, .between t after⟩
    match skipBlanks after with
    | '.' :: rest => do
      let (keys, rest) ← readNames fuel rest
      return (key :: keys, rest)
    | rest => return ([key], rest)

def readKey (t : Text) : Option (List Key × Key × Text) := do
  let (keys, rest) ← readNames (t.length + 1) t
  if depthLimit ≤ keys.length then none
  else
    let last ← keys.getLast?
    return (keys.dropLast, last, rest)

def isWordChar (c : Char) : Bool :=
  c.isAlphanum || c == '+' || c == '-' || c == '_' || c == '.' || c == ':'

def scalarOf? (word : Text) : Option Scalar :=
  if word = "true" then some (.boolean true)
  else if word = "false" then some (.boolean false)
  else if Moment.isMoment word then some .moment
  else ((Number.float? word).map Scalar.float).or ((Number.integer? word).map Scalar.integer)

/-- The value at the start of a text, and what follows it. A blank may stand between a date and a
time that starts with a digit. -/
def readWord (t : Text) : Option (Scalar × Text) :=
  let word := t.takeWhile isWordChar
  let rest := t.dropWhile isWordChar
  match rest with
  | ' ' :: d :: after =>
    if (Moment.date? word).any List.isEmpty ∧ d.isDigit then
      if Moment.isTime ((d :: after).takeWhile isWordChar) then
        some (.moment, after.dropWhile isWordChar)
      else none
    else (scalarOf? word).map (·, rest)
  | _ => (scalarOf? word).map (·, rest)

def readScalar (t : Text) : Option (Item × Text) :=
  let value? : Option (Scalar × Text) :=
    match t.head? with
    | some '"' | some '\'' => (Quoting.read? t).map fun (value, rest) => (.text value, rest)
    | _ => readWord t
  value?.map fun (value, rest) => (.scalar (.between t rest) value, rest)

/-- The items of an array up to its closing bracket, and what follows that. The fuel bounds the
number of items. -/
def readItems (read : Text → Option (Item × Text)) : Nat → Text → Option (List Item × Text)
  | 0, _ => none
  | fuel + 1, t =>
    match skipGaps false t with
    | ']' :: rest => some ([], rest)
    | t => do
      let (item, rest) ← read t
      match skipGaps false rest with
      | ']' :: rest => return ([item], rest)
      | ',' :: rest => do
        let (items, rest) ← readItems read fuel rest
        return (item :: items, rest)
      | _ => none

def readPair (read : Text → Option (Item × Text)) (t : Text) :
    Option (List Key × Key × Item × Text) := do
  let (path, key, rest) ← readKey t
  match rest with
  | '=' :: rest => do
    let (item, rest) ← read (skipBlanks rest)
    return (path, key, item, rest)
  | _ => none

def readPairs (read : Text → Option (Item × Text)) : Nat → Item → Text → Option (Item × Text)
  | 0, _, _ => none
  | fuel + 1, table, t => do
    let (path, key, item, rest) ← readPair read t
    let table ← table.insert? path key item
    match skipBlanks rest with
    | '\x7d' :: rest => return (table, rest)
    | ',' :: rest => readPairs read fuel table rest
    | _ => none

def readInline (read : Text → Option (Item × Text)) (t : Text) : Option (Item × Text) :=
  match skipBlanks t with
  | '\x7d' :: rest => some (.emptyTable, rest)
  | t => readPairs read (t.length + 1) .emptyTable t

/-- The value at the start of a text, and what follows it. Containers stand in one another at most
`depth` deep. -/
def readValue : Nat → Text → Option (Item × Text)
  | 0, t => readScalar t
  | depth + 1, t =>
    match t with
    | '[' :: inner =>
      (readItems (readValue depth) (inner.length + 1) inner).map fun (items, rest) =>
        (.array (.between t rest) items, rest)
    | '\x7b' :: inner =>
      (readInline (readValue depth) inner).map fun (table, rest) =>
        (table.asInline (.between t rest), rest)
    | _ => readScalar t

end Migrations.Toml
