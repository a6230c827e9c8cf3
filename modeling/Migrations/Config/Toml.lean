import Migrations.Config.Basic
import Migrations.Decimal.Shortest
import Migrations.Text.DoubleQuoted
import Migrations.Toml.Document

namespace Migrations.Config

open Toml (Item Span)

inductive Fault where
  | unknownKey (name : Text)
  | unknownChoice (name : Text) (choices : List Text)
  | wrongType (found : Item) (wanted : Text)
  | noChoice
  | choiceTable (isEmpty : Bool)
  | choiceValue

namespace Fault

def inBackquotes (t : Text) : Text := '\x60' :: t ++ ['\x60']

def listChoices (choices : List Text) : Text :=
  match choices.map inBackquotes with
  | [a, b] => a ++ " or " ++ b
  | quoted => "one of " ++ Text.join ", " quoted

def integerText (n : Int) : Text :=
  (if n < 0 then ['-'] else []) ++ Nat.toDigits 10 n.natAbs

def describe : Item → Text
  | .scalar _ (.text t) => "string " ++ Text.quoteDouble t
  | .scalar _ (.integer n) => "integer " ++ inBackquotes (integerText n)
  | .scalar _ (.float x) => "floating point " ++ inBackquotes x.text
  | .scalar _ (.boolean b) => "boolean " ++ inBackquotes (if b then "true" else "false")
  | .scalar _ .moment | .table .. => "map"
  | .array .. | .tables .. => "sequence"

def message : Fault → Text
  | unknownKey name =>
    "unknown field " ++ inBackquotes name ++ ", expected " ++ listChoices (Key.all.map Key.name)
  | unknownChoice name choices =>
    "unknown variant " ++ inBackquotes name ++ ", expected " ++ listChoices choices
  | wrongType found wanted => "invalid type: " ++ describe found ++ ", expected " ++ wanted
  | noChoice => "wanted string or table"
  | choiceTable true => "wanted exactly 1 element, found 0 elements"
  | choiceTable false => "wanted exactly 1 element, more than 1 element"
  | choiceValue => "expected empty table"

end Fault

structure Finding where
  span : Span
  fault : Fault

/-- Where an item of a key stands. One that is written nowhere is found at its key. -/
def spanOf (key : Toml.Key) (item : Item) : Span := item.span?.getD key.span

def readPath (key : Toml.Key) : Item → Except Finding Text
  | .scalar _ (.text t) => .ok t
  | item => .error ⟨spanOf key item, .wrongType item "path string"⟩

def readFlag (key : Toml.Key) : Item → Except Finding Bool
  | .scalar _ (.boolean b) => .ok b
  | item => .error ⟨spanOf key item, .wrongType item "a boolean"⟩

def isEmptyContainer : Item → Bool
  | .array _ items => items.isEmpty
  | .table _ _ members => members.isEmpty
  | _ => false

/-- A choice is a text, or the only key of a table, with an empty container as its value. -/
def readChoice {α : Type} (names : List Text) (ofName? : Text → Option α) (key : Toml.Key)
    (item : Item) : Except Finding α :=
  match item with
  | .scalar span (.text name) =>
    match ofName? name with
    | some choice => .ok choice
    | none => .error ⟨span, .unknownChoice name names⟩
  | .table _ _ [(inner, value)] =>
    match ofName? inner.name with
    | none => .error ⟨inner.span, .unknownChoice inner.name names⟩
    | some choice =>
      if isEmptyContainer value then .ok choice
      else .error ⟨spanOf inner value, .choiceValue⟩
  | .table _ _ members => .error ⟨spanOf key item, .choiceTable members.isEmpty⟩
  | _ => .error ⟨spanOf key item, .noChoice⟩

def Key.valueOfToml (name : Toml.Key) (item : Item) : (key : Key) → Except Finding key.Value
  | .migrationsDir | .modelsDir => readPath name item
  | .generateModel | .overwrite => readFlag name item
  | .modifierPolicy =>
    readChoice (ModifierPolicy.all.map ModifierPolicy.name) ModifierPolicy.ofName? name item
  | .verbFallback =>
    readChoice (VerbFallback.all.map VerbFallback.name) VerbFallback.ofName? name item

def readMember (c : Config) (member : Toml.Key × Item) : Except Finding Config :=
  match Key.ofName? member.1.name with
  | none => .error ⟨member.1.span, .unknownKey member.1.name⟩
  | some key => (key.valueOfToml member.1 member.2).map (c.set key)

def readMembers (c : Config) : List (Toml.Key × Item) → Except Finding Config
  | [] => .ok c
  | member :: rest =>
    match readMember c member with
    | .error finding => .error finding
    | .ok c => readMembers c rest

def byteCount (t : Text) : Nat := t.foldl (fun n c => n + c.utf8Size) 0

/-- A message below the line of the source that it is about, with carets below the place. -/
def excerpt (source : Text) (finding : Finding) : Text :=
  let offset := source.length - finding.span.start
  let before := Text.splitWhere (· == '\n') (source.take offset)
  let column := (before.getLast?.getD []).length
  let line := ((Text.splitWhere (· == '\n') source)[before.length - 1]?).getD []
  let place := (source.drop offset).take (finding.span.start - finding.span.stop)
  let carets := max 1 (min (byteCount place) (byteCount line - column))
  let number := Nat.toDigits 10 before.length
  let gutter : Text := List.replicate (number.length + 1) ' ' ++ ['|']
  Text.join ['\n'] [
    "TOML parse error at line " ++ number ++ ", column " ++ Nat.toDigits 10 (column + 1),
    gutter,
    number ++ " | " ++ line,
    gutter ++ List.replicate (column + 1) ' ' ++ List.replicate carets '^',
    finding.fault.message,
    ""]

def ofToml (source : Text) : Except Error Config :=
  match Toml.read source with
  | some (.table _ _ members) =>
    (readMembers {} members).mapError fun finding => .invalidConfig (excerpt source finding)
  | _ => .error (.invalidConfig "TOML parse error")

end Migrations.Config
