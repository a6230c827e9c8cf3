import Migrations.Field.Basic
import Migrations.Notice
import Migrations.Schema.Chunk

namespace Migrations

inductive ModifierPolicy where
  | reject
  | ignore
  deriving DecidableEq, Repr

namespace Schema

inductive Refusal where
  | malformed (fault : FieldFault)
  | unsupported (keyword : Text)
  deriving DecidableEq, Repr

def Refusal.toError (index : Nat) (chunk : Text) : Refusal → Error
  | malformed fault => .malformedField index chunk fault
  | unsupported keyword => .unsupportedModifier index keyword

/-- A field as it is written: its arguments are known and its modifiers still unread. -/
structure Draft where
  name : Text
  type : ColumnType
  arguments : List Text
  items : List Text
  deriving DecidableEq, Repr

def readSegments (name : Text) (type : ColumnType) (inline : List Text) (rest : List Text) :
    Except FieldFault Draft :=
  match rest with
  | [] => .ok ⟨name, type, inline, []⟩
  | first :: others =>
    if areArguments type (splitList first) then
      if inline ≠ [] then .error .argumentsTwice
      else .ok ⟨name, type, splitList first, others.flatMap splitList⟩
    else .ok ⟨name, type, inline, rest.flatMap splitList⟩

def readDraft (chunk : Text) : Except FieldFault Draft :=
  if ¬ Text.isBalanced chunk then .error .unbalanced
  else
    match (Text.splitTop ':' chunk).map Text.trim with
    | [] => .error .missingName
    | name :: segments =>
      if name = [] then .error .missingName
      else
        match segments with
        | [] => .error .missingType
        | token :: rest =>
          if token = [] then .error .missingType
          else
            match splitCall? token with
            | none => .error .unclosedCall
            | some (word, inline) =>
              if word = [] then .error .missingType
              else readSegments name (.ofToken word) ((inline.map splitList).getD []) rest

def applyModifier (s : Settings) (m : Modifier) (value : Option Text) :
    Except FieldFault Settings :=
  match m.valueRule, value with
  | .flag, none | .optionalLiteral, none => .ok (s.set m .flag)
  | .flag, some value =>
    if (Text.trim value).lowerAscii = "true" then .ok (s.set m .flag)
    else if (Text.trim value).lowerAscii = "false" then .ok (s.erase m)
    else .error (.notBoolean m value)
  | .literal, none => .error (.valueMissing m)
  | .literal, some value | .optionalLiteral, some value =>
    if Text.trim value = [] then .error (.valueBlank m) else .ok (s.set m (.literal value))

def applyItem (policy : ModifierPolicy) (s : Settings) (item : Text) : Except Refusal Settings :=
  match splitCall? item with
  | none => .error (.malformed .unclosedCall)
  | some (keyword, value) =>
    match Modifier.ofKeyword? keyword with
    | some m => (applyModifier s m value).mapError .malformed
    | none =>
      match policy with
      | .reject => .error (.unsupported keyword)
      | .ignore => .ok s

def applyItems (policy : ModifierPolicy) : Settings → List Text → Except Refusal Settings
  | s, [] => .ok s
  | s, item :: rest =>
    match applyItem policy s item with
    | .error refusal => .error refusal
    | .ok s => applyItems policy s rest

def readField (policy : ModifierPolicy) (chunk : Text) : Except Refusal Field :=
  match readDraft chunk with
  | .error fault => .error (.malformed fault)
  | .ok draft =>
    match applyItems policy .empty draft.items with
    | .error refusal => .error refusal
    | .ok settings =>
      let field : Field := ⟨draft.name, draft.type, draft.arguments, settings⟩
      match field.flaw? with
      | some flaw => .error (.malformed (.flawed flaw))
      | none => .ok field

/-- The fields of the chunks, which are counted from `index` on. The first bad chunk decides. -/
def readFields (policy : ModifierPolicy) : Nat → List Text → Except Error (List Field)
  | _, [] => .ok []
  | index, chunk :: rest =>
    match readField policy chunk with
    | .error refusal => .error (refusal.toError index chunk)
    | .ok field => (readFields policy (index + 1) rest).map (field :: ·)

/-- The fields of a schema, in order. A field is written `name:type`, then its constructor
arguments, then modifiers, which colons and commas separate alike. The arguments stand in
parentheses after the type or in the segment after it. -/
def parse (policy : ModifierPolicy) (schema : Text) : Except Error (List Field) :=
  readFields policy 1 (chunks schema)

/-- The keywords of a chunk that are passed over, up to its first refused item. -/
def passedOver (chunk : Text) : List Text :=
  match readDraft chunk with
  | .error _ => []
  | .ok draft =>
    let read := draft.items.takeWhile fun item => (applyItem .ignore .empty item).isOk
    (read.map keywordOf).filter fun keyword => (Modifier.ofKeyword? keyword).isNone

def noticesFrom : Nat → List Text → List Notice
  | _, [] => []
  | index, chunk :: rest =>
    (passedOver chunk).map (.ignoredModifier index) ++
      if (readField .ignore chunk).isOk then noticesFrom (index + 1) rest else []

def notices (policy : ModifierPolicy) (schema : Text) : List Notice :=
  match policy with
  | .reject => []
  | .ignore => noticesFrom 1 (chunks schema)

end Schema

end Migrations
