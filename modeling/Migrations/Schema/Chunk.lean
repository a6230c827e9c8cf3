import Migrations.Schema.Item

namespace Migrations.Schema

/-- A bare word after `status:enum:draft` is a further value of the enumeration. -/
def extendsEnum (segments : List Text) (word : Text) : Bool :=
  match segments with
  | [_, type, values] =>
    ColumnType.ofToken (keywordOf type) = .enum &&
      (splitList values).all (fun value => !namesModifier value) && Text.isIdentifier word
  | _ => false

/-- The piece belongs to the chunk in front of it. Only a chunk with a segment after its type can
be continued, by a piece that starts with a literal, has a modifier where a type would be, is a
modifier, or is a further value of an enumeration. -/
def continues (chunk piece : Text) : Bool :=
  let segments := Text.splitTop ':' chunk
  if segments.length ≤ 2 then false
  else
    match Text.splitTop ':' piece with
    | [] => false
    | [only] =>
      let word := Text.trim only
      Text.isLiteral word || namesModifier word || extendsEnum segments word
    | first :: second :: _ =>
      Text.isLiteral (Text.trim first) ||
        (namesModifier second &&
          ColumnType.ofToken (keywordOf second) = .custom (keywordOf second))

/-- The chunks of the pieces, where `chunk` is the one that they may still continue. -/
def gather (chunk : Text) : List Text → List Text
  | [] => [chunk]
  | piece :: rest =>
    if continues chunk piece then gather (chunk ++ ',' :: piece) rest
    else chunk :: gather piece rest

def chunks (schema : Text) : List Text :=
  match splitList schema with
  | [] => []
  | piece :: rest => gather piece rest

end Migrations.Schema
