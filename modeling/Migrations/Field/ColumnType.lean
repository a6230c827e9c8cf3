import Migrations.Text.Basic

namespace Migrations

/-- The type of a column. A token that names no known type is kept as it was written. -/
inductive ColumnType where
  | string
  | char
  | text
  | mediumText
  | longText
  | integer
  | tinyInteger
  | smallInteger
  | mediumInteger
  | bigInteger
  | unsignedInteger
  | unsignedBigInteger
  | float
  | double
  | decimal
  | boolean
  | date
  | dateTime
  | dateTimeTz
  | time
  | timestamp
  | timestampTz
  | year
  | binary
  | json
  | jsonb
  | uuid
  | enum
  | foreignKey
  | custom (token : Text)
  deriving DecidableEq, Repr

namespace ColumnType

def known : List ColumnType :=
  [.string, .char, .text, .mediumText, .longText, .integer, .tinyInteger, .smallInteger,
    .mediumInteger, .bigInteger, .unsignedInteger, .unsignedBigInteger, .float, .double, .decimal,
    .boolean, .date, .dateTime, .dateTimeTz, .time, .timestamp, .timestampTz, .year, .binary, .json,
    .jsonb, .uuid, .enum, .foreignKey]

def name : ColumnType → Text
  | string => "string"
  | char => "char"
  | text => "text"
  | mediumText => "mediumText"
  | longText => "longText"
  | integer => "integer"
  | tinyInteger => "tinyInteger"
  | smallInteger => "smallInteger"
  | mediumInteger => "mediumInteger"
  | bigInteger => "bigInteger"
  | unsignedInteger => "unsignedInteger"
  | unsignedBigInteger => "unsignedBigInteger"
  | float => "float"
  | double => "double"
  | decimal => "decimal"
  | boolean => "boolean"
  | date => "date"
  | dateTime => "dateTime"
  | dateTimeTz => "dateTimeTz"
  | time => "time"
  | timestamp => "timestamp"
  | timestampTz => "timestampTz"
  | year => "year"
  | binary => "binary"
  | json => "json"
  | jsonb => "jsonb"
  | uuid => "uuid"
  | enum => "enum"
  | foreignKey => "foreignKey"
  | custom token => token

def method : ColumnType → Text
  | foreignKey => "unsignedBigInteger"
  | type => type.name

def token : ColumnType → Text
  | foreignKey => "foreign"
  | type => type.name

def aliases : List (Text × ColumnType) :=
  [("varchar", .string), ("int", .integer), ("tinyint", .tinyInteger),
    ("smallint", .smallInteger), ("mediumint", .mediumInteger), ("bigint", .bigInteger),
    ("bool", .boolean), ("foreignid", .foreignKey), ("references", .foreignKey)]

def tokens : List (Text × ColumnType) :=
  known.map (fun type => (type.token.lowerAscii, type)) ++ aliases

def ofToken (token : Text) : ColumnType :=
  match tokens.find? (·.1 = token.lowerAscii) with
  | some (_, type) => type
  | none => custom token

/-- Types whose arguments may be bare identifiers: the values of an enumeration and the target of
a foreign key. -/
def TakesIdentifiers (type : ColumnType) : Prop := type = enum ∨ type = foreignKey

instance (type : ColumnType) : Decidable type.TakesIdentifiers :=
  inferInstanceAs (Decidable (_ ∨ _))

theorem ofToken_token {type : ColumnType} (h : type ∈ known) : ofToken type.token = type := by
  revert h; revert type
  decide

end ColumnType

end Migrations
