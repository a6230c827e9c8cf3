import Migrations.Decimal.Double
import Migrations.Text.Basic

namespace Migrations.Toml

/-- A part of a document, by the numbers of characters that are left where it starts and where it
stops. -/
structure Span where
  start : Nat
  stop : Nat
  deriving DecidableEq, Repr

def Span.between (rest after : Text) : Span := ⟨rest.length, after.length⟩

structure Key where
  name : Text
  span : Span
  deriving DecidableEq, Repr

inductive Scalar where
  | text (t : Text)
  | integer (n : Int)
  | float (x : Double)
  | boolean (b : Bool)
  | moment
  deriving DecidableEq, Repr

/-- How a table came about: by a header of its own, on the way to another header, on the way to a
key with dots, or in braces. Nothing can be added to one in braces. -/
inductive Form where
  | headed
  | implied
  | dotted
  | inline
  deriving DecidableEq, Repr

inductive Item where
  | scalar (span : Span) (value : Scalar)
  | array (span : Span) (items : List Item)
  | table (form : Form) (span : Option Span) (members : List (Key × Item))
  | tables (elements : List Item)

namespace Item

def emptyTable : Item := table .headed none []

/-- Where an item starts and stops. A table without a header and braces is written nowhere. -/
def span? : Item → Option Span
  | scalar span _ | array span _ => some span
  | table _ span _ => span
  | tables elements =>
    match elements.head?, elements.getLast? with
    | some (table _ (some first) _), some (table _ (some last) _) =>
      some ⟨first.start, last.stop⟩
    | _, _ => none

end Item

end Migrations.Toml
