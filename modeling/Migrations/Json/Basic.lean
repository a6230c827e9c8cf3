import Migrations.Text.Basic

namespace Migrations

/-- A structured value. Numbers are kept as they are written. -/
inductive Json where
  | null
  | bool (b : Bool)
  | number (numeral : Text)
  | string (t : Text)
  | array (items : List Json)
  | object (members : List (Text × Json))
  deriving Inhabited

namespace Json

def texts (ts : List Text) : Json := array (ts.map string)

def text? : Json → Option Text
  | string t => some t
  | _ => none

def bool? : Json → Option Bool
  | bool b => some b
  | _ => none

def texts? : Json → Option (List Text)
  | array items => items.mapM text?
  | _ => none

/-- The values of the given keys. An object may lack some and have others besides, and an array has
one value for every key. -/
def columns? (keys : List Text) : Json → Option (List (Option Json))
  | object members => some (keys.map fun key => (members.find? (·.1 = key)).map (·.2))
  | array items => if items.length = keys.length then some (items.map some) else none
  | _ => none

/-- The name of a variant without a value: the name alone, or an object with the name for its only
key and nothing as its value. -/
def variant? : Json → Option Text
  | string name => some name
  | object [(name, null)] => some name
  | _ => none

def optionalText? : Option Json → Option (Option Text)
  | none | some null => some none
  | some (string t) => some (some t)
  | some _ => none

def optionalMember (key : Text) : Option Text → List (Text × Json)
  | none => []
  | some t => [(key, string t)]

theorem texts?_texts (ts : List Text) : (texts ts).texts? = some ts := by
  simp only [texts, texts?]
  induction ts with
  | nil => rfl
  | cons t ts ih => simp [text?, ih]

end Json

end Migrations
