import Migrations.Toml.Item

namespace Migrations.Toml

namespace Form

/-- Keys with dots lead only through tables that nothing but a key or a deeper header opened. -/
def isOpen : Form → Bool
  | implied | dotted => true
  | headed | inline => false

end Form

namespace Item

def find? (members : List (Key × Item)) (name : Text) : Option Item :=
  (members.find? (·.1.name = name)).map (·.2)

def replace (members : List (Key × Item)) (name : Text) (item : Item) : List (Key × Item) :=
  members.map fun (key, old) => if key.name = name then (key, item) else (key, old)

/-- Changes the table that a path leads to from this one. Missing tables on the way are made.
Headers also lead to the last table of an array. -/
def change? (dotted : Bool) (edit : Item → Option Item) : List Key → Item → Option Item
  | [], item => edit item
  | key :: path, table form span members =>
    match find? members key.name with
    | none => do
      let inner ← change? dotted edit path (table (if dotted then .dotted else .implied) none [])
      return table form span (members ++ [(key, inner)])
    | some (table inner span' members') => do
      if inner = .inline ∨ (dotted ∧ ¬ inner.isOpen) then none
      else
        let inner ← change? dotted edit path (table inner span' members')
        return table form span (replace members key.name inner)
    | some (tables elements) => do
      let last ← elements.getLast?
      let last ← change? dotted edit path last
      return table form span (replace members key.name (tables (elements.dropLast ++ [last])))
    | some _ => none
  | _ :: _, _ => none

/-- Adds a member. A key with dots cannot reach into a table that a header opened. -/
def add? (viaDots : Bool) (key : Key) (item : Item) : Item → Option Item
  | table form span members =>
    if (viaDots ∧ form ≠ .dotted) ∨ (find? members key.name).isSome then none
    else some (table form span (members ++ [(key, item)]))
  | _ => none

def insert? (root : Item) (path : List Key) (key : Key) (item : Item) : Option Item :=
  change? true (add? (path ≠ []) key item) path root

def extend (last : Option Span) : Item → Item
  | table form (some span) members =>
    table form (some ⟨span.start, (last.map Span.stop).getD span.stop⟩) members
  | item => item

def insertBelow? (root : Item) (current path : List Key) (key : Key) (item : Item) : Option Item :=
  change? false (fun t => (t.extend item.span?).insert? path key item) current root

/-- Opens the table of a header. If deeper headers implied it before, it moves to the end. -/
def openTable? (root : Item) (path : List Key) (key : Key) (header : Span) : Option Item :=
  change? false
    (fun
      | table form span members =>
        match find? members key.name with
        | none => some (table form span (members ++ [(key, table .headed (some header) [])]))
        | some (table .implied _ inner) =>
          some (table form span
            (members.filter (·.1.name ≠ key.name) ++ [(key, table .headed (some header) inner)]))
        | some _ => none
      | _ => none)
    path root

def openElement? (root : Item) (path : List Key) (key : Key) (header : Span) : Option Item :=
  let element := table .headed (some header) []
  change? false
    (fun
      | table form span members =>
        match find? members key.name with
        | none => some (table form span (members ++ [(key, tables [element])]))
        | some (tables elements) =>
          some (table form span (replace members key.name (tables (elements ++ [element]))))
        | some _ => none
      | _ => none)
    path root

def asInline (span : Span) : Item → Item
  | table _ _ members => table .inline (some span) members
  | item => item

end Item

end Migrations.Toml
