import Migrations.Text.Basic

namespace Migrations

/-- The names on the way from the working directory to a place. The way to a place above it starts
with double dots, and that from the root of the disk with an empty name. -/
abbrev Location := List Text

namespace Path

def separator : Char := '/'

def isAbsolute (path : Text) : Bool := path.head? == some separator

/-- The path `tail` as seen from `base`. An absolute one does not depend on it. -/
def join (base tail : Text) : Text :=
  if isAbsolute tail || base.isEmpty then tail
  else if base.getLast? = some separator then base ++ tail
  else base ++ separator :: tail

def parts (path : Text) : List Text := Text.splitWhere (· == separator) path

def above : Text := ".."

def isIdle (part : Text) : Bool := part == [] || part == ['.']

def names (path : Text) : List Text :=
  (parts path).filter fun part => !isIdle part && part != above

def follow (place : Location) (part : Text) : Location :=
  if isIdle part then place
  else if part = above then
    match place.getLast? with
    | none => [above]
    | some [] => place
    | some last => if last = above then place ++ [above] else place.dropLast
  else place ++ [part]

def start (path : Text) : Location := if isAbsolute path then [[]] else []

/-- The place that a path names, whatever stands on the way to it. -/
def location (path : Text) : Location := (parts path).foldl follow (start path)

/-- The working directory, a directory above it, or the root of the disk. -/
def isAnchor (place : Location) : Bool := place == [[]] || place.all (· == above)

/-- What equal paths have in common. Idle parts do not count, except for a dot in front. -/
def components (path : Text) : Location × List Text :=
  match parts path with
  | [] => (start path, [])
  | first :: rest => (start path, first :: rest.filter (!isIdle ·))

def ofLocation : Location → Text
  | [] => "."
  | [[]] => [separator]
  | place => Text.join [separator] place

/-- The path can only mean a directory, because its last part is no name. -/
def namesDirectory (path : Text) : Bool :=
  (parts path).getLast?.all fun part => isIdle part || part == above

def dropIdle (ps : List Text) : List Text := (ps.reverse.dropWhile isIdle).reverse

/-- The path without its last part that leads anywhere. A path that leads nowhere has no parent. -/
def parent? (path : Text) : Option Text :=
  match parts path with
  | [] => none
  | first :: rest =>
    match dropIdle rest with
    | [] => if first = [] then none else some []
    | ps =>
      match first, dropIdle ps.dropLast with
      | [], [] => some [separator]
      | first, front => some (Text.join [separator] (first :: front))

theorem isAnchor_concat {place : Location} {name : Text} (hn : name ≠ []) (ha : name ≠ above) :
    isAnchor (place ++ [name]) = false := by
  rw [isAnchor, Bool.or_eq_false_iff, beq_eq_false_iff_ne]
  constructor
  · intro he
    have hl := congrArg List.getLast? he
    simp only [List.getLast?_concat, List.getLast?_singleton, Option.some.injEq] at hl
    exact hn hl
  · simp [ha]

end Path

end Migrations
