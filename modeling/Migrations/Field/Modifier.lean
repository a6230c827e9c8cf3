import Migrations.Text.Basic

namespace Migrations

/-- What can be said about a column besides its type. The order of the list is the order of all
printed modifiers. -/
inductive Modifier where
  | unsigned
  | unique
  | index
  | nullable
  | default
  | comment
  | foreign
  | cascade
  deriving DecidableEq, Repr

inductive ValueRule where
  | flag
  | literal
  | optionalLiteral
  deriving DecidableEq, Repr

namespace Modifier

def all : List Modifier :=
  [.unsigned, .unique, .index, .nullable, .default, .comment, .foreign, .cascade]

/-- The modifiers that are chained onto a column, in order. The others speak of its foreign key. -/
def chained : List Modifier := [.unsigned, .unique, .index, .nullable, .default, .comment]

def keyword : Modifier → Text
  | unsigned => "unsigned"
  | unique => "unique"
  | index => "index"
  | nullable => "nullable"
  | default => "default"
  | comment => "comment"
  | foreign => "foreign"
  | cascade => "cascade"

def ofKeyword? (keyword : Text) : Option Modifier :=
  all.find? (·.keyword = keyword.lowerAscii)

def valueRule : Modifier → ValueRule
  | default | comment => .literal
  | foreign => .optionalLiteral
  | _ => .flag

theorem mem_all (m : Modifier) : m ∈ all := by cases m <;> decide

theorem ofKeyword?_keyword (m : Modifier) : ofKeyword? m.keyword = some m := by
  cases m <;> decide

end Modifier

inductive Setting where
  | flag
  | literal (value : Text)
  deriving DecidableEq, Repr

namespace Setting

def literal? : Setting → Option Text
  | flag => none
  | literal value => some value

end Setting

structure Settings where
  get? : Modifier → Option Setting

namespace Settings

def empty : Settings := ⟨fun _ => none⟩

def set (s : Settings) (m : Modifier) (value : Setting) : Settings :=
  ⟨fun k => if k = m then some value else s.get? k⟩

def erase (s : Settings) (m : Modifier) : Settings :=
  ⟨fun k => if k = m then none else s.get? k⟩

def has (s : Settings) (m : Modifier) : Bool := (s.get? m).isSome

def literal? (s : Settings) (m : Modifier) : Option Text := (s.get? m).bind Setting.literal?

def toList (s : Settings) : List (Modifier × Setting) :=
  Modifier.all.filterMap fun m => (s.get? m).map (m, ·)

def ofList (entries : List (Modifier × Setting)) : Settings :=
  entries.foldl (fun s (m, value) => s.set m value) empty

theorem ext {s t : Settings} (h : ∀ m, s.get? m = t.get? m) : s = t := by
  cases s; cases t; congr; exact funext h

theorem eq_iff_all (s t : Settings) : s = t ↔ ∀ m ∈ Modifier.all, s.get? m = t.get? m :=
  ⟨fun h _ _ => h ▸ rfl, fun h => ext fun m => h m m.mem_all⟩

instance : DecidableEq Settings := fun s t => decidable_of_iff _ (eq_iff_all s t).symm

@[simp] theorem get?_empty (m : Modifier) : empty.get? m = none := rfl

@[simp] theorem get?_set (s : Settings) (m k : Modifier) (value : Setting) :
    (s.set m value).get? k = if k = m then some value else s.get? k := rfl

@[simp] theorem get?_erase (s : Settings) (m k : Modifier) :
    (s.erase m).get? k = if k = m then none else s.get? k := rfl

end Settings

end Migrations
