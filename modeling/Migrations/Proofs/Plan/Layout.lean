import Mathlib.Data.Finmap
import Migrations.Plan
import Migrations.Proofs.Text.Basic

namespace Migrations

structure Declaration where
  method : Text
  rest : Text

/-- The columns of a table and the constraints on them. A constraint stands on a column of the table
only, and is kept as the statement writes it. -/
@[ext]
structure Layout where
  columns : Finmap fun _ : Text => Declaration
  constraints : Finmap fun _ : Text => Text
  constrained : ∀ name ∈ constraints, name ∈ columns

inductive Change where
  | addColumn (name : Text) (declaration : Declaration)
  | addConstraint (column reference : Text)
  | dropConstraint (column : Text)
  | dropColumn (name : Text)

namespace Change

def ofCall? (method call : Text) : Option Change :=
  if method = "dropForeign" then
    ((Text.dropLead? call "['").bind (Text.dropSuffix? · "']);")).map dropConstraint
  else if method = "dropColumn" then
    ((Text.dropLead? call "'").bind (Text.dropSuffix? · "');")).map dropColumn
  else ((Text.dropLead? call "'").bind (Text.splitFirst? '\'')).map fun (name, rest) =>
    if method = "foreign" then addConstraint name rest else addColumn name ⟨method, rest⟩

/-- The change that a line of a body makes. A statement is read by its method and the column that it
names. -/
def ofLine? (line : Text) : Option Change :=
  ((Text.dropLead? line "            $table->").bind (Text.splitFirst? '(')).bind
    fun (method, call) => ofCall? method call

theorem ofLine?_call {method : Text} (h : '(' ∉ method) (call : Text) :
    ofLine? (Step.statementIndent ++ ("$table->" ++ method ++ '(' :: call)) =
      ofCall? method call := by
  have hl : ("            $table->" : String).toList =
      Step.statementIndent ++ ("$table->" : String).toList := rfl
  rw [ofLine?, hl, List.append_assoc, ← List.append_assoc, Text.dropLead?_append,
    Option.bind_some, Text.splitFirst?_append h, Option.bind_some]

theorem ofLine?_dropForeign (name : Text) :
    ofLine? (Step.statementIndent ++ (Statement.dropForeign name).text) =
      some (.dropConstraint name) := by
  have hp : '(' ∉ ("dropForeign" : Text) := by decide
  have ht : (Statement.dropForeign name).text = "$table->" ++ ("dropForeign" : String).toList ++
      '(' :: ("['" ++ name ++ ("']);" : String).toList) := rfl
  rw [ht, ofLine?_call hp, ofCall?, if_pos rfl, List.append_assoc, Text.dropLead?_append,
    Option.bind_some, Text.dropSuffix?_append, Option.map_some]

theorem ofLine?_dropColumn (name : Text) :
    ofLine? (Step.statementIndent ++ (Statement.dropColumn name).text) =
      some (.dropColumn name) := by
  have hp : '(' ∉ ("dropColumn" : Text) := by decide
  have ht : (Statement.dropColumn name).text = "$table->" ++ ("dropColumn" : String).toList ++
      '(' :: ("'" ++ name ++ ("');" : String).toList) := rfl
  rw [ht, ofLine?_call hp, ofCall?, if_neg (by decide), if_pos rfl, List.append_assoc,
    Text.dropLead?_append, Option.bind_some, Text.dropSuffix?_append, Option.map_some]

/-- A call that names its column first declares it or constrains it. -/
theorem ofCall?_named {method name : Text} (hf : method ≠ "dropForeign")
    (hd : method ≠ "dropColumn") (hn : '\'' ∉ name) (rest : Text) :
    ofCall? method ('\'' :: (name ++ '\'' :: rest)) =
      some (if method = "foreign" then .addConstraint name rest
        else .addColumn name ⟨method, rest⟩) := by
  have hl : Text.dropLead? ('\'' :: (name ++ '\'' :: rest)) "'" = some (name ++ '\'' :: rest) :=
    Text.dropLead?_append ['\''] _
  rw [ofCall?, if_neg hf, if_neg hd, hl, Option.bind_some, Text.splitFirst?_append hn,
    Option.map_some]

end Change

namespace Layout

/-- The layout after a change. A column must be new to be added, and a constraint needs a column
that has none. A column can be dropped once its constraint is gone. -/
def apply (l : Layout) : Change → Option Layout
  | .addColumn name declaration =>
    if name ∈ l.columns then none
    else some ⟨l.columns.insert name declaration, l.constraints, fun k hk =>
      Finmap.mem_insert.mpr (.inr (l.constrained k hk))⟩
  | .addConstraint column reference =>
    if h : column ∈ l.columns ∧ column ∉ l.constraints then
      some ⟨l.columns, l.constraints.insert column reference, fun k hk =>
        (Finmap.mem_insert.mp hk).elim (fun he => he ▸ h.1) (l.constrained k)⟩
    else none
  | .dropConstraint column =>
    if column ∈ l.constraints then
      some ⟨l.columns, l.constraints.erase column, fun k hk =>
        l.constrained k (Finmap.mem_erase.mp hk).2⟩
    else none
  | .dropColumn name =>
    if h : name ∈ l.columns ∧ name ∉ l.constraints then
      some ⟨l.columns.erase name, l.constraints, fun k hk =>
        Finmap.mem_erase.mpr ⟨fun he => h.2 (he ▸ hk), l.constrained k hk⟩⟩
    else none

def applyLine (l : Layout) (line : Text) : Option Layout := (Change.ofLine? line).bind l.apply

def run (table : Text) (l : Layout) : List Text → Option Layout
  | [] => none
  | opening :: rest =>
    if opening = "Schema::table('" ++ table ++ "', function (Blueprint $table) \x7b" ∧
        rest.getLast? = some ("        \x7d);" : String).toList then
      rest.dropLast.foldlM applyLine l
    else none

theorem erase_insert {β : Type} {m : Finmap fun _ : Text => β} {name : Text} (h : name ∉ m)
    (value : β) : (m.insert name value).erase name = m := by
  apply Finmap.ext_lookup
  intro k
  by_cases hk : k = name
  · subst hk
    rw [Finmap.lookup_erase, Finmap.lookup_eq_none.mpr h]
  · rw [Finmap.lookup_erase_ne hk, Finmap.lookup_insert_of_ne _ hk]

def perform (l : Layout) (body : List Statement) : Option Layout :=
  body.foldlM (fun l s => l.applyLine (Step.statementIndent ++ s.text)) l

theorem perform_append (l : Layout) (first rest : List Statement) :
    l.perform (first ++ rest) = (l.perform first).bind fun m => m.perform rest := List.foldlM_append

/-- The lines of a direction that changes a table are its statements, once its first and last line
are taken off. -/
theorem run_changeTable (table : Text) (body : List Statement) (l : Layout) :
    l.run table (Step.changeTable table body).lines = l.perform body := by
  have ho : ("Schema::" : String).toList ++ ("table" : String).toList ++ ("('" : String).toList =
      ("Schema::table('" : String).toList := rfl
  have hc : Step.closingIndent ++ ("\x7d);" : String).toList = ("        \x7d);" : String).toList :=
    rfl
  simp only [Step.lines, Step.closureLines, ho, hc, List.cons_append, run, List.getLast?_concat,
    List.dropLast_concat, and_self, if_true, List.foldlM_map, perform]

end Layout

end Migrations
