import Migrations.Proofs.Intent.Parser

namespace Migrations.Intent

open Text (IsLowerWord StartsWithLetter)

structure Target where
  words : List Text
  closing : List Text
  words_ne_nil : words ≠ []
  isLowerWord : ∀ w ∈ words, IsLowerWord w
  startsWithLetter : StartsWithLetter (Text.join ['_'] words)
  closes : Closes words closing

/-- The name that the words give, which the table is the plural of. -/
def Target.name (t : Target) : Text := Text.join ['_'] t.words

/-- What the name of a migration spells, by the words of its parts. Only the last connective counts
as one, and only the closing `table` is dropped. -/
inductive Spelling where
  | creation (target : Target)
  /-- Columns of an existing table: a verb, the words of the columns, a connective and the table.
  The table has no connective of the action among its words. Columns that end in `id` refer to
  another table, and start with a letter then. -/
  | alteration (verb : Text) (action : Action) (columns : List Text) (connective : Text)
      (target : Target) (verb_mem : (verb, action) ∈ Action.verbs)
      (connective_mem : connective ∈ action.connectives)
      (isLowerWord : ∀ w ∈ columns, IsLowerWord w)
      (startsWithLetter : 2 ≤ columns.length → columns.getLast? = some ("id" : Text) →
        StartsWithLetter (Text.join ['_'] columns))
      (not_mem : ∀ w ∈ target.words, w ∉ action.connectives)

namespace Spelling

def words : Spelling → List Text
  | creation t => "create" :: (t.words ++ t.closing)
  | alteration verb _ columns connective t .. =>
    verb :: (columns ++ connective :: t.words ++ t.closing)

def name (s : Spelling) : Text := Text.join ['_'] s.words

def intent (s : Spelling) : Intent :=
  match s with
  | creation t => ⟨s.name, .create, Name.pluralize t.name, none⟩
  | alteration _ action columns _ t .. =>
    ⟨s.name, action, Name.pluralize t.name,
      if 2 ≤ columns.length ∧ columns.getLast? = some ("id" : Text) then
        some (Name.pluralize (Text.join ['_'] columns.dropLast))
      else none⟩

end Spelling

theorem relatedTable?_eq (columns : List Text) :
    relatedTable? columns =
      if 2 ≤ columns.length ∧ columns.getLast? = some ("id" : Text) then
        some (Name.pluralize (Text.join ['_'] columns.dropLast))
      else none := by
  have hl : columns.dropLast ≠ [] ↔ 2 ≤ columns.length := by
    rw [← List.length_pos_iff, List.length_dropLast]
    omega
  exact if_congr (and_comm.trans (and_congr_left' hl)) rfl rfl

/-- A name is read as the migration that its words spell, under either fallback. -/
theorem parse_spelling (s : Spelling) (fallback : VerbFallback) :
    parse fallback s.name = .ok s.intent := by
  cases s with
  | creation t =>
    exact parse_creation t.words_ne_nil t.isLowerWord t.startsWithLetter t.closes fallback
  | alteration verb action columns connective t hv hm hw hs hc =>
    have hr : relatedTable? columns ≠ none → StartsWithLetter (Text.join ['_'] columns) := by
      rw [relatedTable?_eq]
      intro hne
      split at hne
      · rename_i hid
        exact hs hid.1 hid.2
      · contradiction
    have hp := parse_alteration hv hm hw hr t.words_ne_nil t.isLowerWord t.startsWithLetter hc
      t.closes fallback
    rw [relatedTable?_eq] at hp
    exact hp

/-- The first `to` belongs to the columns, and so does the first `table`. -/
theorem parse_spelling_path_to_table :
    ∃ s : Spelling, s.name = "insert_path_to_table_id_into_insert_table_table" ∧
      s.intent = ⟨"insert_path_to_table_id_into_insert_table_table", .add, "insert_tables",
        some "path_to_tables"⟩ ∧
      parse .reject s.name = .ok s.intent := by
  let s : Spelling := .alteration "insert" .add ["path", "to", "table", "id"] "into"
    ⟨["insert", "table"], ["table"], by simp, by decide, by simp [StartsWithLetter, Text.join],
      .inl rfl⟩
    (by decide) (by decide) (by decide) (by simp [StartsWithLetter, Text.join]) (by decide)
  exact ⟨s, by decide, by decide +kernel, parse_spelling s .reject⟩

end Migrations.Intent
