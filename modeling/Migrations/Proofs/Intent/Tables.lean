import Migrations.Field.Basic
import Migrations.Intent.Pivot
import Migrations.Proofs.Intent.Parser

namespace Migrations

open Text (IsLowerWord StartsWithLetter)

/-- A foreign key without arguments and modifiers refers to the table that its name tells. -/
theorem Field.foreignKey?_plain (name : Text) :
    (Field.plain name .foreignKey).foreignKey? = some (.toTable (Name.foreignTable name)) := by
  simp [foreignKey?, IsForeign, reference, plain, target?, targetColumn?, Settings.literal?,
    Settings.has, Reference.toTable]

namespace Pivot

def references (p : Pivot) : List (Text × Text) :=
  [(p.columns.1, p.tables.1), (p.columns.2, p.tables.2)]

theorem mem_references {p : Pivot} {column table : Text} :
    (column, table) ∈ p.references ↔
      ∃ side, (side = p.first ∨ side = p.second) ∧ column = side ++ "_id" ∧
        table = Name.pluralize side := by
  simp [references, columns, tables, or_and_right, exists_or]

theorem mem_ofTables {one other side : Text} :
    (side = (ofTables one other).first ∨ side = (ofTables one other).second) ↔
      side = Name.singularize one ∨ side = Name.singularize other := by
  rw [ofTables]
  split
  · exact or_comm
  · rfl

/-- The columns of a join table refer to the plurals of its two sides. -/
theorem mem_references_ofTables {one other side table : Text} :
    (side ++ "_id", table) ∈ (ofTables one other).references ↔
      (side = Name.singularize one ∨ side = Name.singularize other) ∧
        table = Name.pluralize side := by
  rw [mem_references]
  constructor
  · rintro ⟨s, hs, hc, rfl⟩
    obtain rfl : side = s := List.append_cancel_right hc
    exact ⟨mem_ofTables.mp hs, rfl⟩
  · rintro ⟨hs, rfl⟩
    exact ⟨side, mem_ofTables.mpr hs, rfl, rfl⟩

end Pivot

namespace Name.Entity

theorem isLowerWord_column (e : Entity) : ∀ w ∈ e.words ++ [("id" : Text)], IsLowerWord w := by
  simp only [List.forall_mem_append]
  exact ⟨e.isLowerWord, by decide⟩

/-- A column that is named after an entity refers to the plural of it. -/
theorem foreignTable_name (e : Entity) : foreignTable (e.name ++ "_id") = pluralize e.name := by
  have hj : e.name ++ "_id" = Text.join ['_'] (e.words ++ [("id" : Text)]) := by
    rw [Text.join_append e.words_ne_nil (by simp), List.append_assoc]
    rfl
  have hs : snake (e.name ++ "_id") = e.name ++ "_id" := by
    rw [hj, snake_join (by simp) e.isLowerWord_column]
  rw [foreignTable, hs, Text.dropSuffix?_append]
  rfl

theorem createName_eq (e : Entity) :
    Intent.createName e.words = "create_" ++ e.name ++ "_table" := by
  rw [Intent.createName, Text.join_cons (by simp), Text.join_append e.words_ne_nil (by simp)]
  simp [name, Intent.closingWord, Text.join]

theorem alterName_eq (e target : Entity) :
    Intent.alterName "add" (e.words ++ [("id" : Text)]) "to" target.words =
      "add_" ++ e.name ++ "_id_to_" ++ target.name ++ "_table" := by
  have hl : e.words ++ [("id" : Text)] ++ ("to" : Text) :: target.words ++ [Intent.closingWord] =
      e.words ++ ("id" : Text) :: ("to" : Text) :: (target.words ++ [Intent.closingWord]) := by
    simp
  rw [Intent.alterName, hl, Text.join_cons (by simp), Text.join_append e.words_ne_nil (by simp),
    Text.join_cons (by simp), Text.join_cons (by simp),
    Text.join_append target.words_ne_nil (by simp)]
  simp [name, Intent.closingWord, Text.join]

/-- The table of an entity is its plural: for the migration that makes it, for a column that is
named after it, for a migration that adds such a column to another table, and for its column in a
join table. The entity itself may have words such as `to` and `table`. -/
theorem tables_agree (e target : Entity) (hs : singularize e.name = e.name)
    (hto : ("to" : Text) ∉ target.words) (hinto : ("into" : Text) ∉ target.words)
    (fallback : VerbFallback) :
    (∃ i, Intent.parse fallback ("create_" ++ e.name ++ "_table") = .ok i ∧
        i.table = pluralize e.name) ∧
      (∃ r, (Field.plain (e.name ++ "_id") .foreignKey).foreignKey? = some r ∧
        r.table = pluralize e.name) ∧
      (∃ i, Intent.parse fallback ("add_" ++ e.name ++ "_id_to_" ++ target.name ++ "_table") =
          .ok i ∧ i.relatedTable = some (pluralize e.name)) ∧
      ∀ other table,
        (e.name ++ "_id", table) ∈ (Pivot.ofTables e.name other).references ↔
          table = pluralize e.name := by
  refine ⟨?create, ?column, ?add, ?pivot⟩
  case create =>
    rw [← createName_eq]
    exact ⟨_, Intent.parse_createName e.words_ne_nil e.isLowerWord e.startsWithLetter fallback, rfl⟩
  case column =>
    rw [Field.foreignKey?_plain, e.foreignTable_name]
    exact ⟨.toTable (pluralize e.name), rfl, rfl⟩
  case add =>
    have hl : StartsWithLetter (Text.join ['_'] (e.words ++ [("id" : Text)])) :=
      (Text.startsWithLetter_join_append e.words_ne_nil (by simp) e.isLowerWord).mpr
        e.startsWithLetter
    have ht : ∀ w ∈ target.words, w ∉ Action.add.connectives := by
      intro w hw
      simp only [Action.connectives, List.mem_cons, List.not_mem_nil, or_false, not_or]
      exact ⟨fun h => hto (h ▸ hw), fun h => hinto (h ▸ hw)⟩
    rw [← alterName_eq]
    exact ⟨_, Intent.parse_alterName (by decide) (by decide) e.isLowerWord_column hl
      target.words_ne_nil target.isLowerWord target.startsWithLetter ht fallback,
      Intent.relatedTable?_concat e.words_ne_nil⟩
  case pivot =>
    intro other table
    rw [Pivot.mem_references_ofTables, hs]
    simp

/-- The connective among the words of the entity is not taken for that of the migration. -/
theorem tables_agree_path_to_file :
    (∃ i, Intent.parse .reject "create_path_to_file_table" = .ok i ∧
        i.table = pluralize "path_to_file") ∧
      (∃ r, (Field.plain "path_to_file_id" .foreignKey).foreignKey? = some r ∧
        r.table = pluralize "path_to_file") ∧
      (∃ i, Intent.parse .reject "add_path_to_file_id_to_upload_table" = .ok i ∧
        i.relatedTable = some (pluralize "path_to_file")) ∧
      ∀ other table,
        (("path_to_file_id" : Text), table) ∈ (Pivot.ofTables "path_to_file" other).references ↔
          table = pluralize "path_to_file" :=
  tables_agree ⟨["path", "to", "file"], by simp, by simp⟩ ⟨["upload"], by simp, by simp⟩
    (by decide +kernel) (by decide) (by decide) .reject

end Name.Entity

end Migrations
