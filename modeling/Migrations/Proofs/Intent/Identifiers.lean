import Migrations.Proofs.Intent.Parser
import Migrations.Proofs.Name.SnakeCase

namespace Migrations.Intent

open Text (IsAscii IsLowerWord StartsWithLetter)

theorem cases_of_readVerb {fallback : VerbFallback} {words rest : List Text} {action : Action}
    (h : readVerb fallback words = .ok (action, rest)) :
    (∃ verb, words = verb :: rest ∧ Action.ofVerb? verb = some action) ∨
      (fallback = .add ∧ action = .add ∧ words ≠ [] ∧ rest = words) := by
  unfold readVerb at h
  split at h
  · cases h
  · rename_i first others
    split at h
    · rename_i found _ hv
      obtain ⟨rfl, rfl⟩ := Prod.mk.inj (Except.ok.inj h)
      exact .inl ⟨first, rfl, hv⟩
    · obtain ⟨rfl, rfl⟩ := Prod.mk.inj (Except.ok.inj h)
      exact .inr ⟨rfl, rfl, by simp, rfl⟩
    · cases h

theorem mem_of_readVerb {fallback : VerbFallback} {words rest : List Text} {action : Action}
    (h : readVerb fallback words = .ok (action, rest)) : ∀ w ∈ rest, w ∈ words := by
  intro w hw
  rcases cases_of_readVerb h with ⟨verb, rfl, -⟩ | ⟨-, -, -, rfl⟩
  · exact List.mem_cons_of_mem verb hw
  · exact hw

theorem mem_of_dropClosing {words : List Text} {w : Text} (h : w ∈ dropClosing words) :
    w ∈ words := by
  unfold dropClosing at h
  split at h
  · exact List.dropLast_subset words h
  · exact h

theorem mem_of_splitAtConnective {connectives words columns target : List Text}
    (h : splitAtConnective connectives words = (columns, target)) : ∀ w ∈ target, w ∈ words := by
  intro w hw
  unfold splitAtConnective at h
  dsimp only at h
  split at h
  · obtain ⟨-, rfl⟩ := Prod.mk.inj h
    exact hw
  · obtain ⟨-, rfl⟩ := Prod.mk.inj h
    exact List.mem_reverse.mp (List.takeWhile_subset _ (List.mem_reverse.mp hw))

/-- A verb is a word of letters, so a name that is read without a fallback starts with one. -/
theorem startsWithLetter_of_verb {verb : Text} {action : Action} (hw : IsLowerWord verb)
    (h : Action.ofVerb? verb = some action) : StartsWithLetter verb := by
  have hv : ∀ entry ∈ Action.verbs, StartsWithLetter entry.1 := by
    simp [Action.verbs, StartsWithLetter]
  have hl : verb.lowerAscii = verb := by
    rw [Text.lowerAscii, List.map_congr_left fun c hc => (hw.2 c hc).eq_lower.2, List.map_id']
  obtain ⟨entry, hf, -⟩ := Option.map_eq_some_iff.mp h
  have he : entry.1 = verb := by simpa [hl] using List.find?_some hf
  exact he ▸ hv entry (List.mem_of_find?_eq_some hf)

section Accepted

variable {fallback : VerbFallback} {name : Text} {i : Intent}

/-- The words of an accepted ASCII name, of which some name the table. -/
theorem exists_words_of_parse (ha : IsAscii name) (h : parse fallback name = .ok i) :
    ∃ words target : List Text, (∀ w ∈ words, IsLowerWord w) ∧ i.name = Text.join ['_'] words ∧
      (∃ action rest, readVerb fallback words = .ok (action, rest)) ∧ words ≠ [] ∧
      target ≠ [] ∧ (∀ w ∈ target, w ∈ words) ∧
      i.table = Name.pluralize (Text.join ['_'] target) := by
  obtain ⟨action, rest, hv, hr, -⟩ := parse_ok_iff.mp h
  obtain ⟨columns, target, hs, hn, rfl⟩ := readTable_ok_iff.mp hr
  have hl := Name.forall_isLowerWord_of_ascii ha
  have hws : (Name.words name).map Name.lowerWord ≠ [] := by
    intro he
    rw [Name.snake, he] at hv
    cases hv
  rw [Name.snake, wordsOf_join hws hl] at hv
  refine ⟨_, target, hl, rfl, ⟨action, rest, hv⟩, hws, hn, fun w hw => ?_, rfl⟩
  exact mem_of_readVerb hv w (mem_of_dropClosing (mem_of_splitAtConnective hs w hw))

theorem isSnakeCase_name (ha : IsAscii name) (h : parse fallback name = .ok i) :
    Name.IsSnakeCase i.name := by
  obtain ⟨words, _, hl, hi, -, hn, -⟩ := exists_words_of_parse ha h
  exact ⟨words, hn, hl, hi⟩

theorem isSnakeCase_table (ha : IsAscii name) (h : parse fallback name = .ok i) :
    Name.IsSnakeCase i.table := by
  obtain ⟨words, target, hl, -, -, -, hn, hm, ht⟩ := exists_words_of_parse ha h
  have hs : Name.IsSnakeCase (Text.join ['_'] target) :=
    ⟨target, hn, fun w hw => hl w (hm w hw), rfl⟩
  exact ht ▸ hs.pluralize

theorem startsWithLetter_of_reject (ha : IsAscii name) (h : parse .reject name = .ok i) :
    StartsWithLetter i.name := by
  obtain ⟨words, _, hl, hi, ⟨action, rest, hv⟩, -⟩ := exists_words_of_parse ha h
  rcases cases_of_readVerb hv with ⟨verb, rfl, ho⟩ | ⟨hf, -⟩
  · have hw : IsLowerWord verb := hl verb (by simp)
    rw [hi, Text.join_cons_flatMap, Text.startsWithLetter_append hw.1]
    exact startsWithLetter_of_verb hw ho
  · cases hf

/-- The tables and the model of an accepted ASCII name are identifiers. Its class is one exactly if
a letter comes first in the normalized name, as it does whenever there has to be a verb. -/
theorem identifiers_of_parse (ha : IsAscii name) (h : parse fallback name = .ok i) :
    Text.isIdentifier i.table = true ∧
      (∀ related, i.relatedTable = some related → Text.isIdentifier related = true) ∧
      Text.isIdentifier i.modelName = true ∧
      (Text.isIdentifier i.className = true ↔ StartsWithLetter i.name) ∧
      (fallback = .reject → Text.isIdentifier i.className = true) := by
  obtain ⟨_, _, _, _, hf⟩ := parse_ok_iff.mp h
  obtain ⟨_, htable, hrelated⟩ := flaw?_eq_none_iff.mp hf
  have hclass := (isSnakeCase_name ha h).isIdentifier_pascal_iff
  have hmodel := (isSnakeCase_table ha h).isIdentifier_modelName htable
  refine ⟨htable, fun related hr => (hrelated related hr).2, hmodel, hclass, ?_⟩
  rintro rfl
  exact hclass.mpr (startsWithLetter_of_reject ha h)

end Accepted

/-- A name with a related table, in capitals. -/
theorem identifiers_of_parse_comments :
    let i : Intent := ⟨"add_user_id_to_blog_comments_table", .add, "blog_comments", some "users"⟩
    IsAscii "AddUserIDToBlogCommentsTable" ∧
      parse .reject "AddUserIDToBlogCommentsTable" = .ok i ∧
      Text.isIdentifier i.table = true ∧ Text.isIdentifier i.modelName = true ∧
      Text.isIdentifier i.className = true := by
  intro i
  have ha : IsAscii "AddUserIDToBlogCommentsTable" := by decide
  have hp : parse .reject "AddUserIDToBlogCommentsTable" = .ok i := by decide +kernel
  obtain ⟨htable, _, hmodel, _, hclass⟩ := identifiers_of_parse ha hp
  exact ⟨ha, hp, htable, hmodel, hclass rfl⟩

/-- The columns begin with a digit, and so does the class, although the name is accepted. -/
theorem digit_begins_class :
    let i : Intent := ⟨"2fa_to_users_table", .add, "users", none⟩
    parse .add "2fa_to_users_table" = .ok i ∧ i.className = "2faToUsersTable" ∧
      Text.isIdentifier i.className = false := by
  decide +kernel

end Migrations.Intent
