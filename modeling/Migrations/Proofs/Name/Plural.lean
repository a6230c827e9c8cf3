import Migrations.Proofs.Name.Inflection

namespace Migrations

/-- The end of a text decides about a suffix that is not longer. -/
theorem Text.isSuffixOf_append {suffix back : Text} (h : suffix.length ≤ back.length)
    (front : Text) : suffix.isSuffixOf (front ++ back) = suffix.isSuffixOf back := by
  rw [Bool.eq_iff_iff, List.isSuffixOf_iff_suffix, List.isSuffixOf_iff_suffix]
  constructor
  · intro hs
    exact List.suffix_of_suffix_length_le hs (List.suffix_append front back) h
  · intro hs
    exact hs.trans (List.suffix_append front back)

namespace Name

open Text (IsLowerWord)

theorem endsInOneOf_append {endings : List Text} {back : Text}
    (h : ∀ ending ∈ endings, ending.length ≤ back.length) (front : Text) :
    endsInOneOf endings (front ++ back) = endsInOneOf endings back := by
  rw [Bool.eq_iff_iff, endsInOneOf, endsInOneOf, List.any_eq_true, List.any_eq_true]
  apply exists_congr
  intro ending
  apply and_congr_right
  intro he
  rw [Text.isSuffixOf_append (h ending he)]

/-- The last letter of a word is that of the ending that it has. -/
theorem exists_ending {endings : List Text} (hn : ∀ ending ∈ endings, ending ≠ []) {word : Text}
    (h : endsInOneOf endings word = true) :
    ∃ ending ∈ endings, (∃ stem, word = stem ++ ending) ∧ word.getLast? = ending.getLast? := by
  obtain ⟨ending, he, hs⟩ := List.any_eq_true.mp h
  obtain ⟨stem, rfl⟩ := List.isSuffixOf_iff_suffix.mp hs
  exact ⟨ending, he, ⟨stem, rfl⟩, List.getLast?_append_of_ne_nil stem (hn ending he)⟩

theorem endsInOneOf_of_mem {endings : List Text} {ending : Text} (h : ending ∈ endings)
    (stem : Text) : endsInOneOf endings (stem ++ ending) = true :=
  List.any_eq_true.mpr ⟨ending, h, List.isSuffixOf_iff_suffix.mpr (List.suffix_append stem ending)⟩

/-- What the two lists of irregular words have to do with endings and with each other. -/
theorem irregulars_apart : ∀ pair ∈ irregulars, pair.1 ≠ pair.2 ∧
    pair.1.getLast? ≠ some 's' ∧ endsInOneOf singularEndings pair.2 = false := by
  decide

/-- The words that count as plural: irregular plurals, and those that end in `s` and in nothing
that singulars end in. -/
def LooksPlural (word : Text) : Prop :=
  word ∈ irregulars.map (·.2) ∨
    ∃ stem : Text, stem ≠ [] ∧ word = stem ++ "s" ∧ endsInOneOf singularEndings word = false

/-- In front of a final `es` or `ies` no ending of a singular is left. -/
theorem endsInOneOf_singularEndings_es (stem : Text) :
    endsInOneOf singularEndings (stem ++ "es") = false := by
  rw [endsInOneOf_append (by decide)]
  decide

theorem looksPlural_append_es (stem : Text) : LooksPlural (stem ++ "es") :=
  .inr ⟨stem ++ "e", by simp, by simp, endsInOneOf_singularEndings_es stem⟩

theorem not_looksPlural_self {word : Text} (hp : word ∉ irregulars.map (·.2))
    (h : word ∈ irregulars.map (·.1) ∨ endsInOneOf singularEndings word = true ∨
      sStem? word = none) : ¬ LooksPlural word := by
  intro hl
  rcases hl with hm | ⟨stem, hn, rfl, he⟩
  · exact hp hm
  · rcases h with hm | he' | hs
    · obtain ⟨pair, hi, hw⟩ := List.mem_map.mp hm
      apply (irregulars_apart pair hi).2.1
      rw [hw]
      simp
    · rw [he] at he'
      cases he'
    · rw [sStem?, Text.dropSuffix?_append, Option.filter_some] at hs
      simp [hn] at hs

theorem HasSingular.ne_iff {word form : Text} (h : HasSingular word form) :
    form ≠ word ↔ LooksPlural word := by
  have hlong : ∀ {stem ending : Text}, ending ≠ [] → stem ≠ stem ++ ending := by
    intro stem ending hn he
    exact hn (by simpa using he)
  cases h with
  | irregular h =>
    exact iff_of_true (irregulars_apart _ h).1 (.inl (List.mem_map_of_mem h))
  | ie h =>
    have hie : ∀ stem ∈ ieSingulars, stem ≠ [] ∧
        endsInOneOf singularEndings (stem ++ "s") = false := by
      decide
    exact iff_of_true (hlong (by simp)) (.inr ⟨_, (hie _ h).1, rfl, (hie _ h).2⟩)
  | @ies stem hn =>
    have hl : LooksPlural (stem ++ "ies") := by
      simpa using looksPlural_append_es (stem ++ "i")
    exact iff_of_true (by simp) hl
  | es h => exact iff_of_true (hlong (by simp)) (looksPlural_append_es _)
  | s hn h => exact iff_of_true (hlong (by simp)) (.inr ⟨_, hn, rfl, h⟩)
  | self hp h => exact iff_of_false (by simp) (not_looksPlural_self hp h)

theorem isPlural_iff {word : Text} : isPlural word = true ↔ LooksPlural word := by
  rw [← (hasSingular_singularWord word).ne_iff]
  simp [isPlural]

theorem LooksPlural.endsInOneOf_eq {word : Text} (h : LooksPlural word) :
    endsInOneOf singularEndings word = false := by
  rcases h with hm | ⟨_, _, _, he⟩
  · obtain ⟨pair, hi, rfl⟩ := List.mem_map.mp hm
    exact (irregulars_apart pair hi).2.2
  · exact he

theorem endsInOneOf_singularEndings_s (front : Text) (c : Char) :
    endsInOneOf singularEndings (front ++ [c] ++ "s") = true ↔ c = 's' ∨ c = 'u' ∨ c = 'i' := by
  rw [List.append_assoc, endsInOneOf_append (by simp [singularEndings])]
  simp [endsInOneOf, singularEndings, List.isSuffixOf, @eq_comm _ c]

/-- The last letter of a word that takes `es` is that of an ending. -/
theorem getLast?_of_hissing {word : Text} (h : endsInOneOf hissingEndings word = true) :
    word.getLast? ≠ some 'u' ∧ word.getLast? ≠ some 'i' := by
  have hl : ∀ ending ∈ hissingEndings,
      ending.getLast? ≠ some 'u' ∧ ending.getLast? ≠ some 'i' := by
    decide
  obtain ⟨ending, hm, -, he⟩ := exists_ending (by decide) h
  exact he ▸ hl ending hm

theorem getLast?_ne_of_not_hissing {word : Text} (h : endsInOneOf hissingEndings word = false) :
    word.getLast? ≠ some 's' := by
  intro hs
  obtain ⟨front, rfl⟩ := List.getLast?_eq_some_iff.mp hs
  have he : endsInOneOf hissingEndings (front ++ ['s']) = true :=
    endsInOneOf_of_mem (by decide) front
  rw [he] at h
  cases h

/-- The plural of a word counts as plural unless the word ends in `u` or `i`. -/
theorem HasPlural.looksPlural_iff {word plural : Text} (hw : word ≠ [])
    (h : HasPlural word plural) :
    LooksPlural plural ↔ word.getLast? ≠ some 'u' ∧ word.getLast? ≠ some 'i' := by
  have hi : ∀ pair ∈ irregulars, pair.1.getLast? ≠ some 'u' ∧ pair.1.getLast? ≠ some 'i' := by
    decide
  cases h with
  | irregular h => exact iff_of_true (.inl (List.mem_map_of_mem h)) (hi _ h)
  | hissing h => exact iff_of_true (looksPlural_append_es word) (getLast?_of_hissing h)
  | @y stem h =>
    have hl : LooksPlural (stem ++ "ies") := by
      simpa using looksPlural_append_es (stem ++ "i")
    exact iff_of_true hl (by simp)
  | @fe stem =>
    have hl : LooksPlural (stem ++ "ves") := by
      simpa using looksPlural_append_es (stem ++ "v")
    exact iff_of_true hl (by simp)
  | s h hy hfe =>
    obtain ⟨front, c, rfl⟩ : ∃ front c, word = front ++ [c] :=
      ⟨word.dropLast, word.getLast hw, (List.dropLast_append_getLast hw).symm⟩
    have hc : c ≠ 's' := by
      rintro rfl
      exact getLast?_ne_of_not_hissing h List.getLast?_concat
    have he := endsInOneOf_singularEndings_s front c
    rw [or_iff_right hc] at he
    simp only [List.getLast?_concat, ne_eq, Option.some.injEq, ← not_or, ← he,
      Bool.not_eq_true]
    constructor
    · exact LooksPlural.endsInOneOf_eq
    · intro hn
      exact .inr ⟨front ++ [c], by simp, rfl, hn⟩

theorem LooksPlural.getLast?_ne {word : Text} (h : LooksPlural word) :
    word.getLast? ≠ some 'u' ∧ word.getLast? ≠ some 'i' := by
  have hi : ∀ pair ∈ irregulars, pair.2.getLast? ≠ some 'u' ∧ pair.2.getLast? ≠ some 'i' := by
    decide
  rcases h with hm | ⟨stem, _, rfl, _⟩
  · obtain ⟨pair, hp, rfl⟩ := List.mem_map.mp hm
    exact hi pair hp
  · simp

theorem HasPlural.ne {word plural : Text} (h : HasPlural word plural) : plural ≠ word := by
  cases h with
  | irregular h => exact (irregulars_apart _ h).1.symm
  | hissing h => simp
  | y h => simp
  | fe => simp
  | s h hy hfe => simp

/-- The plural of a word is its own plural exactly if it counts as one. -/
theorem asPlural_asPlural_iff {word : Text} (hw : word ≠ []) :
    asPlural (asPlural word) = asPlural word ↔
      word.getLast? ≠ some 'u' ∧ word.getLast? ≠ some 'i' := by
  by_cases hp : isPlural word = true
  · have ha : asPlural word = word := if_pos hp
    rw [ha]
    exact iff_of_true ha (isPlural_iff.mp hp).getLast?_ne
  · have hr := hasPlural_pluralWord hw
    have ha : asPlural word = pluralWord word := if_neg hp
    rw [ha, ← hr.looksPlural_iff hw, ← isPlural_iff, asPlural]
    split
    · rename_i hp
      exact iff_of_true rfl hp
    · rename_i hp
      have hn : pluralWord word ≠ [] := (inflects_pluralWord hw).ne_nil
      exact iff_of_false (hasPlural_pluralWord hn).ne hp

/-- A plural is its own plural, and a table keeps its name when it is named again, exactly if the
name of the entity does not end in `u` or `i`: the plural in `us` or `is` is taken for a singular.
-/
theorem pluralize_pluralize_iff (e : Entity) :
    pluralize (pluralize e.name) = pluralize e.name ↔
      e.name.getLast? ≠ some 'u' ∧ e.name.getLast? ≠ some 'i' := by
  obtain ⟨front, last, he⟩ : ∃ front last, e.words = front ++ [last] :=
    ⟨_, _, (List.dropLast_append_getLast e.words_ne_nil).symm⟩
  have hl : ∀ w ∈ front ++ [last], IsLowerWord w := he ▸ e.isLowerWord
  have hn : last ≠ [] := (hl last (by simp)).1
  have hp : ∀ w ∈ front ++ [asPlural last], IsLowerWord w :=
    (inflects_asPlural hn).forall_isLowerWord hl
  rw [Entity.name, he, pluralize_join hl, pluralize_join hp, Text.join_concat, Text.join_concat,
    Text.join_concat, List.append_right_inj, List.getLast?_append_of_ne_nil _ hn]
  exact asPlural_asPlural_iff hn

/-- A table of menus that is named again becomes another table. -/
theorem menus_named_again :
    let e : Entity := ⟨["menu"], by simp, by simp⟩
    pluralize e.name = "menus" ∧ pluralize (pluralize e.name) = "menuses" ∧
      pluralize (pluralize e.name) ≠ pluralize e.name := by
  decide +kernel

end Name

end Migrations
