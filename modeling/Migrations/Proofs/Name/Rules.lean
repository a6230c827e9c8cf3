import Mathlib.Data.List.Basic
import Migrations.Name.Inflection

namespace Migrations.Name

/-- How a word gets its singular, with one case for each rule. -/
inductive HasSingular : Text → Text → Prop where
  | irregular {singular plural : Text} (h : (singular, plural) ∈ irregulars) :
      HasSingular plural singular
  | ie {stem : Text} (h : stem ∈ ieSingulars) : HasSingular (stem ++ "s") stem
  | ies {stem : Text} (hn : stem ≠ []) : HasSingular (stem ++ "ies") (stem ++ "y")
  | es {stem : Text} (h : endsInOneOf esEndings (stem ++ "es") = true) :
      HasSingular (stem ++ "es") stem
  | s {stem : Text} (hn : stem ≠ []) (h : endsInOneOf singularEndings (stem ++ "s") = false) :
      HasSingular (stem ++ "s") stem
  | self {word : Text} (hp : word ∉ irregulars.map (·.2))
      (h : word ∈ irregulars.map (·.1) ∨ endsInOneOf singularEndings word = true ∨
        sStem? word = none) : HasSingular word word

theorem eq_append_es {word : Text} (h : endsInOneOf esEndings word = true) :
    word = word.take (word.length - 2) ++ "es" := by
  have hes : ∀ ending ∈ esEndings, ("es" : Text) <:+ ending := by decide
  obtain ⟨ending, he, hs⟩ := List.any_eq_true.mp h
  obtain ⟨stem, rfl⟩ := (hes ending he).trans (List.isSuffixOf_iff_suffix.mp hs)
  simp

theorem hasSingular_singularWord (word : Text) : HasSingular word (singularWord word) := by
  unfold singularWord
  split
  · rename_i singular plural hf
    have hp : plural = word := by simpa using List.find?_some hf
    exact hp ▸ .irregular (List.mem_of_find?_eq_some hf)
  · rename_i hf
    have hp : word ∉ irregulars.map (·.2) := by
      intro hm
      obtain ⟨pair, hi, he⟩ := List.mem_map.mp hm
      exact List.find?_eq_none.mp hf pair hi (by simpa using he)
    split
    · rename_i hi
      exact .self hp (.inl (by simpa using hi))
    · split
      · rename_i singular hs
        obtain ⟨hs, hm⟩ := Option.filter_eq_some_iff.mp hs
        rw [Text.eq_append_of_dropSuffix? hs]
        exact .ie (List.contains_iff_mem.mp hm)
      · split
        · rename_i stem hs
          obtain ⟨hs, hn⟩ := Option.filter_eq_some_iff.mp hs
          rw [Text.eq_append_of_dropSuffix? hs]
          exact .ies (by simpa using hn)
        · split
          · rename_i he
            have hw := eq_append_es he
            rw [hw] at he
            have hr := HasSingular.es he
            rwa [← hw] at hr
          · split
            · rename_i he
              exact .self hp (.inr (.inl he))
            · rename_i he
              cases hs : sStem? word with
              | none => exact .self hp (.inr (.inr hs))
              | some stem =>
                obtain ⟨hs, hn⟩ := Option.filter_eq_some_iff.mp hs
                obtain rfl := Text.eq_append_of_dropSuffix? hs
                exact .s (by simpa using hn) (by simpa using he)

inductive HasPlural : Text → Text → Prop where
  | irregular {singular plural : Text} (h : (singular, plural) ∈ irregulars) :
      HasPlural singular plural
  | hissing {word : Text} (h : endsInOneOf hissingEndings word = true) :
      HasPlural word (word ++ "es")
  | y {stem : Text} (h : stem.getLast?.any fun c => c ∉ ("aeiou" : Text)) :
      HasPlural (stem ++ "y") (stem ++ "ies")
  | fe {stem : Text} : HasPlural (stem ++ "fe") (stem ++ "ves")
  | s {word : Text} (h : endsInOneOf hissingEndings word = false)
      (hy : consonantYStem? word = none) (hfe : Text.dropSuffix? word "fe" = none) :
      HasPlural word (word ++ "s")

theorem hasPlural_pluralWord {word : Text} (hw : word ≠ []) :
    HasPlural word (pluralWord word) := by
  rw [pluralWord, if_neg hw]
  split
  · rename_i singular plural hf
    have hs : singular = word := by simpa using List.find?_some hf
    exact hs ▸ .irregular (List.mem_of_find?_eq_some hf)
  · split
    · rename_i hh
      exact .hissing hh
    · rename_i hh
      split
      · rename_i stem hs
        obtain ⟨hs, hc⟩ := Option.filter_eq_some_iff.mp hs
        rw [Text.eq_append_of_dropSuffix? hs]
        exact .y hc
      · rename_i hy
        split
        · rename_i stem hs
          rw [Text.eq_append_of_dropSuffix? hs]
          exact .fe
        · rename_i hfe
          exact .s (by simpa using hh) hy hfe

end Migrations.Name
