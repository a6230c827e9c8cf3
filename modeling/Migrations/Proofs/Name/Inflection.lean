import Migrations.Proofs.Name.Lower
import Migrations.Proofs.Name.Rules
import Migrations.Proofs.Name.Words

namespace Migrations.Name

open Text (IsLowerWord StartsWithLetter)

/-- A beginning of a word with lower-case letters after it. -/
structure Inflects (word form : Text) : Prop where
  ne_nil : form ≠ []
  split : ∃ stem ending, form = stem ++ ending ∧ stem <+: word ∧ ∀ c ∈ ending, c.isLower = true

theorem Inflects.isLowerWord {word form : Text} (h : Inflects word form)
    (hw : IsLowerWord word) : IsLowerWord form := by
  obtain ⟨stem, ending, rfl, hs, he⟩ := h.split
  refine ⟨h.ne_nil, fun c hc => ?_⟩
  rcases List.mem_append.mp hc with hc | hc
  · exact hw.2 c (hs.mem hc)
  · exact .inl (he c hc)

theorem Inflects.startsWithLetter {word form : Text} (h : Inflects word form)
    (hw : StartsWithLetter word) : StartsWithLetter form := by
  obtain ⟨stem, ending, rfl, ⟨rest, rfl⟩, he⟩ := h.split
  intro c hc
  cases stem with
  | nil => exact he c (List.mem_of_mem_head? hc)
  | cons d ds =>
    cases hc
    exact hw c rfl

theorem Inflects.beginning {word form : Text} (hn : form ≠ []) (h : form <+: word) :
    Inflects word form :=
  ⟨hn, form, [], (List.append_nil form).symm, h, by simp⟩

theorem Inflects.append {word : Text} (hw : word ≠ []) {ending : Text}
    (he : ∀ c ∈ ending, c.isLower = true) : Inflects word (word ++ ending) :=
  ⟨by simp [hw], word, ending, rfl, List.prefix_rfl, he⟩

theorem Inflects.replace (stem old : Text) {ending : Text} (hn : ending ≠ [])
    (he : ∀ c ∈ ending, c.isLower = true) : Inflects (stem ++ old) (stem ++ ending) :=
  ⟨by simp [hn], stem, ending, rfl, List.prefix_append stem old, he⟩

theorem Inflects.other {word form : Text} (hn : form ≠ [])
    (h : ∀ c ∈ form, c.isLower = true) : Inflects word form :=
  ⟨hn, [], form, rfl, List.nil_prefix, h⟩

theorem lower_irregulars :
    ∀ pair ∈ irregulars, (pair.1 ≠ [] ∧ ∀ c ∈ pair.1, c.isLower = true) ∧
      pair.2 ≠ [] ∧ ∀ c ∈ pair.2, c.isLower = true := by
  simp [irregulars]

theorem HasPlural.inflects {word plural : Text} (hr : HasPlural word plural) (hw : word ≠ []) :
    Inflects word plural := by
  cases hr with
  | irregular h =>
    obtain ⟨-, hn, hl⟩ := lower_irregulars _ h
    exact .other hn hl
  | hissing h => exact .append hw (by simp)
  | y h => exact .replace _ _ (by simp) (by simp)
  | fe => exact .replace _ _ (by simp) (by simp)
  | s h hy hfe => exact .append hw (by simp)

theorem inflects_pluralWord {word : Text} (hw : word ≠ []) : Inflects word (pluralWord word) :=
  (hasPlural_pluralWord hw).inflects hw

def asPlural (word : Text) : Text := if isPlural word then word else pluralWord word

theorem inflects_asPlural {word : Text} (hw : word ≠ []) : Inflects word (asPlural word) := by
  unfold asPlural
  split
  · exact .beginning hw List.prefix_rfl
  · exact inflects_pluralWord hw

theorem HasSingular.inflects {word singular : Text} (hr : HasSingular word singular)
    (hw : word ≠ []) : Inflects word singular := by
  cases hr with
  | irregular h =>
    obtain ⟨⟨hn, hl⟩, -⟩ := lower_irregulars _ h
    exact .other hn hl
  | ie h =>
    have hn : ∀ stem ∈ ieSingulars, stem ≠ [] := by decide
    exact .beginning (hn _ h) (List.prefix_append _ _)
  | ies hn => exact .replace _ _ (by simp) (by simp)
  | es h =>
    refine .beginning ?_ (List.prefix_append _ _)
    intro hn
    rw [hn] at h
    revert h
    decide
  | s hn h => exact .beginning hn (List.prefix_append _ _)
  | self hp h => exact .beginning hw List.prefix_rfl

theorem inflects_singularWord {word : Text} (hw : word ≠ []) :
    Inflects word (singularWord word) :=
  (hasSingular_singularWord word).inflects hw

/-- Letters, digits and underscores of any script are all that a plural holds. -/
theorem isLetter_of_mem_pluralize {name : Text} {c : Char} (h : c ∈ pluralize name) :
    c = '_' ∨ Text.IsLetter c := by
  have hplural : ∀ word : Text, c ∈ asPlural word → c ∈ word ∨ Text.IsLetter c := by
    intro word hc
    have hn : word ≠ [] := by
      rintro rfl
      have he : asPlural [] = [] := by decide
      rw [he] at hc
      cases hc
    obtain ⟨stem, ending, he, hs, hl⟩ := (inflects_asPlural hn).split
    rw [he] at hc
    rcases List.mem_append.mp hc with hc | hc
    · exact .inl (hs.mem hc)
    · have ha : c.isAlphanum = ((c.isUpper || c.isLower) || c.isDigit) := rfl
      exact .inr (.inr (by simp [ha, hl c hc]))
  have hword : ∀ word : Text, (∀ d ∈ word, d ∈ snake name) → c ∈ asPlural word →
      c = '_' ∨ Text.IsLetter c := by
    intro word hw hc
    rcases hplural word hc with hm | hi
    · exact isLetter_of_mem_snake (hw c hm)
    · exact .inr hi
  change c ∈ mapLastWord asPlural (snake name) at h
  rcases Text.splitLast?_cases '_' (snake name) with ⟨_, hs⟩ | ⟨head, last, he, _, hs⟩
  · rw [mapLastWord, hs] at h
    exact hword _ (fun _ hd => hd) h
  · rw [mapLastWord, hs] at h
    rcases List.mem_append.mp h with hm | hm
    · exact isLetter_of_mem_snake (he ▸ List.mem_append_left _ hm)
    · rcases List.mem_cons.mp hm with rfl | hm
      · exact .inl rfl
      · exact hword last (fun d hd => he ▸ by simp [hd]) hm

variable {ws front : List Text} {last : Text}

theorem mapLastWord_join (hl : '_' ∉ last) (f : Text → Text) :
    mapLastWord f (Text.join ['_'] (front ++ [last])) =
      Text.join ['_'] (front ++ [f last]) := by
  by_cases hf : front = []
  · subst hf
    simp [mapLastWord, Text.join, Text.splitLast?_of_not_mem hl]
  · have hj (t : Text) :
        Text.join ['_'] (front ++ [t]) = Text.join ['_'] front ++ '_' :: t := by
      rw [Text.join_append hf (by simp)]
      simp [Text.join]
    simp [mapLastWord, hj, Text.splitLast?_append hl]

theorem pluralize_join (h : ∀ w ∈ front ++ [last], IsLowerWord w) :
    pluralize (Text.join ['_'] (front ++ [last])) =
      Text.join ['_'] (front ++ [asPlural last]) := by
  rw [pluralize, snake_join (by simp) h, mapLastWord_join (h last (by simp)).not_mem]
  rfl

theorem Inflects.forall_isLowerWord {form : Text} (hi : Inflects last form)
    (h : ∀ w ∈ front ++ [last], IsLowerWord w) : ∀ w ∈ front ++ [form], IsLowerWord w := by
  intro w hw
  rcases List.mem_append.mp hw with hw | hw
  · exact h w (List.mem_append_left _ hw)
  · rw [List.mem_singleton.mp hw]
    exact hi.isLowerWord (h last (by simp))

/-- A name starts with a letter still if its last word is inflected. -/
theorem Inflects.startsWithLetter_join {form : Text} (hi : Inflects last form)
    (h : ∀ w ∈ front ++ [last], IsLowerWord w)
    (hs : StartsWithLetter (Text.join ['_'] (front ++ [last]))) :
    StartsWithLetter (Text.join ['_'] (front ++ [form])) := by
  cases front with
  | nil => exact hi.startsWithLetter hs
  | cons first rest =>
    have hf : ∀ w ∈ first :: rest, IsLowerWord w := fun w hw => h w (List.mem_append_left _ hw)
    rw [Text.startsWithLetter_join_append (by simp) (by simp) hf] at hs ⊢
    exact hs

/-- The plural of a name that starts with a letter can name a table. -/
theorem isIdentifier_pluralize (hn : ws ≠ []) (h : ∀ w ∈ ws, IsLowerWord w)
    (hs : StartsWithLetter (Text.join ['_'] ws)) :
    Text.isIdentifier (pluralize (Text.join ['_'] ws)) = true := by
  obtain ⟨front, last, rfl⟩ : ∃ front last, ws = front ++ [last] :=
    ⟨ws.dropLast, ws.getLast hn, (List.dropLast_append_getLast hn).symm⟩
  have hp : Inflects last (asPlural last) := inflects_asPlural (h last (by simp)).1
  rw [pluralize_join h]
  exact (Text.isIdentifier_join_iff (by simp) (hp.forall_isLowerWord h)).mpr
    (hp.startsWithLetter_join h hs)

end Migrations.Name
