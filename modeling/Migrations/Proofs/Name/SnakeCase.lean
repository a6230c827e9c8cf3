import Migrations.Proofs.Name.Inflection

namespace Migrations

namespace Text

def IsAscii (t : Text) : Prop := ∀ c ∈ t, c.toNat < 128

instance (t : Text) : Decidable (IsAscii t) := List.decidableBAll _ _

theorem isLower_toLower {c : Char} (hc : c.toNat < 128) :
    c.isAlphanum = true → IsLower c.toLower :=
  of_toNat_lt (P := fun c => c.isAlphanum = true → IsLower c.toLower) (by decide +kernel) hc

end Text

namespace Name

open Text (IsAscii IsLower IsLowerWord IsWord StartsWithLetter)

theorem lowerWord_of_ascii {word : Text} (h : IsAscii word) :
    lowerWord word = word.map Char.toLower := by
  induction word with
  | nil => rfl
  | cons c rest ih =>
    obtain ⟨hc, hr⟩ := List.forall_mem_cons.mp h
    have hl : Text.toLowercase c = [c.toLower] := by rw [Text.toLowercase, if_pos hc]
    cases rest with
    | nil =>
      have hs : c ≠ 'Σ' := by
        rintro rfl
        exact absurd hc (by decide)
      rw [lowerWord, if_neg hs, hl]
      rfl
    | cons next others =>
      rw [lowerWord, hl, ih hr]
      · rfl
      · simp

/-- The words of an ASCII name are lower-case words once they are written so. -/
theorem isLowerWord_of_mem_words {name word : Text} (h : IsAscii name) (hw : word ∈ words name) :
    IsLowerWord (lowerWord word) := by
  have hm := mem_of_mem_words hw
  have ha : IsAscii word := fun c hc => h c (hm c hc).1
  rw [lowerWord_of_ascii ha]
  refine ⟨by simpa using ne_nil_of_mem_words hw, fun d hd => ?_⟩
  obtain ⟨c, hc, rfl⟩ := List.mem_map.mp hd
  have hl := (hm c hc).2
  rw [Text.isLetterOrNumber, if_pos (ha c hc)] at hl
  exact Text.isLower_toLower (ha c hc) hl

theorem forall_isLowerWord_of_ascii {name : Text} (h : IsAscii name) :
    ∀ w ∈ (words name).map lowerWord, IsLowerWord w := by
  intro w hw
  obtain ⟨word, hm, rfl⟩ := List.mem_map.mp hw
  exact isLowerWord_of_mem_words h hm

/-- Lower-case words with underscores between them, at least one. -/
def IsSnakeCase (t : Text) : Prop :=
  ∃ ws, ws ≠ [] ∧ (∀ w ∈ ws, IsLowerWord w) ∧ t = Text.join ['_'] ws

theorem isSnakeCase_snake {name : Text} (h : IsAscii name) (hn : words name ≠ []) :
    IsSnakeCase (snake name) :=
  ⟨(words name).map lowerWord, by simpa using hn, forall_isLowerWord_of_ascii h, rfl⟩

/-- The snake case of an ASCII name is its own snake case. -/
theorem snake_snake {name : Text} (h : IsAscii name) : snake (snake name) = snake name := by
  by_cases hn : words name = []
  · have he : snake name = [] := by rw [snake, hn]; rfl
    rw [he]
    rfl
  · exact snake_join (by simpa using hn) (forall_isLowerWord_of_ascii h)

theorem capitalWord_of_lower {c : Char} {rest : Text} (h : IsLowerWord (c :: rest)) :
    capitalWord (c :: rest) = c.toUpper :: rest := by
  obtain ⟨hc, hr⟩ := List.forall_mem_cons.mp h.2
  rw [capitalWord, Text.toUppercase, if_pos hc.toNat_lt, lowerWord_of_lower hr]
  rfl

theorem isWord_capitalWord {word : Text} (h : IsLowerWord word) : IsWord (capitalWord word) := by
  obtain ⟨c, rest, rfl⟩ := List.exists_cons_of_ne_nil h.1
  obtain ⟨hc, hr⟩ := List.forall_mem_cons.mp h.2
  rw [capitalWord_of_lower h]
  intro d hd
  rcases List.mem_cons.mp hd with rfl | hd
  · exact .inl hc.toUpper.1
  · exact .inl (hr d hd).isAlphanum

namespace IsSnakeCase

variable {t : Text}

theorem isIdentifier_iff (h : IsSnakeCase t) :
    Text.isIdentifier t = true ↔ StartsWithLetter t := by
  obtain ⟨ws, hn, hl, rfl⟩ := h
  exact Text.isIdentifier_join_iff hn hl

/-- The class is an identifier exactly if the name in snake case is. -/
theorem isIdentifier_pascal_iff (h : IsSnakeCase t) :
    Text.isIdentifier (pascal t) = true ↔ StartsWithLetter t := by
  obtain ⟨ws, hn, hl, rfl⟩ := h
  have hp : IsWord (ws.flatMap capitalWord) := by
    intro d hd
    obtain ⟨w, hw, hd⟩ := List.mem_flatMap.mp hd
    exact isWord_capitalWord (hl w hw) d hd
  rw [pascal, words_join hn hl]
  obtain ⟨w, others, rfl⟩ := List.exists_cons_of_ne_nil hn
  have hw := hl w (by simp)
  obtain ⟨c, cs, rfl⟩ := List.exists_cons_of_ne_nil hw.1
  have hc : IsLower c := hw.2 c (by simp)
  have hu : c.toUpper ≠ '_' := by
    intro he
    have ha := hc.toUpper.1
    rw [he] at ha
    exact absurd ha (by decide)
  rw [List.flatMap_cons, capitalWord_of_lower hw, List.cons_append] at hp ⊢
  rw [Text.isIdentifier_cons_iff fun d hd => hp d (List.mem_cons_of_mem _ hd), or_iff_left hu,
    hc.toUpper.2, Text.join_cons_flatMap]
  simp [StartsWithLetter]

/-- An inflected name is one in snake case, and starts with a letter if the name does. -/
theorem of_inflects {f : Text → Text} (hf : ∀ {w}, w ≠ [] → Inflects w (f w))
    (h : IsSnakeCase t) :
    IsSnakeCase (mapLastWord f (snake t)) ∧
      (StartsWithLetter t → StartsWithLetter (mapLastWord f (snake t))) := by
  obtain ⟨ws, hn, hl, rfl⟩ := h
  obtain ⟨front, last, rfl⟩ : ∃ front last, ws = front ++ [last] :=
    ⟨ws.dropLast, ws.getLast hn, (List.dropLast_append_getLast hn).symm⟩
  have hlast : IsLowerWord last := hl last (by simp)
  have hi : Inflects last (f last) := hf hlast.1
  rw [snake_join hn hl, mapLastWord_join hlast.not_mem]
  exact ⟨⟨_, by simp, hi.forall_isLowerWord hl, rfl⟩, hi.startsWithLetter_join hl⟩

theorem pluralize (h : IsSnakeCase t) : IsSnakeCase (pluralize t) :=
  (h.of_inflects inflects_asPlural).1

/-- A table that is an identifier has a model whose class is one. -/
theorem isIdentifier_modelName (h : IsSnakeCase t) (hi : Text.isIdentifier t = true) :
    Text.isIdentifier (modelName t) = true := by
  obtain ⟨hs, hl⟩ := h.of_inflects inflects_singularWord
  exact hs.isIdentifier_pascal_iff.mpr (hl (h.isIdentifier_iff.mp hi))

end IsSnakeCase

end Name

end Migrations
