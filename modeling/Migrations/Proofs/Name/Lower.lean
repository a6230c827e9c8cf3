import Mathlib.Data.List.Basic
import Migrations.Name.Words
import Migrations.Proofs.Text.Basic

namespace Migrations

namespace Text

def IsLower (c : Char) : Prop := c.isLower = true ∨ c.isDigit = true

instance (c : Char) : Decidable (IsLower c) := inferInstanceAs (Decidable (_ ∨ _))

theorem IsLower.isAlphanum {c : Char} (h : IsLower c) : c.isAlphanum = true := by
  have ha : c.isAlphanum = ((c.isUpper || c.isLower) || c.isDigit) := rfl
  rcases h with h | h <;> simp [ha, h]

theorem IsLower.toNat_lt {c : Char} (h : IsLower c) : c.toNat < 128 := by
  have hn := toNat_of_isAlphanum h.isAlphanum
  omega

theorem IsLower.isLetterOrNumber {c : Char} (h : IsLower c) : isLetterOrNumber c = true := by
  rw [Text.isLetterOrNumber, if_pos h.toNat_lt, h.isAlphanum]

theorem IsLower.eq_lower {c : Char} (h : IsLower c) : c.isUpper = false ∧ c.toLower = c :=
  of_toNat_lt (P := fun c => IsLower c → c.isUpper = false ∧ c.toLower = c)
    (by decide +kernel) h.toNat_lt h

theorem IsLower.isAlpha_iff {c : Char} (h : IsLower c) : c.isAlpha = true ↔ c.isLower = true :=
  of_toNat_lt (P := fun c => IsLower c → (c.isAlpha = true ↔ c.isLower = true))
    (by decide +kernel) h.toNat_lt h

/-- A capital is written for a letter, and a digit stays. -/
theorem IsLower.toUpper {c : Char} (h : IsLower c) :
    c.toUpper.isAlphanum = true ∧ (c.toUpper.isAlpha = true ↔ c.isLower = true) :=
  of_toNat_lt (P := fun c => IsLower c →
    c.toUpper.isAlphanum = true ∧ (c.toUpper.isAlpha = true ↔ c.isLower = true))
    (by decide +kernel) h.toNat_lt h

theorem IsLower.isUppercase {c : Char} (h : IsLower c) : isUppercase c = false := by
  rw [Text.isUppercase, if_pos h.toNat_lt, h.eq_lower.1]

theorem IsLower.toLowercase {c : Char} (h : IsLower c) : toLowercase c = [c] := by
  rw [Text.toLowercase, if_pos h.toNat_lt, h.eq_lower.2]

def IsLowerWord (w : Text) : Prop := w ≠ [] ∧ ∀ c ∈ w, IsLower c

instance (w : Text) : Decidable (IsLowerWord w) :=
  @instDecidableAnd _ _ _ (List.decidableBAll _ _)

def StartsWithLetter (t : Text) : Prop := ∀ c, t.head? = some c → c.isLower = true

theorem startsWithLetter_append {t : Text} (ht : t ≠ []) (u : Text) :
    StartsWithLetter (t ++ u) ↔ StartsWithLetter t := by
  rw [StartsWithLetter, StartsWithLetter, List.head?_append_of_ne_nil t ht]

theorem IsLowerWord.not_mem {w : Text} (h : IsLowerWord w) : '_' ∉ w :=
  fun hm => absurd (h.2 _ hm) (by decide)

section Joined

variable {ws : List Text}

theorem join_ne_nil_of_lower (hn : ws ≠ []) (h : ∀ w ∈ ws, IsLowerWord w) :
    join ['_'] ws ≠ [] :=
  join_ne_nil ['_'] hn fun w hw => (h w hw).1

theorem isWord_join (h : ∀ w ∈ ws, IsLowerWord w) : IsWord (join ['_'] ws) := by
  intro c hc
  rcases mem_join hc with hm | ⟨w, hw, hcw⟩
  · exact .inr hm
  · exact .inl ((h w hw).2 c hcw).isAlphanum

theorem startsWithLetter_join_append {front rest : List Text} (hn : front ≠ []) (hr : rest ≠ [])
    (h : ∀ w ∈ front, IsLowerWord w) :
    StartsWithLetter (join ['_'] (front ++ rest)) ↔ StartsWithLetter (join ['_'] front) := by
  rw [join_append hn hr, List.append_assoc,
    startsWithLetter_append (join_ne_nil_of_lower hn h)]

theorem exists_cons_join (hn : ws ≠ []) (h : ∀ w ∈ ws, IsLowerWord w) :
    ∃ c rest, join ['_'] ws = c :: rest ∧ IsLower c ∧ IsWord rest := by
  obtain ⟨w, others, rfl⟩ := List.exists_cons_of_ne_nil hn
  have hw := h w (by simp)
  obtain ⟨c, cs, rfl⟩ := List.exists_cons_of_ne_nil hw.1
  have hj := isWord_join h
  rw [join_cons_flatMap, List.cons_append] at hj ⊢
  exact ⟨c, _, rfl, hw.2 c (by simp), fun d hd => hj d (List.mem_cons_of_mem c hd)⟩

/-- A digit in front is all that keeps lower-case words from being an identifier. -/
theorem isIdentifier_join_iff (hn : ws ≠ []) (h : ∀ w ∈ ws, IsLowerWord w) :
    isIdentifier (join ['_'] ws) = true ↔ StartsWithLetter (join ['_'] ws) := by
  obtain ⟨c, rest, he, hc, hr⟩ := exists_cons_join hn h
  have hu : c ≠ '_' := by
    rintro rfl
    exact absurd hc (by decide)
  rw [he, isIdentifier_cons_iff hr, or_iff_left hu, hc.isAlpha_iff]
  simp [StartsWithLetter]

end Joined

end Text

namespace Name

open Text (IsLower IsLowerWord)

theorem splitCased_of_lower {w : Text} (hn : w ≠ []) (h : ∀ c ∈ w, IsLower c) (casing : Casing) :
    splitCased casing w = [w] := by
  induction casing, w using splitCased.induct with
  | case1 => contradiction
  | case2 => rfl
  | case3 casing c next rest hc ih =>
    have hu := (h next (by simp)).isUppercase
    simp [hu] at hc
  | case4 casing c next rest h1 hc ih =>
    have hu := (h c (by simp)).isUppercase
    simp [hu] at hc
  | case5 casing c next rest h1 h2 ih =>
    rw [splitCased, if_neg h1, if_neg h2, ih (by simp) fun d hd => h d (by simp [hd])]
    rfl

theorem lowerWord_of_lower {w : Text} (h : ∀ c ∈ w, IsLower c) : lowerWord w = w := by
  induction w with
  | nil => rfl
  | cons c rest ih =>
    have hc := h c (by simp)
    cases rest with
    | nil =>
      have hs : c ≠ 'Σ' := by
        rintro rfl
        exact absurd hc (by decide)
      rw [lowerWord, if_neg hs, hc.toLowercase]
    | cons next others =>
      rw [lowerWord, hc.toLowercase, ih fun d hd => h d (by simp [hd])]
      · rfl
      · simp

variable {ws : List Text}

theorem words_join (hn : ws ≠ []) (h : ∀ w ∈ ws, IsLowerWord w) :
    words (Text.join ['_'] ws) = ws := by
  have hs : Text.splitWhere (fun c => !Text.isLetterOrNumber c) (Text.join ['_'] ws) = ws := by
    refine Text.splitWhere_join (by decide) hn fun w hw c hc => ?_
    simp [((h w hw).2 c hc).isLetterOrNumber]
  have hc : ∀ w ∈ ws, splitCased .none w = [w] :=
    fun w hw => splitCased_of_lower (h w hw).1 (h w hw).2 .none
  rw [words, hs, List.flatMap_congr hc]
  simp

/-- A name in snake case is its own snake case. -/
theorem snake_join (hn : ws ≠ []) (h : ∀ w ∈ ws, IsLowerWord w) :
    snake (Text.join ['_'] ws) = Text.join ['_'] ws := by
  have hl : ∀ w ∈ ws, lowerWord w = w := fun w hw => lowerWord_of_lower (h w hw).2
  rw [snake, words_join hn h, List.map_congr_left hl, List.map_id']

/-- What a name calls an entity: words of lower-case letters. -/
structure Entity where
  words : List Text
  words_ne_nil : words ≠ []
  letters : ∀ w ∈ words, w ≠ [] ∧ ∀ c ∈ w, c.isLower = true

namespace Entity

def name (e : Entity) : Text := Text.join ['_'] e.words

theorem isLowerWord (e : Entity) : ∀ w ∈ e.words, IsLowerWord w :=
  fun w hw => ⟨(e.letters w hw).1, fun c hc => .inl ((e.letters w hw).2 c hc)⟩

theorem startsWithLetter (e : Entity) : Text.StartsWithLetter e.name := by
  intro c hc
  obtain ⟨w, ws, he⟩ := List.exists_cons_of_ne_nil e.words_ne_nil
  obtain ⟨hn, hl⟩ := e.letters w (by simp [he])
  obtain ⟨d, ds, rfl⟩ := List.exists_cons_of_ne_nil hn
  have hd : d = c := by
    cases ws with
    | nil => simpa [name, he, Text.join] using hc
    | cons next rest => simpa [name, he, Text.join] using hc
  exact hl c (by simp [hd])

end Entity

end Name

end Migrations
