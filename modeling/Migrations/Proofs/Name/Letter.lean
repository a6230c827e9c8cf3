import Mathlib.Data.List.Basic
import Migrations.Name.Words
import Migrations.Proofs.Text.Basic

namespace Migrations

namespace Text

/-- A letter or a digit, or any character from 128 on. -/
def IsLetter (c : Char) : Prop := 128 ≤ c.toNat ∨ c.isAlphanum = true

instance (c : Char) : Decidable (IsLetter c) := inferInstanceAs (Decidable (_ ∨ _))

theorem isLetter_of_isLetterOrNumber {c : Char} (h : isLetterOrNumber c = true) : IsLetter c := by
  unfold isLetterOrNumber at h
  split at h
  · exact .inr h
  · rename_i hl
    exact .inl (Nat.le_of_not_lt hl)

theorem isLetter_ascii {c : Char} (hc : c.toNat < 128) :
    c.isAlphanum = true → IsLetter c.toLower ∧ IsLetter c.toUpper :=
  of_toNat_lt (P := fun c => c.isAlphanum = true → IsLetter c.toLower ∧ IsLetter c.toUpper)
    (by decide +kernel) hc

def blankRuns : List (Nat × Nat) :=
  [(0x85, 0x85), (0xA0, 0xA0), (0x1680, 0x1680), (0x2000, 0x200A), (0x2028, 0x2029),
    (0x202F, 0x202F), (0x205F, 0x205F), (0x3000, 0x3000)]

theorem letterOrNumberRanges_apart :
    ∀ range ∈ letterOrNumberRanges.toList, ∀ run ∈ blankRuns,
      range.2 < run.1 ∨ run.2 < range.1 := by
  decide +kernel

theorem exists_blankRun {c : Char} (h : isBlank c = true) (hc : 128 ≤ c.toNat) :
    ∃ run ∈ blankRuns, run.1 ≤ c.toNat ∧ c.toNat ≤ run.2 := by
  simp only [isBlank, Bool.or_eq_true, Bool.and_eq_true, decide_eq_true_eq, beq_iff_eq] at h
  simp only [blankRuns, List.mem_cons, List.not_mem_nil, or_false, exists_eq_or_imp, exists_eq_left]
  omega

theorem isLetterOrNumber_of_isBlank {c : Char} (h : isBlank c = true) :
    isLetterOrNumber c = false := by
  unfold isLetterOrNumber
  split
  · rename_i hc
    apply Bool.eq_false_iff.mpr
    intro ha
    have hn := isBlank_of_word (.inl ha)
    rw [h] at hn
    cases hn
  · rename_i hc
    obtain ⟨run, hm, hl, hu⟩ := exists_blankRun h (Nat.le_of_not_lt hc)
    rw [Array.any_eq_false']
    intro range hr
    have ha := letterOrNumberRanges_apart range hr.val run hm
    simp only [Bool.and_eq_true, decide_eq_true_eq]
    omega

/-- Every image of a run of a case mapping is a letter: it lies beyond 127, or the run is one code
point long and its image is a letter. -/
def LettersOnly (run : Nat × Nat × Nat × Int) : Prop :=
  (128 ≤ run.1 + run.2.2.2 ∧
    (run.2.1 + run.2.2.2 < 0xD800 ∨ 0xDFFF < run.1 + run.2.2.2 ∧ run.2.1 + run.2.2.2 < 0x110000)) ∨
  (run.1 = run.2.1 ∧ IsLetter (Char.ofNat (run.1 + run.2.2.2).toNat))

instance (run : Nat × Nat × Nat × Int) : Decidable (LettersOnly run) :=
  inferInstanceAs (Decidable (_ ∨ _))

theorem lettersOnly_lowercase : ∀ run ∈ lowercaseShifts.toList, LettersOnly run := by
  decide +kernel

theorem lettersOnly_uppercase : ∀ run ∈ uppercaseShifts.toList, LettersOnly run := by
  decide +kernel

theorem letters_lowercaseExpansions :
    ∀ entry ∈ lowercaseExpansions.toList, ∀ n ∈ entry.2, IsLetter (Char.ofNat n) := by
  decide +kernel

theorem letters_uppercaseExpansions :
    ∀ entry ∈ uppercaseExpansions.toList, ∀ n ∈ entry.2, IsLetter (Char.ofNat n) := by
  decide +kernel

theorem LettersOnly.isLetter {run : Nat × Nat × Nat × Int} (h : LettersOnly run) {n : Nat}
    (hn : inRun n run.1 run.2.1 run.2.2.1 = true) :
    IsLetter (Char.ofNat (n + run.2.2.2).toNat) := by
  obtain ⟨first, last, step, shift⟩ := run
  simp only [inRun, Bool.and_eq_true, decide_eq_true_eq] at hn
  obtain ⟨⟨hf, hl⟩, _⟩ := hn
  simp only [LettersOnly] at h
  rcases h with ⟨h1, h2⟩ | ⟨he, hi⟩
  · have hv : (n + shift).toNat.isValidChar := by
      unfold Nat.isValidChar
      omega
    have hv' : (Char.ofNat (n + shift).toNat).toNat = (n + shift).toNat := by
      rw [Char.ofNat, dif_pos hv]
      rfl
    left
    rw [hv']
    omega
  · obtain rfl : n = first := by omega
    exact hi

theorem isLetter_mapCase {expansions : Array (Nat × List Nat)}
    {shifts : Array (Nat × Nat × Nat × Int)}
    (he : ∀ entry ∈ expansions.toList, ∀ n ∈ entry.2, IsLetter (Char.ofNat n))
    (hs : ∀ run ∈ shifts.toList, LettersOnly run) {c d : Char} (hc : 128 ≤ c.toNat)
    (h : d ∈ mapCase expansions shifts c) : IsLetter d := by
  unfold mapCase at h
  split at h
  · rename_i n image hf
    obtain ⟨k, hk, rfl⟩ := List.mem_map.mp h
    exact he (n, image) (Array.mem_of_find?_eq_some hf).val k hk
  · split at h
    · rename_i first last step shift hf
      have hr := Array.find?_some hf
      rw [List.mem_singleton.mp h]
      exact (hs _ (Array.mem_of_find?_eq_some hf).val).isLetter hr
    · rw [List.mem_singleton.mp h]
      exact .inl hc

theorem isLetter_toLowercase {c d : Char} (hc : IsLetter c) (h : d ∈ toLowercase c) :
    IsLetter d := by
  unfold toLowercase at h
  split at h
  · rename_i hl
    rw [List.mem_singleton.mp h]
    exact (isLetter_ascii hl (hc.resolve_left (Nat.not_le_of_lt hl))).1
  · rename_i hl
    exact isLetter_mapCase letters_lowercaseExpansions lettersOnly_lowercase
      (Nat.le_of_not_lt hl) h

theorem isLetter_toUppercase {c d : Char} (hc : IsLetter c) (h : d ∈ toUppercase c) :
    IsLetter d := by
  unfold toUppercase at h
  split at h
  · rename_i hl
    rw [List.mem_singleton.mp h]
    exact (isLetter_ascii hl (hc.resolve_left (Nat.not_le_of_lt hl))).2
  · rename_i hl
    exact isLetter_mapCase letters_uppercaseExpansions lettersOnly_uppercase
      (Nat.le_of_not_lt hl) h

end Text

end Migrations
