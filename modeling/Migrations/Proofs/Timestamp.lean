import Migrations.Proofs.Text.Basic
import Migrations.Timestamp

namespace Migrations.Timestamp

theorem isDigit_of_mem_padded {width n : Nat} {c : Char} (h : c ∈ padded width n) :
    c.isDigit = true := by
  rcases List.mem_append.mp h with hz | hd
  · rw [List.eq_of_mem_replicate hz]
    decide
  · exact Nat.isDigit_of_mem_toDigits (by decide) (by decide) hd

theorem padded_ne_nil (width n : Nat) : padded width n ≠ [] := by
  simp [padded]

theorem length_padded {width n : Nat} (h : (Nat.toDigits 10 n).length ≤ width) :
    (padded width n).length = width := by
  simp only [padded, List.length_append, List.length_replicate]
  omega

theorem digitsValue_padded (width n : Nat) : digitsValue (padded width n) = n := by
  have hd : digitsValue (padded width n) = Nat.ofDigitChars 10 (padded width n) 0 := rfl
  rw [hd, padded, Nat.ofDigitChars_append, Nat.ofDigitChars_replicate_zero, Nat.mul_zero,
    Nat.ofDigitChars_ten_toDigits]

theorem isBlank_of_isDigit {c : Char} (h : c.isDigit = true) : Text.isBlank c = false :=
  Text.isBlank_of_word (.inl (by simp [Char.isAlphanum, h]))

/-- Digits are read up to the first character that is none. -/
theorem readDigits?_padded (width n : Nat) {rest : Text} (h : ∀ c ∈ rest.head?, c.isDigit = false) :
    readDigits? (padded width n ++ rest) = some (n, rest) := by
  have hd : ∀ c ∈ padded width n, c.isDigit = true := fun c hc => isDigit_of_mem_padded hc
  have ht : rest.takeWhile Char.isDigit = [] ∧ rest.dropWhile Char.isDigit = rest := by
    cases rest with
    | nil => exact ⟨rfl, rfl⟩
    | cons c cs => simp [h c rfl]
  rw [readDigits?, List.takeWhile_append_of_pos hd, List.dropWhile_append_of_pos hd, ht.1, ht.2,
    List.append_nil]
  have hn := padded_ne_nil width n
  have hv := digitsValue_padded width n
  generalize padded width n = digits at hn hv
  cases digits with
  | nil => contradiction
  | cons c cs => simp [hv]

theorem trimLeft_padded (width n : Nat) (rest : Text) :
    Text.trimLeft (padded width n ++ rest) = padded width n ++ rest := by
  obtain ⟨c, cs, he⟩ := List.exists_cons_of_ne_nil (padded_ne_nil width n)
  have hc := isBlank_of_isDigit (isDigit_of_mem_padded (he ▸ List.mem_cons_self))
  simp [Text.trimLeft, he, hc]

theorem readNumber?_padded {width n : Nat} (h : (Nat.toDigits 10 n).length ≤ width)
    (rest : Text) : readNumber? width (padded width n ++ rest) = some (n, rest) := by
  have hl := length_padded h
  have hr : readDigits? (padded width n) = some (n, []) := by
    have hd : ∀ c ∈ ([] : Text).head?, c.isDigit = false := by simp
    simpa using readDigits?_padded width n hd
  simp only [readNumber?, trimLeft_padded, List.take_left' hl, List.drop_left' hl, hr,
    Option.map_some, List.nil_append]

/-- A year that starts with a digit has no sign. -/
theorem readYear?_digits {t : Text} {c : Char} (hc : c.isDigit = true) (ht : t.head? = some c) :
    readYear? t = (readNumber? 4 t).map fun (n, after) => ((n : Int), after) := by
  cases t with
  | nil => cases ht
  | cons d cs =>
    obtain rfl := Option.some.inj ht
    have hl : Text.trimLeft (d :: cs) = d :: cs := by simp [Text.trimLeft, isBlank_of_isDigit hc]
    unfold readYear?
    rw [hl]
    split
    · rename_i he
      cases he
      cases hc
    · rename_i he
      cases he
      cases hc
    · rfl

/-- The underscore after the year ends it, however many digits it has. -/
theorem readYear?_yearText (year : Int) (rest : Text) :
    readYear? (yearText year ++ '_' :: rest) = some (year, '_' :: rest) := by
  have hu : ∀ c ∈ ('_' :: rest).head?, c.isDigit = false := by simp
  have hr := readDigits?_padded 4 year.natAbs hu
  by_cases hn : year < 0
  · have ht : yearText year ++ '_' :: rest = '-' :: (padded 4 year.natAbs ++ '_' :: rest) := by
      rw [yearText, if_pos hn, List.cons_append]
    have hs : Text.trimLeft ('-' :: (padded 4 year.natAbs ++ '_' :: rest)) =
        '-' :: (padded 4 year.natAbs ++ '_' :: rest) := rfl
    simp only [ht, readYear?, hs, hr, Option.map_some, Option.some.injEq, Prod.mk.injEq, and_true]
    omega
  · by_cases hl : year ≤ 9999
    · obtain ⟨c, cs, he⟩ := List.exists_cons_of_ne_nil (padded_ne_nil 4 year.natAbs)
      have hc : c.isDigit = true := isDigit_of_mem_padded (he ▸ List.mem_cons_self)
      have hw : (Nat.toDigits 10 year.natAbs).length ≤ 4 :=
        (Nat.length_toDigits_le_iff (by decide) (by decide)).mpr (by omega)
      rw [yearText, if_neg hn, if_pos hl, readYear?_digits hc (by simp [he]),
        readNumber?_padded hw]
      simp only [Option.map_some, Option.some.injEq, Prod.mk.injEq, and_true]
      omega
    · have ht : yearText year ++ '_' :: rest = '+' :: (padded 4 year.natAbs ++ '_' :: rest) := by
        rw [yearText, if_neg hn, if_neg hl, List.cons_append]
      have hs : Text.trimLeft ('+' :: (padded 4 year.natAbs ++ '_' :: rest)) =
          '+' :: (padded 4 year.natAbs ++ '_' :: rest) := rfl
      simp only [ht, readYear?, hs, hr, Option.map_some, Option.some.injEq, Prod.mk.injEq, and_true]
      omega

theorem daysInMonth_le (year : Int) (month : Nat) : daysInMonth year month ≤ 31 := by
  unfold daysInMonth
  split
  · split <;> omega
  · split <;> omega

theorem length_toDigits_le_two {n : Nat} (h : n < 100) : (Nat.toDigits 10 n).length ≤ 2 :=
  (Nat.length_toDigits_le_iff (by decide) (by decide)).mpr h

theorem isStamp_stamp (t : Timestamp) : isStamp t.stamp = true := by
  have hd := t.isDate
  have hm := length_toDigits_le_two (Nat.lt_of_le_of_lt hd.2.2.2.1 (by decide))
  have hk := length_toDigits_le_two
    (Nat.lt_of_le_of_lt (Nat.le_trans hd.2.2.2.2.2 (daysInMonth_le _ _)) (by decide))
  have hh := length_toDigits_le_two (Nat.lt_trans t.hour_lt (by decide))
  have hi := length_toDigits_le_two (Nat.lt_trans t.minute_lt (by decide))
  have hs := length_toDigits_le_two (Nat.lt_trans t.second_lt (by decide))
  have hl : readNumber? 2 (padded 2 t.second) = some (t.second, []) := by
    have hr := readNumber?_padded hs []
    rwa [List.append_nil] at hr
  simp only [isStamp, stamp, List.append_assoc, List.cons_append, readYear?_yearText,
    afterUnderscore?, readNumber?_padded hm, readNumber?_padded hk, readNumber?_padded hh,
    readNumber?_padded hi, hl, Option.bind_eq_bind, Option.bind_some, Option.pure_def]
  simp [hd, t.hour_lt, t.minute_lt, Nat.le_of_lt t.second_lt]

def IsLoose (c : Char) : Prop := Text.isBlank c = true ∨ c.isDigit = true ∨ c = '-' ∨ c = '+'

/-- The text starts with so many underscores, among other characters of a stamp, and then comes the
rest. -/
def Consumes (underscores : Nat) (t rest : Text) : Prop :=
  ∃ front, t = front ++ rest ∧ front.count '_' = underscores ∧ ∀ c ∈ front, c = '_' ∨ IsLoose c

theorem Consumes.trans {m n : Nat} {t u rest : Text} (h : Consumes m t u)
    (hu : Consumes n u rest) : Consumes (m + n) t rest := by
  obtain ⟨front, rfl, hm, hf⟩ := h
  obtain ⟨next, rfl, hn, hg⟩ := hu
  refine ⟨front ++ next, by simp, by rw [List.count_append, hm, hn], ?_⟩
  intro c hc
  rcases List.mem_append.mp hc with hc | hc
  · exact hf c hc
  · exact hg c hc

theorem consumes_loose {front : Text} (h : ∀ c ∈ front, IsLoose c) (rest : Text) :
    Consumes 0 (front ++ rest) rest := by
  refine ⟨front, rfl, List.count_eq_zero.mpr ?_, fun c hc => .inr (h c hc)⟩
  intro hu
  have hl := h _ hu
  unfold IsLoose at hl
  revert hl
  decide

theorem consumes_trimLeft (t : Text) : Consumes 0 t (Text.trimLeft t) := by
  obtain ⟨l, hl, hb⟩ := Text.exists_trimLeft t
  have hc := consumes_loose (fun c hc => .inl (hb c hc)) (Text.trimLeft t)
  rwa [← hl] at hc

theorem consumes_readDigits? {t rest : Text} {n : Nat} (h : readDigits? t = some (n, rest)) :
    Consumes 0 t rest := by
  unfold readDigits? at h
  split at h
  · cases h
  · cases h
    have hd : ∀ c ∈ t.takeWhile Char.isDigit, IsLoose c := fun c hc =>
      .inr (.inl (List.mem_takeWhile_imp hc))
    have hc := consumes_loose hd (t.dropWhile Char.isDigit)
    rwa [List.takeWhile_append_dropWhile] at hc

theorem consumes_readNumber? {width n : Nat} {t rest : Text}
    (h : readNumber? width t = some (n, rest)) : Consumes 0 t rest := by
  obtain ⟨⟨m, left⟩, hr, he⟩ := Option.map_eq_some_iff.mp h
  cases he
  have ht := consumes_trimLeft t
  obtain ⟨front, hf, hu, hc⟩ := consumes_readDigits? hr
  refine ht.trans ⟨front, ?_, hu, hc⟩
  rw [← List.append_assoc, ← hf, List.take_append_drop]

theorem consumes_sign {c : Char} (h : IsLoose c) {t rest : Text} (ht : Consumes 0 t rest) :
    Consumes 0 (c :: t) rest := by
  have hs : ∀ d ∈ [c], IsLoose d := by simpa using h
  exact (consumes_loose hs t).trans ht

theorem consumes_readYear? {t rest : Text} {year : Int} (h : readYear? t = some (year, rest)) :
    Consumes 0 t rest := by
  have ht := consumes_trimLeft t
  unfold readYear? at h
  split at h
  · rename_i after hs
    obtain ⟨⟨m, left⟩, hr, he⟩ := Option.map_eq_some_iff.mp h
    cases he
    rw [hs] at ht
    exact ht.trans (consumes_sign (.inr (.inr (.inl rfl))) (consumes_readDigits? hr))
  · rename_i after hs
    obtain ⟨⟨m, left⟩, hr, he⟩ := Option.map_eq_some_iff.mp h
    cases he
    rw [hs] at ht
    exact ht.trans (consumes_sign (.inr (.inr (.inr rfl))) (consumes_readDigits? hr))
  · obtain ⟨⟨m, left⟩, hr, he⟩ := Option.map_eq_some_iff.mp h
    cases he
    exact ht.trans (consumes_readNumber? hr)

theorem consumes_afterUnderscore? {t rest : Text} (h : afterUnderscore? t = some rest) :
    Consumes 1 t rest := by
  unfold afterUnderscore? at h
  split at h
  · cases h
    exact ⟨['_'], rfl, rfl, by simp⟩
  · cases h

/-- A stamp has three underscores, however freely it is written. -/
theorem consumes_of_isStamp {t : Text} (h : isStamp t = true) : Consumes 3 t [] := by
  unfold isStamp at h
  dsimp only at h
  split at h
  · rename_i year month day hour minute second rest hp
    simp only [Option.bind_eq_bind, Option.bind_eq_some_iff, Option.pure_def, Option.some.injEq,
      Prod.exists] at hp
    obtain ⟨_, _, hyear, _, hu, _, _, hmonth, _, hv, _, _, hday, _, hw, _, _, hhour, _, _, hminute,
      _, _, hsecond, he⟩ := hp
    cases he
    have hr : rest = [] := by simp_all
    subst hr
    exact (consumes_readYear? hyear).trans <| (consumes_afterUnderscore? hu).trans <|
      (consumes_readNumber? hmonth).trans <| (consumes_afterUnderscore? hv).trans <|
      (consumes_readNumber? hday).trans <| (consumes_afterUnderscore? hw).trans <|
      (consumes_readNumber? hhour).trans <| (consumes_readNumber? hminute).trans <|
      consumes_readNumber? hsecond
  · cases h

end Migrations.Timestamp
