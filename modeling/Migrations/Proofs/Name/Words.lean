import Migrations.Proofs.Name.Letter

namespace Migrations

namespace Text

theorem flatten_consHead (c : Char) (parts : List Text) :
    (consHead c parts).flatten = c :: parts.flatten := by
  cases parts <;> rfl

theorem nil_not_mem_consHead {parts : List Text} (h : [] ∉ parts.tail) (c : Char) :
    [] ∉ consHead c parts := by
  cases parts with
  | nil => simp [consHead]
  | cons part rest => simpa [consHead] using h

end Text

namespace Name

open Text (IsLetter)

/-- Nothing is lost where a run is cut into words. -/
theorem flatten_splitCased (casing : Casing) (t : Text) : (splitCased casing t).flatten = t := by
  induction casing, t using splitCased.induct with
  | case1 => rfl
  | case2 => rfl
  | case3 casing c next rest h ih =>
    rw [splitCased, if_pos h, List.flatten_cons, ih]
    rfl
  | case4 casing c next rest h1 h2 ih =>
    rw [splitCased, if_neg h1, if_pos h2, List.flatten_cons, Text.flatten_consHead, ih]
    rfl
  | case5 casing c next rest h1 h2 ih =>
    rw [splitCased, if_neg h1, if_neg h2, Text.flatten_consHead, ih]

/-- A word holds letters and numbers of its name. -/
theorem mem_of_mem_words {name word : Text} (h : word ∈ words name) :
    ∀ c ∈ word, c ∈ name ∧ Text.isLetterOrNumber c = true := by
  intro c hc
  obtain ⟨run, hr, hw⟩ := List.mem_flatMap.mp h
  have hm : c ∈ run := by
    rw [← flatten_splitCased .none run]
    exact List.mem_flatten.mpr ⟨word, hw, hc⟩
  obtain ⟨hn, hl⟩ := Text.mem_of_mem_splitWhere hr c hm
  exact ⟨hn, by simpa using hl⟩

/-- Only the part that continues a word in capitals may be empty. -/
theorem nil_not_mem_splitCased (casing : Casing) (t : Text) :
    [] ∉ (splitCased casing t).tail ∧ (casing ≠ .upper → [] ∉ splitCased casing t) := by
  induction casing, t using splitCased.induct with
  | case1 => simp [splitCased]
  | case2 => simp [splitCased]
  | case3 casing c next rest h ih =>
    rw [splitCased, if_pos h]
    have hr := ih.2 (by simp)
    exact ⟨hr, fun _ => by simpa using hr⟩
  | case4 casing c next rest h1 h2 ih =>
    rw [splitCased, if_neg h1, if_pos h2]
    exact ⟨Text.nil_not_mem_consHead ih.1 c, fun hu => absurd h2.1 hu⟩
  | case5 casing c next rest h1 h2 ih =>
    rw [splitCased, if_neg h1, if_neg h2]
    have hn := Text.nil_not_mem_consHead ih.1 c
    exact ⟨fun hm => hn (List.mem_of_mem_tail hm), fun _ => hn⟩

theorem ne_nil_of_mem_words {name word : Text} (h : word ∈ words name) : word ≠ [] := by
  rintro rfl
  obtain ⟨run, _, hw⟩ := List.mem_flatMap.mp h
  exact (nil_not_mem_splitCased .none run).2 (by simp) hw

/-- No word goes beyond a character that is neither a letter nor a number. -/
theorem words_append {c : Char} (hc : Text.isLetterOrNumber c = false) (front rest : Text) :
    words (front ++ c :: rest) = words front ++ words rest := by
  have hs : (!Text.isLetterOrNumber c) = true := by simp [hc]
  rw [words, Text.splitWhere_append hs, List.flatMap_append]
  rfl

theorem words_blank {blanks : Text} (h : ∀ c ∈ blanks, Text.isBlank c = true) :
    words blanks = [] := by
  induction blanks with
  | nil => rfl
  | cons c rest ih =>
    obtain ⟨hc, hr⟩ := List.forall_mem_cons.mp h
    have hw := words_append (Text.isLetterOrNumber_of_isBlank hc) [] rest
    rw [← List.nil_append (c :: rest), hw, ih hr]
    rfl

theorem words_append_blank {blanks : Text} (h : ∀ c ∈ blanks, Text.isBlank c = true) (t : Text) :
    words (t ++ blanks) = words t := by
  cases blanks with
  | nil => rw [List.append_nil]
  | cons c rest =>
    obtain ⟨hc, hr⟩ := List.forall_mem_cons.mp h
    rw [words_append (Text.isLetterOrNumber_of_isBlank hc), words_blank hr, List.append_nil]

theorem words_blank_append {blanks : Text} (h : ∀ c ∈ blanks, Text.isBlank c = true) (t : Text) :
    words (blanks ++ t) = words t := by
  induction blanks with
  | nil => rfl
  | cons c rest ih =>
    obtain ⟨hc, hr⟩ := List.forall_mem_cons.mp h
    have hw := words_append (Text.isLetterOrNumber_of_isBlank hc) [] (rest ++ t)
    rw [List.nil_append] at hw
    rw [List.cons_append, hw, ih hr]
    rfl

theorem snake_trim (name : Text) : snake (Text.trim name) = snake name := by
  obtain ⟨l, r, he, hl, hr⟩ := Text.exists_trim name
  have hw : words name = words (Text.trim name) := by
    rw [he, words_blank_append hl, words_append_blank hr, ← he]
  rw [snake, snake, hw]

theorem isLetter_of_mem_words {name word : Text} (h : word ∈ words name) :
    ∀ c ∈ word, IsLetter c :=
  fun c hc => Text.isLetter_of_isLetterOrNumber (mem_of_mem_words h c hc).2

theorem isLetter_lowerWord {word : Text} (h : ∀ c ∈ word, IsLetter c) :
    ∀ d ∈ lowerWord word, IsLetter d := by
  induction word with
  | nil => simp [lowerWord]
  | cons c rest ih =>
    intro d hd
    cases rest with
    | nil =>
      rw [lowerWord] at hd
      split at hd
      · rw [List.mem_singleton.mp hd]
        decide
      · exact Text.isLetter_toLowercase (h c (by simp)) hd
    | cons next others =>
      rcases List.mem_append.mp hd with hc | hl
      · exact Text.isLetter_toLowercase (h c (by simp)) hc
      · exact ih (fun e he => h e (List.mem_cons_of_mem c he)) d hl

theorem isLetter_capitalWord {word : Text} (h : ∀ c ∈ word, IsLetter c) :
    ∀ d ∈ capitalWord word, IsLetter d := by
  cases word with
  | nil => simp [capitalWord]
  | cons c rest =>
    intro d hd
    rcases List.mem_append.mp hd with hc | hl
    · exact Text.isLetter_toUppercase (h c (by simp)) hc
    · exact isLetter_lowerWord (fun e he => h e (by simp [he])) d hl

theorem isLetter_of_mem_pascal {name : Text} {c : Char} (h : c ∈ pascal name) : IsLetter c := by
  obtain ⟨word, hw, hc⟩ := List.mem_flatMap.mp h
  exact isLetter_capitalWord (isLetter_of_mem_words hw) c hc

theorem isLetter_of_mem_snake {name : Text} {c : Char} (h : c ∈ snake name) :
    c = '_' ∨ IsLetter c := by
  rcases Text.mem_join h with hm | ⟨part, hp, hc⟩
  · exact .inl hm
  · obtain ⟨word, hw, rfl⟩ := List.mem_map.mp hp
    exact .inr (isLetter_lowerWord (isLetter_of_mem_words hw) c hc)

end Name

end Migrations
