import Migrations.Proofs.Text.Basic
import Migrations.Schema.Item

namespace Migrations.Schema

open Text (IsPlain IsWord Parts Place Sealed Shields)

theorem isPlain_comma : IsPlain ',' := by simp [IsPlain]

theorem isPlain_colon : IsPlain ':' := by simp [IsPlain]

theorem trim_of_mem_splitList {item segment : Text} (h : item ∈ splitList segment) :
    Text.trim item = item := by
  obtain ⟨part, _, rfl⟩ := List.mem_map.mp (List.mem_filter.mp h).1
  exact Text.trim_trim part

theorem ne_nil_of_mem_splitList {item segment : Text} (h : item ∈ splitList segment) :
    item ≠ [] := by
  simpa using (List.mem_filter.mp h).2

theorem splitList_of_shields {segment : Text} (h : Shields [','] .top segment) :
    splitList segment = if Text.trim segment = [] then [] else [Text.trim segment] := by
  rw [splitList, Text.splitTop_of_shields h]
  by_cases ht : Text.trim segment = [] <;> simp [ht]

theorem splitList_append {t : Text} (ht : Place.top.after t = .top) (u : Text) :
    splitList (t ++ ',' :: u) = splitList t ++ splitList u := by
  obtain ⟨front, last, hs⟩ := Text.exists_splitTop ',' t
  have hu : Text.splitFrom ',' (Place.top.after t) (',' :: u) = [] :: Text.splitTop ',' u := by
    simp [ht, Text.splitFrom, Text.splitTop]
  rw [splitList, Text.splitTop_glue isPlain_comma hs hu, List.append_nil, List.append_cons, ← hs,
    List.map_append, List.filter_append, ← splitList, ← splitList]

theorem splitList_append_blank {r : Text} (hr : ∀ c ∈ r, Text.isBlank c = true) (t : Text) :
    splitList (t ++ r) = splitList t := by
  obtain ⟨front, last, ht⟩ := Text.exists_splitTop ',' t
  rw [splitList, Text.splitTop_append_blank isPlain_comma (by decide) hr ht, splitList, ht]
  simp [Text.trim_append_right hr]

theorem splitList_blank_append {l : Text} (hl : ∀ c ∈ l, Text.isBlank c = true) (t : Text) :
    splitList (l ++ t) = splitList t := by
  obtain ⟨first, rest, ht⟩ := List.exists_cons_of_ne_nil (Text.splitTop_ne_nil ',' t)
  rw [splitList, Text.splitTop_blank_append (by decide) hl ht, splitList, ht]
  simp [Text.trim_append_left hl]

theorem splitList_trim (t : Text) : splitList (Text.trim t) = splitList t := by
  obtain ⟨l, r, ht, hl, hr⟩ := Text.exists_trim t
  conv_rhs => rw [ht, splitList_blank_append hl, splitList_append_blank hr]

theorem parts_splitList (segment : Text) : Parts ',' (splitList segment) := by
  have hp := Text.parts_splitTop ',' segment
  refine Parts.sublist ⟨?_, ?_⟩ List.filter_sublist
  · intro item hi
    obtain ⟨part, hm, rfl⟩ := List.mem_map.mp hi
    exact (hp.shields part hm).trim rfl
  · intro item hi
    rw [← List.map_dropLast] at hi
    obtain ⟨part, hm, rfl⟩ := List.mem_map.mp hi
    exact Text.closed_trim (hp.closed part hm)

/-- Items without blanks around them are what a list of them is split into. -/
theorem splitList_join {items : List Text} (h : Parts ',' items)
    (hi : ∀ item ∈ items, Text.trim item = item ∧ item ≠ []) :
    splitList (Text.join [','] items) = items := by
  by_cases hn : items = []
  · subst hn
    rfl
  · rw [splitList, Text.splitTop_join h hn]
    have hm : items.map Text.trim = items := by
      rw [List.map_congr_left (g := id) fun item hm => (hi item hm).1, List.map_id]
    rw [hm, List.filter_eq_self]
    intro item hm
    simpa using (hi item hm).2

/-- Sealed items are what a list of them is split into, without the blanks around them. -/
theorem splitList_join_sealed {items : List Text}
    (h : ∀ item ∈ items, Sealed item ∧ Text.trim item ≠ []) :
    splitList (Text.join [','] items) = items.map Text.trim := by
  induction items with
  | nil => rfl
  | cons item rest ih =>
    obtain ⟨⟨hs, hn⟩, hr⟩ := List.forall_mem_cons.mp h
    have hone : splitList item = [Text.trim item] := by
      rw [splitList_of_shields (hs.shields_one (by simp)), if_neg hn]
    by_cases he : rest = []
    · rw [he]
      exact hone
    · rw [Text.join_cons he, List.append_assoc, List.singleton_append, splitList_append hs.closed,
        hone, ih hr, List.map_cons, List.singleton_append]

theorem splitList_join_splitList (segment : Text) :
    splitList (Text.join [','] (splitList segment)) = splitList segment :=
  splitList_join (parts_splitList segment) fun _ hi =>
    ⟨trim_of_mem_splitList hi, ne_nil_of_mem_splitList hi⟩

/-- The items of a balanced segment without free colons are sealed. -/
theorem sealed_of_mem_splitList {segment : Text} (hs : Shields [':', ')'] .top segment)
    (hc : Place.top.after segment = .top) : ∀ item ∈ splitList segment, Sealed item := by
  intro item hi
  obtain ⟨part, hm, rfl⟩ := List.mem_map.mp (List.mem_filter.mp hi).1
  have hp := Shields.union ((Text.parts_splitTop ',' segment).shields part hm)
    (hs.of_mem_splitTop isPlain_comma part hm)
  exact Sealed.trim ⟨hp, Text.closed_of_mem_splitTop isPlain_comma hc part hm⟩

/-- A scanner outside of quotations notices only that commas and blanks are missing when a list is
read and written again, even one inside of parentheses, where the commas are not free. -/
theorem scan_join_splitList {marks : List Char} {p : Place} (hs : p.Sound) (hp : p.quoting = .off)
    {segment : Text} (hq : (p.after segment).quoting = .off) (h : Shields marks p segment) :
    Shields marks p (Text.join [','] (splitList segment)) ∧
      p.after (Text.join [','] (splitList segment)) = p.after segment := by
  induction segment using Text.splitTop_induction ',' generalizing p with
  | one segment ht =>
    have hj : Text.join [','] (splitList segment) = Text.trim segment := by
      rw [splitList_of_shields ht]
      by_cases he : Text.trim segment = [] <;> simp [he, Text.join]
    rw [hj]
    exact ⟨h.trim hp, Text.after_trim hs hp hq⟩
  | more first rest hf hc ih =>
    have ho : (p.after first).quoting = .off := by
      rw [Place.quoting_after (q := .top) hp first, hc]
      rfl
    obtain ⟨h1, h2⟩ := Text.shields_append.mp h
    rw [Text.shields_cons, Place.step_plain ho isPlain_comma] at h2
    rw [Place.after_append, Place.after_cons, Place.step_plain ho isPlain_comma] at hq ⊢
    obtain ⟨i1, i2⟩ := ih (hs.after first) ho hq h2.2
    have ht := Text.after_trim hs hp ho
    rw [splitList_append hc, splitList_of_shields hf]
    by_cases he : Text.trim first = []
    · rw [he] at ht
      rw [← ht] at i1 i2 ⊢
      simpa [he] using ⟨i1, i2⟩
    · by_cases hr : splitList rest = []
      · rw [hr] at i2
        simp only [he, if_false, hr, List.append_nil, Text.join]
        exact ⟨h1.trim hp, ht.trans i2⟩
      · simp only [he, if_false, List.singleton_append, Text.join_cons hr, List.append_assoc]
        rw [Text.shields_append, Place.after_append, ht, Text.shields_cons, Place.after_cons,
          Place.step_plain ho isPlain_comma]
        exact ⟨⟨h1.trim hp, h2.1, i1⟩, i2⟩

theorem splitCall?_word {item : Text} (h : '(' ∉ item) :
    splitCall? item = some (Text.trim item, none) := by
  rw [splitCall?, Text.splitFirst?_of_not_mem h]

theorem splitCall?_call {front : Text} (h : '(' ∉ front) (value : Text) :
    splitCall? (front ++ '(' :: value ++ [')']) = some (Text.trim front, some value) := by
  rw [List.append_assoc, List.cons_append, splitCall?, Text.splitFirst?_append h]
  simp only [show ((")" : String) : Text) = [')'] from rfl, Text.dropSuffix?_append,
    Option.map_some]

def callText (word : Text) : Option Text → Text
  | none => word
  | some value => word ++ '(' :: value ++ [')']

section Call

variable {word : Text} {value : Option Text} (hw : IsWord word)

include hw

theorem splitCall?_callText : splitCall? (callText word value) = some (word, value) := by
  have hn := hw.not_mem_parenthesis
  cases value with
  | none => rw [callText, splitCall?_word hn, hw.trim]
  | some text => rw [callText, splitCall?_call hn, hw.trim]

/-- Only the value of a call can keep it from being sealed. -/
theorem sealed_callText (hv : ∀ text ∈ value, Sealed ('(' :: text ++ [')'])) :
    Sealed (callText word value) := by
  cases value with
  | none => exact hw.sealed
  | some text =>
    rw [callText, List.append_assoc]
    exact hw.sealed.append (hv text rfl)

theorem trim_callText (hn : word ≠ []) : Text.trim (callText word value) = callText word value := by
  cases value with
  | none => exact hw.trim
  | some text =>
    rw [callText, List.append_assoc]
    exact Text.trim_append hw.trim (Text.trim_parenthesized text) hn (by simp)

end Call

theorem callText_ne_nil {word : Text} (hn : word ≠ []) (value : Option Text) :
    callText word value ≠ [] := by
  cases value <;> simp [callText, hn]

/-- An item is a word, or a call that ends with its parenthesis. -/
theorem splitCall?_cases {item word : Text} {value : Option Text}
    (h : splitCall? item = some (word, value)) :
    ('(' ∉ item ∧ word = Text.trim item ∧ value = none) ∨
      ∃ front inner, item = front ++ '(' :: inner ++ [')'] ∧ '(' ∉ front ∧
        word = Text.trim front ∧ value = some inner := by
  rcases Text.splitFirst?_cases '(' item with ⟨hn, _⟩ | ⟨front, rest, rfl, hf, hs⟩
  · rw [splitCall?_word hn] at h
    simp only [Option.some.injEq, Prod.mk.injEq] at h
    exact .inl ⟨hn, h.1.symm, h.2.symm⟩
  · simp only [splitCall?, hs, Option.map_eq_some_iff, Prod.mk.injEq] at h
    obtain ⟨inner, hi, hw, hv⟩ := h
    have he := Text.eq_append_of_dropSuffix? hi
    exact .inr ⟨front, inner, by simp [he], hf, hw.symm, hv.symm⟩

theorem keywordOf_word {item : Text} (h : '(' ∉ item) : keywordOf item = Text.trim item := by
  rw [keywordOf, List.takeWhile_eq_self_iff.mpr (Text.forall_ne_of_not_mem h)]

theorem keywordOf_append {front : Text} (h : '(' ∉ front) (rest : Text) :
    keywordOf (front ++ '(' :: rest) = Text.trim front := by
  rw [keywordOf, Text.takeWhile_ne_append h]

theorem keywordOf_of_splitCall? {item word : Text} {value : Option Text}
    (h : splitCall? item = some (word, value)) : keywordOf item = word := by
  rcases splitCall?_cases h with ⟨hn, rfl, _⟩ | ⟨front, inner, rfl, hf, rfl, _⟩
  · exact keywordOf_word hn
  · rw [List.append_assoc, List.cons_append, keywordOf_append hf]

theorem keywordOf_trim (item : Text) : keywordOf (Text.trim item) = keywordOf item := by
  obtain ⟨l, r, ht, hl, hr⟩ := Text.exists_trim item
  have hn : '(' ∉ l := fun h => (Text.isPlain_of_isBlank (hl _ h)).1.2.2.1 rfl
  have hm : '(' ∉ r := fun h => (Text.isPlain_of_isBlank (hr _ h)).1.2.2.1 rfl
  rcases Text.splitFirst?_cases '(' (Text.trim item) with ⟨hw, _⟩ | ⟨front, rest, he, hf, _⟩
  · have hi : '(' ∉ item := by
      rw [ht]
      simp [hn, hm, hw]
    rw [keywordOf_word hw, keywordOf_word hi, Text.trim_trim]
  · have hi : item = (l ++ front) ++ '(' :: (rest ++ r) := by
      rw [ht, he]
      simp
    rw [he, keywordOf_append hf, hi, keywordOf_append (by simp [hn, hf]),
      Text.trim_append_left hl]

/-- An item without blanks around it begins with its word. -/
theorem exists_keywordOf_append {item : Text} (ht : Text.trim item = item) :
    ∃ called, item = keywordOf item ++ called := by
  obtain ⟨l, r, hw, hl, _⟩ := Text.exists_trim (item.takeWhile (· ≠ '('))
  have hitem : item = l ++ (keywordOf item ++ (r ++ item.dropWhile (· ≠ '('))) := by
    have h := congrArg (· ++ item.dropWhile (· ≠ '(')) hw
    simpa [keywordOf, List.takeWhile_append_dropWhile] using h
  cases l with
  | nil => exact ⟨_, hitem⟩
  | cons c cs =>
    have hc : Text.isBlank c = false := by
      apply Text.head_trim (t := item)
      rw [ht, hitem]
      rfl
    rw [hl c (by simp)] at hc
    cases hc

theorem alphanum_keyword (m : Modifier) : m.keyword.all Char.isAlphanum = true := by
  cases m <;> decide

theorem lowerAscii_of_ofKeyword? {keyword : Text} {m : Modifier}
    (h : Modifier.ofKeyword? keyword = some m) : keyword.lowerAscii = m.keyword := by
  have hk := List.find?_some h
  exact (of_decide_eq_true hk).symm

theorem isWord_of_ofKeyword? {keyword : Text} {m : Modifier}
    (h : Modifier.ofKeyword? keyword = some m) : IsWord keyword := by
  apply Text.isWord_of_lowerAscii
  rw [lowerAscii_of_ofKeyword? h]
  exact fun c hc => .inl (List.all_eq_true.mp (alphanum_keyword m) c hc)

theorem isAlpha_head_of_ofKeyword? {keyword : Text} {m : Modifier}
    (h : Modifier.ofKeyword? keyword = some m) : ∃ c cs, keyword = c :: cs ∧ c.isAlpha = true := by
  have hl := lowerAscii_of_ofKeyword? h
  cases keyword with
  | nil => cases m <;> cases hl
  | cons c cs =>
    refine ⟨c, cs, rfl, ?_⟩
    have ha : c.toLower.isAlpha = true := by
      have hall : ∀ m : Modifier, m.keyword.head?.any Char.isAlpha = true := by
        intro m
        cases m <;> rfl
      have hm := hall m
      rwa [← hl] at hm
    unfold Char.toLower at ha
    split at ha
    · rename_i hu
      have hc : c.isUpper = true := decide_eq_true hu
      exact Bool.or_eq_true_iff.mpr (.inl hc)
    · exact ha

/-- A literal begins with another character, or is a word that no keyword begins. -/
theorem isLiteral_append_of_ofKeyword? {keyword : Text} {m : Modifier}
    (h : Modifier.ofKeyword? keyword = some m) (called : Text) :
    Text.isLiteral (keyword ++ called) = false := by
  have hfirst : Text.isQuoted (keyword ++ called) = false ∧
      Text.startsLikeNumber (keyword ++ called) = false := by
    obtain ⟨c, cs, rfl, hc⟩ := isAlpha_head_of_ofKeyword? h
    have hlt : c.toNat < 128 := by
      have hn := Text.toNat_of_isAlphanum (c := c) (by simp [Char.isAlphanum, hc])
      omega
    have hne : c.isDigit = false ∧ c ≠ '\'' ∧ c ≠ '"' ∧ c ≠ '-' ∧ c ≠ '+' ∧ c ≠ '.' :=
      Text.of_toNat_lt (P := fun c => c.isAlpha = true →
        c.isDigit = false ∧ c ≠ '\'' ∧ c ≠ '"' ∧ c ≠ '-' ∧ c ≠ '+' ∧ c ≠ '.')
        (by decide +kernel) hlt hc
    simp [Text.isQuoted, Text.startsLikeNumber, hne]
  have hword : (keyword ++ called).lowerAscii ∉ Text.literalKeywords := by
    have hall : ∀ m : Modifier, ∀ word ∈ Text.literalKeywords, ¬ m.keyword <+: word := by
      intro m
      cases m <;> decide
    intro hm
    refine hall m _ hm ⟨called.lowerAscii, ?_⟩
    rw [← lowerAscii_of_ofKeyword? h, Text.lowerAscii, Text.lowerAscii, Text.lowerAscii,
      List.map_append]
  simp [Text.isLiteral, hfirst, hword]

theorem alphanum_tokens :
    ColumnType.tokens.all (fun entry => entry.1.all Char.isAlphanum) = true := by
  decide +kernel

theorem isWord_of_ofToken {token : Text} (h : ColumnType.ofToken token ≠ .custom token) :
    IsWord token := by
  apply Text.isWord_of_lowerAscii
  unfold ColumnType.ofToken at h
  split at h
  · rename_i found type hf
    have he := List.find?_some hf
    have hm := List.mem_of_find?_eq_some hf
    simp only [decide_eq_true_eq] at he
    rw [← he]
    exact fun c hc => .inl (List.all_eq_true.mp (List.all_eq_true.mp alphanum_tokens _ hm) c hc)
  · contradiction

theorem mem_known_of_mem_tokens : ∀ entry ∈ ColumnType.tokens, entry.2 ∈ ColumnType.known := by
  decide +kernel

/-- The type of a token is known, or is the token itself. -/
theorem ofToken_cases (token : Text) :
    ColumnType.ofToken token ∈ ColumnType.known ∨ ColumnType.ofToken token = .custom token := by
  unfold ColumnType.ofToken
  split
  · rename_i found type hf
    exact .inl (mem_known_of_mem_tokens _ (List.mem_of_find?_eq_some hf))
  · exact .inr rfl

theorem custom_not_mem_known (token : Text) : ColumnType.custom token ∉ ColumnType.known := by
  simp [ColumnType.known]

/-- A type is read again from the token that it is printed with. -/
theorem ofToken_token_ofToken (token : Text) :
    ColumnType.ofToken (ColumnType.ofToken token).token = ColumnType.ofToken token := by
  rcases ofToken_cases token with h | h
  · exact ColumnType.ofToken_token h
  · rw [h]
    exact h

theorem eq_of_ofToken_eq_custom {token other : Text}
    (h : ColumnType.ofToken token = .custom other) : token = other := by
  rcases ofToken_cases token with hk | hc
  · exact absurd (h ▸ hk) (custom_not_mem_known other)
  · exact ColumnType.custom.inj (hc.symm.trans h)

end Migrations.Schema
