import Migrations.Proofs.Text.Blank

namespace Migrations.Text

theorem join_append {first rest : List Text} (hf : first ≠ []) (hr : rest ≠ []) (sep : Text) :
    join sep (first ++ rest) = join sep first ++ sep ++ join sep rest := by
  induction first with
  | nil => contradiction
  | cons t ts ih =>
    cases ts with
    | nil => exact join_cons hr sep t
    | cons u us =>
      have hu := List.cons_ne_nil u us
      rw [List.cons_append, join_cons (by simp), ih hu, join_cons hu]
      simp only [List.append_assoc]

theorem join_cons_flatMap (sep t : Text) (rest : List Text) :
    join sep (t :: rest) = t ++ rest.flatMap (sep ++ ·) := by
  induction rest generalizing t with
  | nil => simp [join]
  | cons next others ih => rw [join, ih, List.flatMap_cons, List.append_assoc, List.append_assoc]

/-- A joined text around one of its parts. -/
theorem join_around (sep : Text) (before : List Text) (t : Text) (after : List Text) :
    join sep (before ++ t :: after) =
      before.flatMap (· ++ sep) ++ (t ++ after.flatMap (sep ++ ·)) := by
  induction before with
  | nil => exact join_cons_flatMap sep t after
  | cons first others ih =>
    rw [List.cons_append, join_cons (by simp), ih, List.flatMap_cons]
    simp only [List.append_assoc]

theorem join_concat (sep : Text) (front : List Text) (t : Text) :
    join sep (front ++ [t]) = front.flatMap (· ++ sep) ++ t := by
  rw [join_around, List.flatMap_nil, List.append_nil]

theorem join_glue (mark : Char) (t u : Text) (rest : List Text) :
    join [mark] ((t ++ mark :: u) :: rest) = join [mark] (t :: u :: rest) := by
  cases rest <;> simp [join]

theorem join_prepend (sep front t : Text) (rest : List Text) :
    join sep ((front ++ t) :: rest) = front ++ join sep (t :: rest) := by
  cases rest <;> simp [join]

/-- Joining joined groups is joining all of their members. -/
theorem join_map_join (sep : Text) {groups : List (List Text)} (h : ∀ g ∈ groups, g ≠ []) :
    join sep (groups.map (join sep)) = join sep groups.flatten := by
  induction groups with
  | nil => rfl
  | cons g gs ih =>
    have hg := ih fun g hg => h g (by simp [hg])
    cases gs with
    | nil => simp [join]
    | cons g' gs' =>
      have hn : (g' :: gs').flatten ≠ [] := by simp [h g' (by simp)]
      rw [List.map_cons, join_cons (by simp), hg, ← join_append (h g (by simp)) hn,
        ← List.flatten_cons]

theorem join_ne_nil (sep : Text) {parts : List Text} (hn : parts ≠ [])
    (h : ∀ part ∈ parts, part ≠ []) : join sep parts ≠ [] := by
  obtain ⟨part, rest, rfl⟩ := List.exists_cons_of_ne_nil hn
  have hp := h part (by simp)
  cases rest with
  | nil => exact hp
  | cons next others => simp [join, hp]

theorem mem_join {mark c : Char} {parts : List Text} (h : c ∈ join [mark] parts) :
    c = mark ∨ ∃ part ∈ parts, c ∈ part := by
  induction parts with
  | nil => cases h
  | cons part rest ih =>
    by_cases hr : rest = []
    · subst hr
      exact .inr ⟨part, by simp, h⟩
    · rw [join_cons hr, List.append_assoc, List.mem_append, List.mem_append,
        List.mem_singleton] at h
      rcases h with hp | hm | hj
      · exact .inr ⟨part, by simp, hp⟩
      · exact .inl hm
      · rcases ih hj with hm | ⟨q, hq, hc⟩
        · exact .inl hm
        · exact .inr ⟨q, by simp [hq], hc⟩

theorem splitWhere_eq_singleton {cut : Char → Bool} {t : Text} (h : ∀ c ∈ t, cut c = false) :
    splitWhere cut t = [t] := by
  induction t with
  | nil => rfl
  | cons c cs ih =>
    rw [splitWhere, h c (by simp), ih fun d hd => h d (by simp [hd])]
    rfl

theorem splitWhere_append {cut : Char → Bool} {mark : Char} (hm : cut mark = true)
    (front rest : Text) :
    splitWhere cut (front ++ mark :: rest) = splitWhere cut front ++ splitWhere cut rest := by
  induction front with
  | nil => simp [splitWhere, hm]
  | cons c cs ih =>
    by_cases hc : cut c = true
    · simp [splitWhere, hc, ih]
    · obtain ⟨part, parts, hp⟩ := List.exists_cons_of_ne_nil (splitWhere_ne_nil cut cs)
      simp [splitWhere, hc, ih, hp, consHead]

/-- Texts that are joined with a mark are split at it again. -/
theorem splitWhere_join {cut : Char → Bool} {mark : Char} (hm : cut mark = true)
    {parts : List Text} (hn : parts ≠ []) (h : ∀ part ∈ parts, ∀ c ∈ part, cut c = false) :
    splitWhere cut (join [mark] parts) = parts := by
  induction parts with
  | nil => contradiction
  | cons part rest ih =>
    obtain ⟨hp, hr⟩ := List.forall_mem_cons.mp h
    by_cases he : rest = []
    · subst he
      exact splitWhere_eq_singleton hp
    · rw [join_cons he, List.append_assoc, List.singleton_append, splitWhere_append hm, ih he hr,
        splitWhere_eq_singleton hp, List.singleton_append]

/-- Trimmed texts between marks are trimmed together. -/
theorem trim_join {mark : Char} (hm : isBlank mark = false) {parts : List Text}
    (h : ∀ part ∈ parts, trim part = part ∧ part ≠ []) :
    trim (join [mark] parts) = join [mark] parts := by
  induction parts with
  | nil => rfl
  | cons part rest ih =>
    obtain ⟨ht, hn⟩ := h part (by simp)
    by_cases hr : rest = []
    · subst hr
      exact ht
    · have hi := ih fun q hq => h q (by simp [hq])
      have hj := join_ne_nil [mark] hr fun q hq => (h q (by simp [hq])).2
      have hk : trim [mark] = [mark] := trim_of_not_blank (by simpa using hm)
      rw [join_cons hr]
      exact trim_append (trim_append ht hk hn (by simp)) hi (by simp) hj

theorem dropLead?_append (lead t : Text) : dropLead? (lead ++ t) lead = some t := by
  simp [dropLead?]

theorem dropSuffix?_eq_some_iff {t suffix left : Text} :
    dropSuffix? t suffix = some left ↔ t = left ++ suffix :=
  ⟨eq_append_of_dropSuffix?, fun h => h ▸ dropSuffix?_append left suffix⟩

theorem forall_ne_of_not_mem {mark : Char} {t : Text} (h : mark ∉ t) :
    ∀ c ∈ t, decide (c ≠ mark) = true := by
  intro c hc
  simp only [decide_eq_true_eq]
  rintro rfl
  exact h hc

theorem takeWhile_ne_append {mark : Char} {front : Text} (h : mark ∉ front) (rest : Text) :
    (front ++ mark :: rest).takeWhile (· ≠ mark) = front := by
  rw [List.takeWhile_append_of_pos (forall_ne_of_not_mem h)]
  simp

theorem splitFirst?_append {mark : Char} {front : Text} (h : mark ∉ front) (rest : Text) :
    splitFirst? mark (front ++ mark :: rest) = some (front, rest) := by
  rw [splitFirst?, takeWhile_ne_append h, List.dropWhile_append_of_pos (forall_ne_of_not_mem h)]
  simp

theorem splitFirst?_of_not_mem {mark : Char} {t : Text} (h : mark ∉ t) :
    splitFirst? mark t = none := by
  rw [splitFirst?, List.dropWhile_eq_nil_iff.mpr (forall_ne_of_not_mem h)]

/-- A text without the mark is left whole, any other one is cut at its first mark. -/
theorem splitFirst?_cases (mark : Char) (t : Text) :
    (mark ∉ t ∧ splitFirst? mark t = none) ∨
      ∃ front rest, t = front ++ mark :: rest ∧ mark ∉ front ∧
        splitFirst? mark t = some (front, rest) := by
  by_cases h : mark ∈ t
  · obtain ⟨front, rest, rfl, hf⟩ := List.eq_append_cons_of_mem h
    exact .inr ⟨front, rest, rfl, hf, splitFirst?_append hf rest⟩
  · exact .inl ⟨h, splitFirst?_of_not_mem h⟩

theorem splitLast?_append {mark : Char} {rest : Text} (h : mark ∉ rest) (front : Text) :
    splitLast? mark (front ++ mark :: rest) = some (front, rest) := by
  have hr : mark ∉ rest.reverse := by simpa using h
  have he : (front ++ mark :: rest).reverse = rest.reverse ++ mark :: front.reverse := by simp
  rw [splitLast?, he, splitFirst?_append hr]
  simp

theorem splitLast?_of_not_mem {mark : Char} {t : Text} (h : mark ∉ t) :
    splitLast? mark t = none := by
  rw [splitLast?, splitFirst?_of_not_mem (by simpa using h)]
  rfl

/-- A text without the mark is left whole, any other one is cut at its last mark. -/
theorem splitLast?_cases (mark : Char) (t : Text) :
    (mark ∉ t ∧ splitLast? mark t = none) ∨
      ∃ front rest, t = front ++ mark :: rest ∧ mark ∉ rest ∧
        splitLast? mark t = some (front, rest) := by
  by_cases h : mark ∈ t
  · obtain ⟨back, front, he, hb⟩ := List.eq_append_cons_of_mem (List.mem_reverse.mpr h)
    have ht : t = front.reverse ++ mark :: back.reverse := by
      rw [← List.reverse_reverse t, he]
      simp
    have hr : mark ∉ back.reverse := by simpa using hb
    exact .inr ⟨front.reverse, back.reverse, ht, hr, ht ▸ splitLast?_append hr front.reverse⟩
  · exact .inl ⟨h, splitLast?_of_not_mem h⟩

def IsWord (t : Text) : Prop := ∀ c ∈ t, c.isAlphanum = true ∨ c = '_'

theorem isWord_of_isIdentifier {t : Text} (h : isIdentifier t = true) : IsWord t := by
  cases t with
  | nil => simp [isIdentifier] at h
  | cons c cs =>
    simp only [isIdentifier, Bool.and_eq_true, Bool.or_eq_true, beq_iff_eq, List.all_eq_true] at h
    intro d hd
    rcases List.mem_cons.mp hd with rfl | hd
    · rcases h.1 with h | h
      · exact .inl (by simp [Char.isAlphanum, h])
      · exact .inr h
    · exact h.2 d hd

/-- Behind the first character only letters, digits and underscores are asked for. -/
theorem isIdentifier_cons_iff {c : Char} {cs : Text} (h : IsWord cs) :
    isIdentifier (c :: cs) = true ↔ c.isAlpha = true ∨ c = '_' := by
  have hcs : (cs.all fun d => d.isAlphanum || d == '_') = true := by
    simpa only [IsWord, List.all_eq_true, Bool.or_eq_true, beq_iff_eq] using h
  rw [isIdentifier, hcs, Bool.and_true, Bool.or_eq_true, beq_iff_eq]

theorem ne_nil_of_isIdentifier {t : Text} (h : isIdentifier t = true) : t ≠ [] := by
  rintro rfl
  simp [isIdentifier] at h

theorem isWord_of_lowerAscii {t : Text} (h : IsWord (lowerAscii t)) : IsWord t := by
  intro c hc
  have hl := h c.toLower (List.mem_map_of_mem hc)
  unfold Char.toLower at hl
  split at hl
  · rename_i hu
    have hc : c.isUpper = true := decide_eq_true hu
    have ha : c.isAlphanum = ((c.isUpper || c.isLower) || c.isDigit) := rfl
    exact .inl (by simp [ha, hc])
  · exact hl

theorem toNat_of_isAlphanum {c : Char} (h : c.isAlphanum = true) :
    (65 ≤ c.toNat ∧ c.toNat ≤ 90) ∨ (97 ≤ c.toNat ∧ c.toNat ≤ 122) ∨
      (48 ≤ c.toNat ∧ c.toNat ≤ 57) := by
  have ha : c.isAlphanum = ((decide ('A'.val ≤ c.val ∧ c.val ≤ 'Z'.val) ||
      (decide ('a'.val ≤ c.val) && decide (c.val ≤ 'z'.val))) ||
      (decide ('0'.val ≤ c.val) && decide (c.val ≤ '9'.val))) := rfl
  rw [ha] at h
  simp only [Bool.or_eq_true, Bool.and_eq_true, decide_eq_true_eq, UInt32.le_iff_toNat_le,
    or_assoc] at h
  exact h

/-- A property of the code points below 128 is one of their characters. -/
theorem of_toNat_lt {P : Char → Prop} (h : ∀ n < 128, P (Char.ofNat n)) {c : Char}
    (hc : c.toNat < 128) : P c := by
  have hp := h c.toNat hc
  rwa [Char.ofNat_toNat] at hp

theorem isBlank_of_word {c : Char} (h : c.isAlphanum = true ∨ c = '_') : isBlank c = false := by
  rcases h with h | rfl
  · have hn := toNat_of_isAlphanum h
    simp only [isBlank, Bool.or_eq_false_iff, Bool.and_eq_false_iff, decide_eq_false_iff_not,
      beq_eq_false_iff_ne]
    omega
  · decide

theorem isPlain_of_word {c : Char} (h : c.isAlphanum = true ∨ c = '_') :
    IsPlain c ∧ c ≠ ',' ∧ c ≠ ':' := by
  refine ⟨⟨?_, ?_, ?_, ?_⟩, ?_, ?_⟩ <;> rintro rfl <;> revert h <;> decide

theorem IsWord.trim {t : Text} (h : IsWord t) : trim t = t :=
  trim_of_not_blank fun c hc => isBlank_of_word (h c hc)

theorem IsWord.sealed {t : Text} (h : IsWord t) : Sealed t :=
  sealed_plain fun c hc => isPlain_of_word (h c hc)

theorem IsWord.not_mem_parenthesis {t : Text} (h : IsWord t) : '(' ∉ t :=
  fun hm => (isPlain_of_word (h _ hm)).1.2.2.1 rfl

theorem IsWord.not_mem_quote {t : Text} (h : IsWord t) : '\'' ∉ t :=
  fun hm => (isPlain_of_word (h _ hm)).1.1 rfl

end Migrations.Text
