import Mathlib.Data.List.Basic
import Mathlib.Data.List.TakeWhile
import Migrations.Proofs.Text.Nesting
import Migrations.Text.Blank

namespace Migrations.Text

theorem isPlain_of_isBlank {c : Char} (h : isBlank c = true) :
    IsPlain c ∧ c ≠ ',' ∧ c ≠ ':' := by
  refine ⟨⟨?_, ?_, ?_, ?_⟩, ?_, ?_⟩ <;> rintro rfl <;> revert h <;> decide

theorem after_blank {p : Place} (hp : p.quoting = .off) {t : Text}
    (ht : ∀ c ∈ t, isBlank c = true) : p.after t = p :=
  Place.after_plain hp fun c hc => (isPlain_of_isBlank (ht c hc)).1

theorem shields_blank {mark : Char} (hm : isBlank mark = false) {p : Place} {t : Text}
    (ht : ∀ c ∈ t, isBlank c = true) : Shields [mark] p t := by
  refine shields_of_not_mem fun c hc he => ?_
  rw [List.mem_singleton.mp he] at hc
  simp [ht mark hc] at hm

theorem trimLeft_append {l : Text} (hl : ∀ c ∈ l, isBlank c = true) (t : Text) :
    trimLeft (l ++ t) = trimLeft t := List.dropWhile_append_of_pos hl

theorem trim_append_left {l : Text} (hl : ∀ c ∈ l, isBlank c = true) (t : Text) :
    trim (l ++ t) = trim t := by
  rw [trim, trimLeft_append hl, trim]

theorem trimLeft_append_cons {c : Char} (hc : isBlank c = false) (a b : Text) :
    trimLeft (a ++ c :: b) = trimLeft a ++ c :: b := by
  rw [trimLeft, List.dropWhile_append, List.dropWhile_cons_of_neg (by simp [hc])]
  split
  · rename_i he
    rw [trimLeft, List.isEmpty_iff.mp he]
    rfl
  · rfl

theorem trimRight_append_cons {c : Char} (hc : isBlank c = false) (a b : Text) :
    trimRight (a ++ c :: b) = a ++ c :: trimRight b := by
  have h := trimLeft_append_cons hc b.reverse a.reverse
  rw [trimRight, List.reverse_append, List.reverse_cons, List.append_assoc, List.singleton_append,
    ← trimLeft, h]
  simp [trimRight, trimLeft]

/-- A character that is not blank keeps what is in front of it apart from what is behind it. -/
theorem trim_append_cons {c : Char} (hc : isBlank c = false) (a b : Text) :
    trim (a ++ c :: b) = trimLeft a ++ c :: trimRight b := by
  rw [trim, trimLeft_append_cons hc, trimRight_append_cons hc]

theorem trimRight_append {r : Text} (hr : ∀ c ∈ r, isBlank c = true) (t : Text) :
    trimRight (t ++ r) = trimRight t := by
  rw [trimRight, List.reverse_append, List.dropWhile_append_of_pos (by simpa using hr), trimRight]

theorem trim_append_right {r : Text} (hr : ∀ c ∈ r, isBlank c = true) (t : Text) :
    trim (t ++ r) = trim t := by
  rw [trim, trim, trimLeft, List.dropWhile_append, ← trimLeft]
  split
  · rename_i he
    rw [List.isEmpty_iff.mp he, List.dropWhile_eq_nil_iff.mpr hr]
  · exact trimRight_append hr _

theorem exists_trimLeft (t : Text) :
    ∃ l, t = l ++ trimLeft t ∧ ∀ c ∈ l, isBlank c = true :=
  ⟨t.takeWhile isBlank, List.takeWhile_append_dropWhile.symm, fun _ => List.mem_takeWhile_imp⟩

theorem exists_trimRight (t : Text) :
    ∃ r, t = trimRight t ++ r ∧ ∀ c ∈ r, isBlank c = true := by
  obtain ⟨l, hl, hb⟩ := exists_trimLeft t.reverse
  refine ⟨l.reverse, ?_, fun c hc => hb c (by simpa using hc)⟩
  have h := congrArg List.reverse hl
  rwa [List.reverse_reverse, List.reverse_append] at h

/-- Trimming takes blanks from the two ends. -/
theorem exists_trim (t : Text) :
    ∃ l r, t = l ++ (trim t ++ r) ∧ (∀ c ∈ l, isBlank c = true) ∧ ∀ c ∈ r, isBlank c = true := by
  obtain ⟨l, hl, hbl⟩ := exists_trimLeft t
  obtain ⟨r, hr, hbr⟩ := exists_trimRight (trimLeft t)
  exact ⟨l, r, by rw [trim, ← hr, ← hl], hbl, hbr⟩

theorem trim_eq_self {t : Text} (hh : ∀ c, t.head? = some c → isBlank c = false)
    (hl : ∀ c, t.getLast? = some c → isBlank c = false) : trim t = t := by
  have h1 : trimLeft t = t := by
    cases t with
    | nil => rfl
    | cons c cs => simp [trimLeft, hh c rfl]
  rw [trim, h1, trimRight]
  cases hr : t.reverse with
  | nil => simp_all
  | cons c cs =>
    have hc : isBlank c = false := hl c (by rw [← List.head?_reverse, hr]; rfl)
    rw [List.dropWhile_cons_of_neg (by simp [hc]), ← hr, List.reverse_reverse]

theorem head_trim {t : Text} {c : Char} (h : (trim t).head? = some c) : isBlank c = false := by
  obtain ⟨r, hr, _⟩ := exists_trimRight (trimLeft t)
  have hs : (trimLeft t).head? = some c := by
    rw [hr]
    cases ht : trim t with
    | nil => simp [ht] at h
    | cons d ds =>
      rw [show trimRight (trimLeft t) = d :: ds from ht]
      simpa [ht] using h
  have := List.head?_dropWhile_not isBlank t
  rw [show t.dropWhile isBlank = trimLeft t from rfl, hs] at this
  simpa using this

theorem last_trim {t : Text} {c : Char} (h : (trim t).getLast? = some c) : isBlank c = false := by
  have := List.head?_dropWhile_not isBlank (trimLeft t).reverse
  rw [trim, trimRight, List.getLast?_reverse] at h
  rw [h] at this
  simpa using this

theorem trim_trim (t : Text) : trim (trim t) = trim t :=
  trim_eq_self (fun _ => head_trim) fun _ => last_trim

theorem trimLeft_eq_self {t : Text} (h : trim t = t) : trimLeft t = t := by
  cases t with
  | nil => rfl
  | cons c cs =>
    have hc : isBlank c = false := head_trim (t := c :: cs) (by rw [h]; rfl)
    exact List.dropWhile_cons_of_neg (by simp [hc])

theorem trimRight_eq_self {t : Text} (h : trim t = t) : trimRight t = t := by
  have ht := h
  rwa [trim, trimLeft_eq_self h] at ht

/-- A text at the end of a trimmed one has no blanks behind it. -/
theorem trim_eq_trimLeft {front t : Text} (h : trim (front ++ t) = front ++ t) :
    trim t = trimLeft t := by
  obtain ⟨l, hl, _⟩ := exists_trimLeft t
  obtain ⟨r, hr, hb⟩ := exists_trimRight (trimLeft t)
  have hn : r = [] := by
    by_contra hn
    have hc : isBlank (r.getLast hn) = false := by
      apply last_trim (t := front ++ t)
      rw [h, hl, hr, List.getLast?_append, List.getLast?_append, List.getLast?_append,
        List.getLast?_eq_some_getLast hn]
      rfl
    rw [hb _ (List.getLast_mem hn)] at hc
    cases hc
  rw [hn, List.append_nil] at hr
  exact hr.symm

/-- A text at the beginning of a trimmed one has no blanks in front of it. -/
theorem trim_eq_trimRight {t back : Text} (h : trim (t ++ back) = t ++ back) :
    trim t = trimRight t := by
  cases t with
  | nil => rfl
  | cons c cs =>
    have hc : isBlank c = false := head_trim (t := c :: cs ++ back) (by rw [h]; rfl)
    rw [trim, trimLeft, List.dropWhile_cons_of_neg (by simp [hc])]

/-- A trimmed text has no blank at either end. -/
theorem trim_append {t u : Text} (ht : trim t = t) (hu : trim u = u) (hn : t ≠ []) (hm : u ≠ []) :
    trim (t ++ u) = t ++ u := by
  refine trim_eq_self (fun c hc => ?_) fun c hc => ?_
  · apply head_trim (t := t)
    rwa [ht, ← List.head?_append_of_ne_nil t hn]
  · apply last_trim (t := u)
    rwa [hu, ← List.getLast?_append_of_ne_nil t hm]

theorem trim_of_not_blank {t : Text} (h : ∀ c ∈ t, isBlank c = false) : trim t = t :=
  trim_eq_self (fun c hc => h c (List.mem_of_mem_head? hc))
    fun c hc => h c (List.mem_of_getLast? hc)

theorem trim_parenthesized (t : Text) : trim ('(' :: t ++ [')']) = '(' :: t ++ [')'] := by
  refine trim_eq_self (fun c hc => ?_) fun c hc => ?_
  · cases hc
    decide
  · rw [List.getLast?_concat] at hc
    cases hc
    decide

/-- A scanner that stands outside of quotations before and after a text does not notice that the
text is trimmed. -/
theorem after_trim {p : Place} (hs : p.Sound) (hp : p.quoting = .off) {t : Text}
    (ha : (p.after t).quoting = .off) : p.after (trim t) = p.after t := by
  obtain ⟨l, r, ht, hl, hr⟩ := exists_trim t
  have h1 : p.after l = p := after_blank hp hl
  have h2 : p.after t = (p.after (trim t)).after r := by
    have h := congrArg p.after ht
    rwa [Place.after_append, h1, Place.after_append] at h
  rw [h2] at ha ⊢
  exact ((hs.after _).eq_of_after (fun c hc => (isPlain_of_isBlank (hr c hc)).1) ha).symm

theorem closed_trim {t : Text} (h : Place.top.after t = .top) :
    Place.top.after (trim t) = .top := by
  rw [after_trim Place.sound_top rfl (by rw [h]; rfl), h]

theorem closed_trim_iff {t : Text} :
    Place.top.after (trim t) = .top ↔ Place.top.after t = .top := by
  refine ⟨fun h => ?_, closed_trim⟩
  obtain ⟨l, r, ht, hl, hr⟩ := exists_trim t
  rw [ht, Place.after_append, after_blank rfl hl, Place.after_append, h, after_blank rfl hr]

theorem Shields.trim {marks : List Char} {p : Place} (hp : p.quoting = .off) {t : Text}
    (h : Shields marks p t) : Shields marks p (trim t) := by
  obtain ⟨l, r, ht, hl, _⟩ := exists_trim t
  rw [ht, shields_append, shields_append] at h
  have h1 : p.after l = p := after_blank hp hl
  exact h1 ▸ h.2.1

theorem isBalanced_trim (t : Text) : isBalanced (trim t) = isBalanced t := by
  obtain ⟨l, r, ht, hl, hr⟩ := exists_trim t
  have hs : Shields [')'] .top t ↔ Shields [')'] .top (trim t) := by
    conv_lhs => rw [ht]
    rw [shields_append, shields_append, after_blank rfl hl]
    have hb : isBlank ')' = false := by decide
    exact ⟨fun h => h.2.1, fun h => ⟨shields_blank hb hl, h, shields_blank hb hr⟩⟩
  rw [Bool.eq_iff_iff, isBalanced_iff, isBalanced_iff, hs, closed_trim_iff]

/-- Blanks belong to the last part of what is in front of them. -/
theorem splitTop_append_blank {mark : Char} (hm : IsPlain mark) (hb : isBlank mark = false)
    {t r last : Text} {front : List Text} (hr : ∀ c ∈ r, isBlank c = true)
    (ht : splitTop mark t = front ++ [last]) :
    splitTop mark (t ++ r) = front ++ [last ++ r] :=
  splitTop_glue hm ht (splitFrom_of_shields (shields_blank hb hr))

/-- Blanks belong to the first part of what is behind them. -/
theorem splitTop_blank_append {mark : Char} (hb : isBlank mark = false) {l t first : Text}
    {rest : List Text} (hl : ∀ c ∈ l, isBlank c = true) (ht : splitTop mark t = first :: rest) :
    splitTop mark (l ++ t) = (l ++ first) :: rest := by
  refine splitFrom_prepend (shields_blank hb hl) ?_
  rw [after_blank rfl hl]
  exact ht

theorem Sealed.trim {t : Text} (h : Sealed t) : Sealed (trim t) :=
  ⟨h.shields.trim rfl, closed_trim h.closed⟩

/-- Blanks around a sealed text do not matter to a scanner outside of quotations. -/
theorem sealed_of_trim {t : Text} (h : Sealed (trim t)) : Sealed t := by
  obtain ⟨l, r, ht, hl, hr⟩ := exists_trim t
  rw [ht]
  exact (sealed_plain fun c hc => isPlain_of_isBlank (hl c hc)).append
    (h.append (sealed_plain fun c hc => isPlain_of_isBlank (hr c hc)))

theorem dropWhile_marks {marks : List Char} {t : Text} (h : ∀ c ∈ t, c ∉ marks) :
    t.dropWhile (· ∈ marks) = t := by
  cases t with
  | nil => rfl
  | cons c cs => exact List.dropWhile_cons_of_neg (by simp [h c (by simp)])

theorem trimMarks_of_not_mem {marks : List Char} {t : Text} (h : ∀ c ∈ t, c ∉ marks) :
    trimMarks marks t = t := by
  rw [trimMarks, dropWhile_marks h, dropWhile_marks (by simpa using h), List.reverse_reverse]

theorem trimMarks_marked {marks : List Char} {mark : Char} (hm : mark ∈ marks) {t : Text}
    (h : ∀ c ∈ t, c ∉ marks) : trimMarks marks (mark :: t ++ [mark]) = t := by
  have hleft : (mark :: t ++ [mark]).dropWhile (· ∈ marks) = (t ++ [mark]).dropWhile (· ∈ marks) :=
    List.dropWhile_cons_of_pos (by simpa using hm)
  have hright : (t ++ [mark]).reverse.dropWhile (· ∈ marks) = t.reverse := by
    rw [List.reverse_concat, List.dropWhile_cons_of_pos (by simpa using hm),
      dropWhile_marks fun c hc => h c (List.mem_reverse.mp hc)]
  rw [trimMarks, hleft, List.dropWhile_append, dropWhile_marks h]
  cases t with
  | nil => simp [hm]
  | cons c cs => rw [List.isEmpty_cons, if_neg (by simp), hright, List.reverse_reverse]

end Migrations.Text
