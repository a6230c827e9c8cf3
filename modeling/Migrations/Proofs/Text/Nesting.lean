import Migrations.Text.Nesting

namespace Migrations.Text

namespace Place

def after (p : Place) (t : Text) : Place := t.foldl step p

def deepen (n : Nat) (p : Place) : Place := { p with depth := p.depth + n }

/-- A quotation is under way only between quotes. -/
def Sound (p : Place) : Prop :=
  ∀ mark, p.quoting = .on mark ∨ p.quoting = .escaped mark → mark = '\'' ∨ mark = '"'

end Place

/-- From `p` on, none of the marks stands outside of parentheses and quotations. -/
def Shields (marks : List Char) : Place → Text → Prop
  | _, [] => True
  | p, c :: cs => ¬(p = .top ∧ c ∈ marks) ∧ Shields marks (p.step c) cs

instance decidableShields (marks : List Char) :
    (p : Place) → (t : Text) → Decidable (Shields marks p t)
  | _, [] => isTrue trivial
  | p, c :: cs =>
    have := decidableShields marks (p.step c) cs
    inferInstanceAs (Decidable (_ ∧ _))

def IsPlain (c : Char) : Prop := c ≠ '\'' ∧ c ≠ '"' ∧ c ≠ '(' ∧ c ≠ ')'

/-- The text closes what it opens, and no separator stands outside of parentheses and quotations. -/
structure Sealed (t : Text) : Prop where
  shields : Shields [',', ':', ')'] .top t
  closed : Place.top.after t = .top

instance (t : Text) : Decidable (Sealed t) :=
  decidable_of_iff (Shields [',', ':', ')'] .top t ∧ Place.top.after t = .top)
    ⟨fun ⟨h1, h2⟩ => ⟨h1, h2⟩, fun ⟨h1, h2⟩ => ⟨h1, h2⟩⟩

namespace Place

@[simp] theorem after_nil (p : Place) : p.after [] = p := rfl

@[simp] theorem after_cons (p : Place) (c : Char) (t : Text) :
    p.after (c :: t) = (p.step c).after t := rfl

@[simp] theorem after_append (p : Place) (t u : Text) : p.after (t ++ u) = (p.after t).after u :=
  List.foldl_append

theorem step_plain {p : Place} {c : Char} (hp : p.quoting = .off) (hc : IsPlain c) :
    p.step c = p := by
  obtain ⟨h1, h2, h3, h4⟩ := hc
  simp [step, hp, h1, h2, h3, h4]

theorem after_plain {p : Place} {t : Text} (hp : p.quoting = .off) (ht : ∀ c ∈ t, IsPlain c) :
    p.after t = p := by
  induction t with
  | nil => rfl
  | cons c cs ih =>
    rw [after_cons, step_plain hp (ht c (by simp))]
    exact ih fun d hd => ht d (by simp [hd])

theorem sound_top : top.Sound := by
  intro mark h
  simp [top] at h

theorem Sound.step {p : Place} (h : p.Sound) (c : Char) : (p.step c).Sound := by
  intro mark hm
  unfold Place.step at hm
  split at hm
  · rename_i m hq
    have he : mark = m := by simpa [eq_comm] using hm
    exact he ▸ h m (.inr hq)
  · rename_i m hq
    split at hm
    · have he : mark = m := by simpa [eq_comm] using hm
      exact he ▸ h m (.inl hq)
    · split at hm
      · simp at hm
      · exact h mark hm
  · split at hm
    · rename_i hc
      have he : mark = c := by simpa [eq_comm] using hm
      exact he ▸ hc
    · split at hm
      · exact h mark hm
      · split at hm
        · exact h mark hm
        · exact h mark hm

theorem Sound.after {p : Place} (h : p.Sound) (t : Text) : (p.after t).Sound := by
  induction t generalizing p with
  | nil => exact h
  | cons c cs ih => exact ih (h.step c)

/-- Only a quote leads outside of a quotation. -/
theorem Sound.off_of_step {p : Place} (h : p.Sound) {c : Char} (hc : c ≠ '\'' ∧ c ≠ '"')
    (hs : (p.step c).quoting = .off) : p.quoting = .off := by
  cases hq : p.quoting with
  | off => rfl
  | escaped mark => simp [Place.step, hq] at hs
  | on mark =>
    have hne : c ≠ mark := by
      rintro rfl
      rcases h c (.inl hq) with rfl | rfl
      · exact hc.1 rfl
      · exact hc.2 rfl
    by_cases hb : c = '\\' <;> simp [Place.step, hq, hb, hne] at hs

/-- Plain characters at the end of a text that ends outside of quotations change nothing. -/
theorem Sound.eq_of_after {p : Place} (h : p.Sound) {t : Text} (ht : ∀ c ∈ t, IsPlain c)
    (ha : (p.after t).quoting = .off) : p.after t = p := by
  induction t generalizing p with
  | nil => rfl
  | cons c cs ih =>
    have hr := ih (h.step c) (fun d hd => ht d (by simp [hd])) ha
    rw [after_cons, hr] at ha ⊢
    have hc := ht c (by simp)
    exact step_plain (h.off_of_step ⟨hc.1, hc.2.1⟩ ha) hc

/-- Quotations do not depend on the parentheses around them. -/
theorem quoting_step {p q : Place} (h : p.quoting = q.quoting) (c : Char) :
    (p.step c).quoting = (q.step c).quoting := by
  obtain ⟨depth, quoting⟩ := p
  obtain ⟨other, quoting'⟩ := q
  cases (show quoting = quoting' from h)
  cases quoting with
  | escaped mark => rfl
  | on mark =>
    by_cases hb : c = '\\'
    · simp [step, hb]
    · by_cases hm : c = mark
      · simp [step, ← hm, hb]
      · simp [step, hb, hm]
  | off =>
    by_cases hq : c = '\'' ∨ c = '"'
    · simp [step, hq]
    · by_cases ho : c = '(' <;> by_cases hc : c = ')' <;> simp [step, hq, ho, hc]

theorem quoting_after {p q : Place} (h : p.quoting = q.quoting) (t : Text) :
    (p.after t).quoting = (q.after t).quoting := by
  induction t generalizing p q with
  | nil => exact h
  | cons c cs ih => exact ih (quoting_step h c)

theorem deepen_injective (n : Nat) {p q : Place} (h : p.deepen n = q.deepen n) : p = q := by
  obtain ⟨depth, quoting⟩ := p
  obtain ⟨other, quoting'⟩ := q
  simp only [deepen, mk.injEq] at h ⊢
  exact ⟨by omega, h.2⟩

/-- Only a parenthesis that closes nothing behaves differently inside of further ones. -/
theorem step_deepen {p : Place} {c : Char} (n : Nat) (h : ¬(p = .top ∧ c = ')')) :
    (p.deepen n).step c = (p.step c).deepen n := by
  obtain ⟨depth, quoting⟩ := p
  cases quoting with
  | off =>
    by_cases hc : c = ')'
    · subst hc
      have hd : depth ≠ 0 := fun hd => h ⟨by simp [top, hd], rfl⟩
      simp [step, deepen]
      omega
    · by_cases ho : c = '('
      · subst ho
        simp [step, deepen]
        omega
      · by_cases hq : c = '\'' ∨ c = '"' <;> simp [step, deepen, hc, ho, hq]
  | on mark =>
    by_cases hb : c = '\\'
    · simp [step, deepen, hb]
    · by_cases hm : c = mark
      · simp [step, deepen, ← hm, hb]
      · simp [step, deepen, hb, hm]
  | escaped mark => simp [step, deepen]

end Place

@[simp] theorem shields_nil (marks : List Char) (p : Place) : Shields marks p [] := trivial

@[simp] theorem shields_cons (marks : List Char) (p : Place) (c : Char) (t : Text) :
    Shields marks p (c :: t) ↔ ¬(p = .top ∧ c ∈ marks) ∧ Shields marks (p.step c) t := Iff.rfl

theorem shields_append {marks : List Char} {p : Place} {t u : Text} :
    Shields marks p (t ++ u) ↔ Shields marks p t ∧ Shields marks (p.after t) u := by
  induction t generalizing p with
  | nil => simp
  | cons c cs ih => simp only [List.cons_append, shields_cons, ih, Place.after_cons, and_assoc]

theorem Shields.mono {few many : List Char} {p : Place} {t : Text} (h : Shields many p t)
    (hs : few ⊆ many) : Shields few p t := by
  induction t generalizing p with
  | nil => trivial
  | cons c cs ih => exact ⟨fun hc => h.1 ⟨hc.1, hs hc.2⟩, ih h.2⟩

theorem Shields.union {some others : List Char} {p : Place} {t : Text} (h : Shields some p t)
    (ho : Shields others p t) : Shields (some ++ others) p t := by
  induction t generalizing p with
  | nil => trivial
  | cons c cs ih =>
    refine ⟨?_, ih h.2 ho.2⟩
    rintro ⟨hp, hc⟩
    rcases List.mem_append.mp hc with hc | hc
    · exact h.1 ⟨hp, hc⟩
    · exact ho.1 ⟨hp, hc⟩

/-- A text that closes nothing too early is the same inside of further parentheses. -/
theorem Shields.after_deepen {p : Place} {t : Text} (n : Nat) (h : Shields [')'] p t) :
    (p.deepen n).after t = (p.after t).deepen n := by
  induction t generalizing p with
  | nil => rfl
  | cons c cs ih =>
    rw [Place.after_cons, Place.after_cons, Place.step_deepen n (by simpa using h.1), ih h.2]

/-- Inside of further parentheses a text that closes nothing too early shows no mark at all. -/
theorem Shields.deepen {p : Place} {t : Text} (n : Nat) (h : Shields [')'] p t)
    (marks : List Char) : Shields marks (p.deepen (n + 1)) t := by
  induction t generalizing p with
  | nil => trivial
  | cons c cs ih =>
    refine ⟨fun hc => ?_, ?_⟩
    · have hd : p.depth + (n + 1) = 0 := congrArg Place.depth hc.1
      omega
    · rw [Place.step_deepen (n + 1) (by simpa using h.1)]
      exact ih h.2

theorem shields_of_not_mem {marks : List Char} {p : Place} {t : Text} (h : ∀ c ∈ t, c ∉ marks) :
    Shields marks p t := by
  induction t generalizing p with
  | nil => trivial
  | cons c cs ih => exact ⟨fun hc => h c (by simp) hc.2, ih fun d hd => h d (by simp [hd])⟩

/-- Balance is a closed end without a parenthesis that closes too early. -/
theorem balancedFrom_iff {p : Place} {t : Text} :
    balancedFrom p t = true ↔ Shields [')'] p t ∧ p.after t = .top := by
  induction t generalizing p with
  | nil => simp [balancedFrom]
  | cons c cs ih =>
    by_cases h : p = .top ∧ c = ')'
    · simp [balancedFrom, h]
    · simp only [balancedFrom, h, if_false, ih, shields_cons, List.mem_singleton,
        not_false_eq_true, true_and, Place.after_cons]

theorem isBalanced_iff {t : Text} :
    isBalanced t = true ↔ Shields [')'] .top t ∧ Place.top.after t = .top := balancedFrom_iff

theorem splitFrom_of_shields {mark : Char} {p : Place} {t : Text} (h : Shields [mark] p t) :
    splitFrom mark p t = [t] := by
  induction t generalizing p with
  | nil => rfl
  | cons c cs ih =>
    have hc : ¬(p = .top ∧ c = mark) := by simpa using h.1
    simp [splitFrom, ih h.2, consHead, hc]

theorem splitFrom_append {mark : Char} {p : Place} {t : Text} (h : Shields [mark] p t)
    (hc : p.after t = .top) (rest : Text) :
    splitFrom mark p (t ++ mark :: rest) = t :: splitTop mark rest := by
  induction t generalizing p with
  | nil => simp [splitFrom, splitTop, show p = .top from hc]
  | cons c cs ih =>
    simp [splitFrom, ih h.2 hc, consHead, show ¬(p = .top ∧ c = mark) by simpa using h.1]

theorem splitFrom_prepend {mark : Char} {p : Place} {t u first : Text} {rest : List Text}
    (ht : Shields [mark] p t) (hu : splitFrom mark (p.after t) u = first :: rest) :
    splitFrom mark p (t ++ u) = (t ++ first) :: rest := by
  induction t generalizing p with
  | nil => exact hu
  | cons c cs ih =>
    have hc : ¬(p = .top ∧ c = mark) := by simpa using ht.1
    simp [splitFrom, ih ht.2 hu, hc, consHead]

/-- The first free mark of a text, if there is one. -/
theorem shields_or_split (mark : Char) (p : Place) (t : Text) :
    Shields [mark] p t ∨
      ∃ first rest, t = first ++ mark :: rest ∧ Shields [mark] p first ∧ p.after first = .top := by
  induction t generalizing p with
  | nil => exact .inl trivial
  | cons c cs ih =>
    by_cases h : p = .top ∧ c = mark
    · exact .inr ⟨[], cs, by simp [h.2], trivial, h.1⟩
    · rcases ih (p.step c) with hs | ⟨first, rest, rfl, hs, hc⟩
      · exact .inl ⟨by simpa using h, hs⟩
      · exact .inr ⟨c :: first, rest, rfl, ⟨by simpa using h, hs⟩, hc⟩

/-- Induction along the parts of a text: it is one part, or its first part ends at a mark. -/
theorem splitTop_induction {motive : Text → Prop} (mark : Char)
    (one : ∀ t, Shields [mark] .top t → motive t)
    (more : ∀ first rest, Shields [mark] .top first → Place.top.after first = .top → motive rest →
      motive (first ++ mark :: rest))
    (t : Text) : motive t := by
  rcases shields_or_split mark .top t with h | ⟨first, rest, ht, hs, hc⟩
  · exact one t h
  · have hl : rest.length < t.length := by simp [ht]; omega
    exact ht ▸ more first rest hs hc (splitTop_induction mark one more rest)
termination_by t.length

theorem splitTop_of_shields {mark : Char} {t : Text} (h : Shields [mark] .top t) :
    splitTop mark t = [t] := splitFrom_of_shields h

theorem splitTop_append {mark : Char} {t : Text} (h : Shields [mark] .top t)
    (hc : Place.top.after t = .top) (rest : Text) :
    splitTop mark (t ++ mark :: rest) = t :: splitTop mark rest := splitFrom_append h hc rest

theorem splitTop_ne_nil (mark : Char) (t : Text) : splitTop mark t ≠ [] :=
  splitFrom_ne_nil mark .top t

/-- The parts of a text, one after another, as a splitter leaves them: none shows the mark, and all
but the last one are closed. -/
structure Parts (mark : Char) (parts : List Text) : Prop where
  shields : ∀ part ∈ parts, Shields [mark] .top part
  closed : ∀ part ∈ parts.dropLast, Place.top.after part = .top

theorem parts_splitTop (mark : Char) (t : Text) : Parts mark (splitTop mark t) := by
  induction t using splitTop_induction mark with
  | one t h =>
    rw [splitTop_of_shields h]
    exact ⟨by simpa using h, by simp⟩
  | more first rest h hc ih =>
    rw [splitTop_append h hc]
    refine ⟨?_, ?_⟩
    · intro part hp
      rcases List.mem_cons.mp hp with rfl | hp
      · exact h
      · exact ih.shields part hp
    · rw [List.dropLast_cons_of_ne_nil (splitTop_ne_nil mark rest)]
      intro part hp
      rcases List.mem_cons.mp hp with rfl | hp
      · exact hc
      · exact ih.closed part hp

theorem Parts.sublist {mark : Char} {few many : List Text} (h : Parts mark many)
    (hs : few.Sublist many) : Parts mark few := by
  refine ⟨fun part hp => h.shields part (hs.subset hp), ?_⟩
  induction hs with
  | slnil => simp
  | cons part hs ih =>
    rename_i few many
    refine ih ⟨fun q hq => h.shields q (by simp [hq]), fun q hq => h.closed q ?_⟩
    cases many with
    | nil => simp at hq
    | cons next rest => simpa using .inr hq
  | cons_cons part hs ih =>
    rename_i few many
    cases few with
    | nil => simp
    | cons next rest =>
      obtain ⟨other, others, rfl⟩ := List.exists_cons_of_ne_nil
        (List.ne_nil_of_mem (hs.subset List.mem_cons_self))
      simp only [List.dropLast_cons_of_ne_nil (List.cons_ne_nil _ _)] at h ⊢
      intro q hq
      rcases List.mem_cons.mp hq with rfl | hq
      · exact h.closed q (by simp [List.dropLast_cons_of_ne_nil])
      · refine ih ⟨fun q hq => h.shields q (by simp [hq]), fun q hq => h.closed q ?_⟩ q hq
        rw [List.dropLast_cons_of_ne_nil (List.cons_ne_nil _ _)]
        simp [hq]

/-- Parts that a splitter may leave are what it leaves of their join. -/
theorem splitTop_join {mark : Char} {parts : List Text} (h : Parts mark parts) (hn : parts ≠ []) :
    splitTop mark (join [mark] parts) = parts := by
  induction parts with
  | nil => contradiction
  | cons part rest ih =>
    cases rest with
    | nil => exact splitTop_of_shields (h.shields part (by simp))
    | cons next others =>
      have hp := h.shields part (by simp)
      have hc := h.closed part (by simp [List.dropLast_cons_of_ne_nil])
      have hr := ih (h.sublist (by simp)) (by simp)
      rw [join_cons (by simp), List.append_assoc, List.singleton_append, splitTop_append hp hc, hr]

theorem parts_of_closed {mark : Char} {parts : List Text}
    (h : ∀ part ∈ parts, Shields [mark] .top part ∧ Place.top.after part = .top) :
    Parts mark parts :=
  ⟨fun part hp => (h part hp).1, fun part hp => (h part (List.dropLast_subset _ hp)).2⟩

/-- More text never takes a part away. -/
theorem length_splitTop_append (mark : Char) (t u : Text) :
    (splitTop mark t).length ≤ (splitTop mark (t ++ u)).length := by
  induction t using splitTop_induction mark with
  | one t ht =>
    rw [splitTop_of_shields ht]
    exact List.length_pos_iff.mpr (splitTop_ne_nil mark (t ++ u))
  | more first rest hf hc ih =>
    rw [List.append_assoc, List.cons_append, splitTop_append hf hc, splitTop_append hf hc]
    simpa using ih

/-- More text leaves all parts but the last one as they are. -/
theorem take_splitTop_append (mark : Char) {t : Text} (u : Text) {n : Nat}
    (hn : n < (splitTop mark t).length) :
    (splitTop mark (t ++ u)).take n = (splitTop mark t).take n := by
  induction t using splitTop_induction mark generalizing n with
  | one t ht =>
    rw [splitTop_of_shields ht, List.length_singleton, Nat.lt_one_iff] at hn
    simp [hn]
  | more first rest hf hc ih =>
    rw [List.append_assoc, List.cons_append, splitTop_append hf hc, splitTop_append hf hc]
    rw [splitTop_append hf hc, List.length_cons] at hn
    cases n with
    | zero => rfl
    | succ n => rw [List.take_succ_cons, List.take_succ_cons, ih (by omega)]

theorem step_mark {mark : Char} (hm : IsPlain mark) : Place.top.step mark = .top :=
  Place.step_plain rfl hm

theorem exists_splitTop (mark : Char) (t : Text) :
    ∃ front last, splitTop mark t = front ++ [last] := by
  obtain ⟨front, last, h⟩ := (List.eq_nil_or_concat _).resolve_left (splitTop_ne_nil mark t)
  exact ⟨front, last, by rw [h, List.concat_eq_append]⟩

/-- The last part of a text grows together with the first part of what follows it. -/
theorem splitTop_glue {mark : Char} (hm : IsPlain mark) {t u last first : Text}
    {front rest : List Text} (ht : splitTop mark t = front ++ [last])
    (hu : splitFrom mark (Place.top.after t) u = first :: rest) :
    splitTop mark (t ++ u) = front ++ (last ++ first) :: rest := by
  induction t using splitTop_induction mark generalizing front with
  | one t h =>
    rw [splitTop_of_shields h] at ht
    obtain ⟨rfl, rfl⟩ : front = [] ∧ last = t := by
      simpa [List.singleton_eq_append_iff] using ht
    exact splitFrom_prepend h hu
  | more head tail h hc ih =>
    obtain ⟨parts, part, hp⟩ := exists_splitTop mark tail
    rw [splitTop_append h hc, hp, ← List.cons_append] at ht
    obtain ⟨rfl, hl⟩ := List.append_inj' ht rfl
    rw [Place.after_append, hc, Place.after_cons, step_mark hm] at hu
    obtain rfl : part = last := by simpa using hl
    rw [List.append_assoc, List.cons_append, splitTop_append h hc, ih hp hu]
    rfl

/-- What a whole text keeps from standing free, its parts keep as well. -/
theorem Shields.of_mem_splitTop {marks : List Char} {mark : Char} (hm : IsPlain mark) {t : Text}
    (h : Shields marks .top t) : ∀ part ∈ splitTop mark t, Shields marks .top part := by
  induction t using splitTop_induction mark with
  | one t ht => simpa [splitTop_of_shields ht] using h
  | more first rest hf hc ih =>
    obtain ⟨h1, h2⟩ := shields_append.mp h
    rw [hc, shields_cons, step_mark hm] at h2
    intro part hp
    rw [splitTop_append hf hc] at hp
    rcases List.mem_cons.mp hp with rfl | hp
    · exact h1
    · exact ih h2.2 part hp

/-- All parts of a closed text are closed. -/
theorem closed_of_mem_splitTop {mark : Char} (hm : IsPlain mark) {t : Text}
    (h : Place.top.after t = .top) : ∀ part ∈ splitTop mark t, Place.top.after part = .top := by
  induction t using splitTop_induction mark with
  | one t ht => simpa [splitTop_of_shields ht] using h
  | more first rest hf hc ih =>
    rw [Place.after_append, hc, Place.after_cons, step_mark hm] at h
    intro part hp
    rw [splitTop_append hf hc] at hp
    rcases List.mem_cons.mp hp with rfl | hp
    · exact hc
    · exact ih h part hp

/-- Closed parts between marks are closed together, and show what one of them shows. -/
theorem scan_join {marks : List Char} {mark : Char} (hm : IsPlain mark) (hn : mark ∉ marks)
    {parts : List Text}
    (h : ∀ part ∈ parts, Shields marks .top part ∧ Place.top.after part = .top) :
    Shields marks .top (join [mark] parts) ∧ Place.top.after (join [mark] parts) = .top := by
  induction parts with
  | nil => exact ⟨trivial, rfl⟩
  | cons part rest ih =>
    obtain ⟨h1, h2⟩ := h part (by simp)
    by_cases hr : rest = []
    · subst hr
      exact ⟨h1, h2⟩
    · obtain ⟨i1, i2⟩ := ih fun q hq => h q (by simp [hq])
      rw [join_cons hr, List.append_assoc, List.singleton_append, shields_append,
        Place.after_append, h2, shields_cons, Place.after_cons, step_mark hm]
      exact ⟨⟨h1, fun hc => hn hc.2, i1⟩, i2⟩

theorem Sealed.append {t u : Text} (ht : Sealed t) (hu : Sealed u) : Sealed (t ++ u) := by
  refine ⟨shields_append.mpr ⟨ht.shields, ?_⟩, ?_⟩
  · rw [ht.closed]
    exact hu.shields
  · rw [Place.after_append, ht.closed, hu.closed]

/-- What follows a sealed beginning of a sealed text is sealed. -/
theorem Sealed.of_append {t u : Text} (h : Sealed (t ++ u)) (ht : Place.top.after t = .top) :
    Sealed u := by
  obtain ⟨_, hs⟩ := shields_append.mp h.shields
  have hc := h.closed
  rw [Place.after_append, ht] at hc
  exact ⟨ht ▸ hs, hc⟩

theorem sealed_plain {t : Text} (h : ∀ c ∈ t, IsPlain c ∧ c ≠ ',' ∧ c ≠ ':') : Sealed t := by
  refine ⟨shields_of_not_mem fun c hc => ?_, Place.after_plain rfl fun c hc => (h c hc).1⟩
  simp [(h c hc).2, (h c hc).1.2.2.2]

theorem Sealed.shields_one {t : Text} (h : Sealed t) {mark : Char} (hm : mark ∈ [',', ':', ')']) :
    Shields [mark] .top t := h.shields.mono (by simpa using hm)

theorem Sealed.isBalanced {t : Text} (h : Sealed t) : isBalanced t = true :=
  isBalanced_iff.mpr ⟨h.shields_one (by simp), h.closed⟩

/-- A balanced text between parentheses is sealed. -/
theorem sealed_parenthesized {t : Text} (h : isBalanced t = true) : Sealed ('(' :: t ++ [')']) := by
  obtain ⟨hs, hc⟩ := isBalanced_iff.mp h
  have ho : Place.top.step '(' = Place.top.deepen 1 := rfl
  have ha := hs.after_deepen 1
  refine ⟨?_, ?_⟩
  · rw [List.cons_append, shields_cons, ho, shields_append]
    refine ⟨by simp, hs.deepen 0 _, ?_⟩
    rw [ha, hc]
    simp [Place.deepen, Place.top]
  · rw [List.cons_append, Place.after_cons, ho, Place.after_append, ha, hc]
    rfl

/-- A quotation goes on up to its own quote. -/
theorem scan_quotation {marks : List Char} {q : Char} {t : Text} (h : ∀ c ∈ t, c ≠ q ∧ c ≠ '\\') :
    Shields marks ⟨0, .on q⟩ t ∧ (⟨0, .on q⟩ : Place).after t = ⟨0, .on q⟩ := by
  induction t with
  | nil => exact ⟨trivial, rfl⟩
  | cons c cs ih =>
    obtain ⟨hc, hcs⟩ := List.forall_mem_cons.mp h
    have hstep : (⟨0, .on q⟩ : Place).step c = ⟨0, .on q⟩ := by simp [Place.step, hc]
    rw [shields_cons, Place.after_cons, hstep]
    exact ⟨⟨by simp [Place.top], (ih hcs).1⟩, (ih hcs).2⟩

theorem sealed_quotation {q : Char} (hq : q = '\'' ∨ q = '"') {t : Text}
    (h : ∀ c ∈ t, c ≠ q ∧ c ≠ '\\') : Sealed (q :: t ++ [q]) := by
  have hopen : Place.top.step q = ⟨0, .on q⟩ := by simp [Place.step, Place.top, hq]
  have hclose : (⟨0, .on q⟩ : Place).step q = .top := by
    rcases hq with rfl | rfl <;> rfl
  have hmarks : q ∉ [',', ':', ')'] := by
    rcases hq with rfl | rfl <;> decide
  obtain ⟨hs, ha⟩ : Shields [',', ':', ')'] ⟨0, .on q⟩ t ∧ _ := scan_quotation h
  refine ⟨?_, ?_⟩
  · rw [List.cons_append, shields_cons, hopen, shields_append, ha]
    exact ⟨fun hc => hmarks hc.2, hs, by simp [Place.top]⟩
  · rw [List.cons_append, Place.after_cons, hopen, Place.after_append, ha, Place.after_cons, hclose,
      Place.after_nil]

end Migrations.Text
