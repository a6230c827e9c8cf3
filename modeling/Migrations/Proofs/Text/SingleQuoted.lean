import Mathlib.Data.List.Chain
import Migrations.Proofs.Text.Basic
import Migrations.Text.SingleQuoted

namespace Migrations.Text

/-- No backslash stands in front of another one or of a single quote, the closing one included. -/
def IsInert (t : Text) : Prop :=
  (t ++ ['\'']).IsChain fun c d => c = '\\' → d ≠ '\\' ∧ d ≠ '\''

instance (t : Text) : Decidable t.IsInert := inferInstanceAs (Decidable (List.IsChain _ _))

/-- An inert text without single quotes, which may stand between them as it is. -/
def IsVerbatim (t : Text) : Prop := '\'' ∉ t ∧ IsInert t

instance (t : Text) : Decidable t.IsVerbatim := inferInstanceAs (Decidable (_ ∧ _))

theorem isInert_nil : IsInert [] := .singleton _

theorem not_isInert_last : ¬IsInert ['\\'] := by decide

theorem isInert_cons {c : Char} (hc : c ≠ '\\') (cs : Text) : IsInert (c :: cs) ↔ IsInert cs := by
  simp [IsInert, List.isChain_cons, hc]

theorem isInert_pair {c : Char} {cs : Text} :
    IsInert ('\\' :: c :: cs) ↔ (c ≠ '\\' ∧ c ≠ '\'') ∧ IsInert cs := by
  have hstep : IsInert ('\\' :: c :: cs) ↔ (c ≠ '\\' ∧ c ≠ '\'') ∧ IsInert (c :: cs) := by
    simp [IsInert]
  rw [hstep]
  exact and_congr_right fun hc => isInert_cons hc.1 cs

theorem isVerbatim_of_forall_ne {t : Text} (h : ∀ c ∈ t, c ≠ '\'' ∧ c ≠ '\\') : IsVerbatim t := by
  refine ⟨fun hq => (h _ hq).1 rfl, ?_⟩
  induction t with
  | nil => exact isInert_nil
  | cons c cs ih =>
    exact (isInert_cons (h c (by simp)).2 cs).mpr (ih fun d hd => h d (by simp [hd]))

theorem IsWord.isVerbatim {t : Text} (h : IsWord t) : IsVerbatim t := by
  refine isVerbatim_of_forall_ne fun c hc => ⟨(isPlain_of_word (h c hc)).1.1, ?_⟩
  rintro rfl
  exact absurd (h '\\' hc) (by decide)

/-- Induction along a text as it is read between quotes, where a backslash goes with the character
behind it. -/
theorem escape_induction {motive : Text → Prop} (nil : motive []) (last : motive ['\\'])
    (pair : ∀ c cs, motive cs → motive ('\\' :: c :: cs))
    (other : ∀ c cs, c ≠ '\\' → motive cs → motive (c :: cs)) : ∀ t, motive t
  | [] => nil
  | [c] => by
    by_cases hc : c = '\\'
    · exact hc ▸ last
    · exact other c [] hc nil
  | c :: d :: cs => by
    by_cases hc : c = '\\'
    · exact hc ▸ pair d cs (escape_induction nil last pair other cs)
    · exact other c (d :: cs) hc (escape_induction nil last pair other (d :: cs))

theorem readQuoted?_quote (rest : Text) : readQuoted? ('\'' :: rest) = some ([], rest) := rfl

theorem readQuoted?_other {c : Char} (hq : c ≠ '\'') (hb : c ≠ '\\') (rest : Text) :
    readQuoted? (c :: rest) = (readQuoted? rest).map (Prod.map (c :: ·) id) := by
  rw [readQuoted?]
  · rfl
  · exact hq
  · exact fun h => absurd h hb
  · exact fun _ _ h => absurd h hb

theorem readQuoted?_escaped {c : Char} (hc : c = '\'' ∨ c = '\\') (rest : Text) :
    readQuoted? ('\\' :: c :: rest) = (readQuoted? rest).map (Prod.map (c :: ·) id) := by
  simp only [readQuoted?, hc, if_true]
  rfl

theorem readQuoted?_pair {c : Char} (hb : c ≠ '\\') (hq : c ≠ '\'') (rest : Text) :
    readQuoted? ('\\' :: c :: rest) = (readQuoted? rest).map (Prod.map ('\\' :: c :: ·) id) := by
  simp only [readQuoted?, hq, hb, or_self, if_false]
  rfl

theorem exists_of_map_read {read : Option (Text × Text)} {f : Text → Text} {value rest : Text}
    (h : read.map (Prod.map f id) = some (value, rest)) :
    ∃ v, read = some (v, rest) ∧ f v = value := by
  obtain ⟨⟨v, r⟩, hr, he⟩ := Option.map_eq_some_iff.mp h
  obtain ⟨hv, rfl⟩ := Prod.mk.inj he
  exact ⟨v, hr, hv⟩

theorem escapeQuotes_quote (cs : Text) :
    escapeQuotes ('\'' :: cs) = '\\' :: '\'' :: escapeQuotes cs := rfl

theorem escapeQuotes_cons {c : Char} (hc : c ≠ '\'') (cs : Text) :
    escapeQuotes (c :: cs) = c :: escapeQuotes cs := if_neg hc

theorem escapeQuotes_of_not_mem {t : Text} (h : '\'' ∉ t) : escapeQuotes t = t := by
  induction t with
  | nil => rfl
  | cons c cs ih =>
    rw [List.mem_cons, not_or] at h
    rw [escapeQuotes_cons (Ne.symm h.1), ih h.2]

/-- Every character but a backslash is read as it was written. -/
theorem readQuoted?_escapeQuotes_cons {c : Char} (hb : c ≠ '\\') (cs rest : Text) :
    readQuoted? (escapeQuotes (c :: cs) ++ rest) =
      (readQuoted? (escapeQuotes cs ++ rest)).map (Prod.map (c :: ·) id) := by
  by_cases hq : c = '\''
  · rw [hq, escapeQuotes_quote, List.cons_append, List.cons_append, readQuoted?_escaped (.inl rfl)]
  · rw [escapeQuotes_cons hq, List.cons_append, readQuoted?_other hq hb]

theorem readQuoted?_escapeQuotes {t : Text} (h : IsInert t) (rest : Text) :
    readQuoted? (escapeQuotes t ++ '\'' :: rest) = some (t, rest) := by
  induction t using escape_induction with
  | nil => rfl
  | last => exact absurd h not_isInert_last
  | pair c cs ih =>
    obtain ⟨⟨hb, hq⟩, hcs⟩ := isInert_pair.mp h
    rw [escapeQuotes_cons (by decide), escapeQuotes_cons hq, List.cons_append, List.cons_append,
      readQuoted?_pair hb hq, ih hcs]
    rfl
  | other c cs hb ih =>
    rw [readQuoted?_escapeQuotes_cons hb, ih ((isInert_cons hb cs).mp h)]
    rfl

theorem replicate_append_cons (n : Nat) (t : Text) :
    List.replicate n '\\' ++ '\\' :: t = '\\' :: (List.replicate n '\\' ++ t) := by
  rw [List.append_cons, ← List.replicate_succ', List.replicate_succ, List.cons_append]

theorem eq_zero_of_cons_eq {c : Char} (hc : c ≠ '\\') {v t : Text} {n : Nat}
    (h : c :: v = List.replicate n '\\' ++ c :: t) : n = 0 ∧ v = t := by
  cases n with
  | zero => exact ⟨rfl, (List.cons.inj h).2⟩
  | succ n =>
    rw [List.replicate_succ, List.cons_append] at h
    exact absurd (List.cons.inj h).1 hc

/-- Only an inert text is read back, be it as the beginning of a longer value. The induction needs
the backslashes in front: a pair of them is read as one, so that the text behind the pair would have
to be read with a backslash more than it has. -/
theorem isInert_of_readQuoted? {t more other rest : Text} {n : Nat}
    (h : readQuoted? (escapeQuotes t ++ '\'' :: more) =
      some (List.replicate n '\\' ++ (t ++ other), rest)) : n = 0 ∧ other = [] ∧ IsInert t := by
  induction t using escape_induction generalizing n with
  | nil =>
    have hv : [] = List.replicate n '\\' ++ other := (Prod.mk.inj (Option.some.inj h)).1
    obtain ⟨hn, ho⟩ := List.append_eq_nil_iff.mp hv.symm
    exact ⟨by simpa using hn, ho, isInert_nil⟩
  | last =>
    rw [escapeQuotes_cons (by decide), List.cons_append, escapeQuotes, List.nil_append,
      readQuoted?_escaped (.inl rfl), List.cons_append, replicate_append_cons] at h
    obtain ⟨v, _, hv⟩ := exists_of_map_read h
    exact absurd (List.cons.inj hv).1 (by decide)
  | pair c cs ih =>
    rw [escapeQuotes_cons (by decide), List.cons_append, List.cons_append,
      replicate_append_cons] at h
    by_cases hq : c = '\''
    · rw [hq, escapeQuotes_quote, List.cons_append, List.cons_append,
        readQuoted?_escaped (.inr rfl), readQuoted?_quote] at h
      have hv := (List.cons.inj (Prod.mk.inj (Option.some.inj h)).1).2
      simp at hv
    · rw [escapeQuotes_cons hq, List.cons_append] at h
      by_cases hb : c = '\\'
      · rw [hb, readQuoted?_escaped (.inr rfl), List.cons_append, replicate_append_cons,
          ← List.cons_append, ← List.replicate_succ] at h
        obtain ⟨v, hr, hv⟩ := exists_of_map_read h
        rw [(List.cons.inj hv).2] at hr
        exact absurd (ih hr).1 (by omega)
      · rw [readQuoted?_pair hb hq] at h
        obtain ⟨v, hr, hv⟩ := exists_of_map_read h
        obtain ⟨hn, rfl⟩ := eq_zero_of_cons_eq hb (List.cons.inj hv).2
        obtain ⟨_, ho, hi⟩ := ih (n := 0) hr
        exact ⟨hn, ho, isInert_pair.mpr ⟨⟨hb, hq⟩, hi⟩⟩
  | other c cs hb ih =>
    rw [readQuoted?_escapeQuotes_cons hb] at h
    obtain ⟨v, hr, hv⟩ := exists_of_map_read h
    obtain ⟨hn, rfl⟩ := eq_zero_of_cons_eq hb hv
    obtain ⟨_, ho, hi⟩ := ih (n := 0) hr
    exact ⟨hn, ho, (isInert_cons hb cs).mpr hi⟩

/-- A quoted text is read back, up to its closing quote, exactly if it is inert. -/
theorem readLiteral?_quoteSingle_iff {t more rest : Text} :
    readLiteral? (quoteSingle t ++ more) = some (t, rest) ↔ IsInert t ∧ rest = more := by
  have hread : readLiteral? (quoteSingle t ++ more) =
      readQuoted? (escapeQuotes t ++ '\'' :: more) := by
    simp [quoteSingle, readLiteral?]
  rw [hread]
  constructor
  · intro h
    have hr : readQuoted? (escapeQuotes t ++ '\'' :: more) =
        some (List.replicate 0 '\\' ++ (t ++ []), rest) := by simpa using h
    have hi := (isInert_of_readQuoted? hr).2.2
    rw [readQuoted?_escapeQuotes hi] at h
    exact ⟨hi, (Prod.mk.inj (Option.some.inj h)).2.symm⟩
  · rintro ⟨hi, rfl⟩
    exact readQuoted?_escapeQuotes hi rest

theorem unquoteSingle?_eq_some_iff {t value : Text} :
    unquoteSingle? t = some value ↔ readLiteral? t = some (value, []) := by
  unfold unquoteSingle?
  split
  · rename_i v hv
    simp [hv]
  · rename_i hv
    simpa using hv value

theorem unquoteSingle?_quoteSingle_iff {t : Text} :
    unquoteSingle? (quoteSingle t) = some t ↔ IsInert t := by
  have hread : readLiteral? (quoteSingle t ++ []) = some (t, []) ↔ IsInert t ∧ ([] : Text) = [] :=
    readLiteral?_quoteSingle_iff
  rw [List.append_nil, and_iff_left rfl] at hread
  rw [unquoteSingle?_eq_some_iff, hread]

/-- A text that is pasted between quotes is read back exactly if it is verbatim. -/
theorem readLiteral?_pasted_iff {t more rest : Text} :
    readLiteral? ('\'' :: (t ++ '\'' :: more)) = some (t, rest) ↔ IsVerbatim t ∧ rest = more := by
  have hquoted (hq : '\'' ∉ t) :
      '\'' :: (t ++ '\'' :: more) = quoteSingle t ++ more := by
    simp [quoteSingle, escapeQuotes_of_not_mem hq]
  by_cases hq : '\'' ∈ t
  · have hnot : ¬IsVerbatim t := fun hv => hv.1 hq
    simp only [hnot, false_and, iff_false]
    intro h
    -- The text in front of the first quote would have to be read as the beginning of the value.
    obtain ⟨front, back, rfl, hf⟩ := List.eq_append_cons_of_mem hq
    rw [List.append_assoc, List.cons_append] at h
    have hr : readQuoted? (escapeQuotes front ++ '\'' :: (back ++ '\'' :: more)) =
        some (List.replicate 0 '\\' ++ (front ++ '\'' :: back), rest) := by
      rw [escapeQuotes_of_not_mem hf]
      exact h
    exact absurd (isInert_of_readQuoted? hr).2.1 (List.cons_ne_nil _ _)
  · rw [hquoted hq, readLiteral?_quoteSingle_iff, IsVerbatim, and_iff_right hq]

end Migrations.Text
