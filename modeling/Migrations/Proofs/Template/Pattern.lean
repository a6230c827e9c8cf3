import Mathlib.Data.List.Infix
import Migrations.Proofs.Text.Basic
import Migrations.Template

namespace Migrations.Template

def openings : List Text := ["\x7b\x7b", "\x7b%", "\x7b#"]

def IsPlain (t : Text) : Prop := ∀ mark ∈ openings, ¬ mark <:+: t

instance (t : Text) : Decidable (IsPlain t) := List.decidableBAll _ _

/-- The key stands for its value: it is not reserved, and no word for a truth value begins it. -/
def IsFree (key : Text) : Prop :=
  (∀ entry ∈ Hole.truthWords, ¬ entry.1 <+: key) ∧ key ≠ Hole.everythingKey ∧ key ≠ Hole.negation

instance (key : Text) : Decidable (IsFree key) := inferInstanceAs (Decidable (_ ∧ _))

structure Placeholder where
  before : Text
  key : Text
  after : Text
  blanks : ∀ c ∈ before ++ after, isTagBlank c = true
  isIdentifier : Text.isIdentifier key = true
  isFree : IsFree key

namespace Placeholder

def inside (ph : Placeholder) : Text := ph.before ++ (ph.key ++ (ph.after ++ "\x7d\x7d"))

def source (ph : Placeholder) : Text := "\x7b\x7b" ++ ph.inside

end Placeholder

/-- Texts with placeholders between them. No tag opens in a text or where it meets a placeholder. -/
inductive Pattern where
  | last (t : Text) (h : IsPlain t)
  | hole (t : Text) (ph : Placeholder) (h : IsPlain (t ++ "\x7b")) (rest : Pattern)

namespace Pattern

def source : Pattern → Text
  | last t _ => t
  | hole t ph _ rest => t ++ (ph.source ++ rest.source)

def keys : Pattern → List Text
  | last _ _ => []
  | hole _ ph _ rest => ph.key :: rest.keys

/-- The texts unchanged, with what is given for the keys between them. -/
def filled (given : Text → Text) : Pattern → Text
  | last t _ => t
  | hole t ph _ rest => t ++ (given ph.key ++ rest.filled given)

def tokens : Pattern → List Token
  | last t _ => t.foldr consText []
  | hole t ph _ rest => t.foldr consText (.tag false (some (.value ph.key)) false :: rest.tokens)

end Pattern

section Step

variable (tight : Bool) (key : Text) (c : Char) (cs : Text)

theorem scan_text : scan .text (c :: cs) =
    if c = '{' then scan .brace cs else (scan .text cs).map (consText c) := rfl

theorem scan_brace : scan .brace (c :: cs) =
    if c = '{' then scan .opened cs
    else if c = '#' then scan .commentOpened cs
    else if c = '%' then none
    else (scan .text cs).map fun tokens => consText '{' (consText c tokens) := rfl

theorem scan_opened : scan .opened (c :: cs) =
    if c = '-' then scan (.beforeKey true) cs else scan (.beforeKey false) (c :: cs) := rfl

theorem scan_beforeKey : scan (.beforeKey tight) (c :: cs) =
    (startKey tight c).bind fun mode => scan mode cs := by
  rw [scan]
  cases startKey tight c <;> rfl

theorem scan_inKey : scan (.inKey tight key) (c :: cs) =
    if isKeyChar c then scan (.inKey tight (key ++ [c])) cs
    else scan (.afterKey tight key) (c :: cs) := rfl

theorem scan_afterKey : scan (.afterKey tight key) (c :: cs) =
    (endKey tight key c).bind fun mode => scan mode cs := by
  rw [scan]
  cases endKey tight key c <;> rfl

theorem scan_closing (tightAfter : Bool) : scan (.closing tight key tightAfter) (c :: cs) =
    if c = '}' then
      (Hole.ofKey? key).bind fun hole =>
        (scan .text cs).map (.tag tight (some hole) tightAfter :: ·)
    else none := by
  rw [scan]
  cases Hole.ofKey? key <;> rfl

end Step

theorem length_of_mem_openings {mark : Text} (h : mark ∈ openings) : mark.length = 2 := by
  revert mark
  decide

/-- A character is text unless a tag opens with it. -/
theorem scan_text_cons {c : Char} {cs : Text} (h : ∀ mark ∈ openings, ¬ mark <+: c :: cs) :
    scan .text (c :: cs) = (scan .text cs).map (consText c) := by
  by_cases hc : c = '{'
  · subst hc
    cases cs with
    | nil => rfl
    | cons d ds =>
      have hd : ∀ e, ['{', e] ∈ openings → d ≠ e := by
        rintro e he rfl
        exact h _ he (by simp)
      rw [scan_text, if_pos rfl, scan_brace, if_neg (hd '{' (by decide)),
        if_neg (hd '#' (by decide)), if_neg (hd '%' (by decide)), scan_text,
        if_neg (hd '{' (by decide)), Option.map_map]
      rfl
  · rw [scan_text, if_neg hc]

/-- Plain text is kept up to where the rest begins. -/
theorem scan_text_append {t rest : Text} (h : IsPlain (t ++ rest.take 1)) :
    scan .text (t ++ rest) = (scan .text rest).map fun tokens => t.foldr consText tokens := by
  induction t with
  | nil => simp
  | cons c cs ih =>
    have hcs : IsPlain (cs ++ rest.take 1) := fun mark hm hi =>
      h mark hm (hi.trans (List.infix_cons (List.infix_refl _)))
    have hc : ∀ mark ∈ openings, ¬ mark <+: c :: (cs ++ rest) := by
      intro mark hm hp
      have hseam : c :: (cs ++ rest.take 1) <+: c :: (cs ++ rest) :=
        List.cons_prefix_cons.mpr ⟨rfl, (List.prefix_append_right_inj cs).mpr (rest.take_prefix 1)⟩
      -- A mark of two characters that begins here ends at the first one of the rest at the latest.
      have hl : mark.length ≤ (c :: (cs ++ rest.take 1)).length := by
        have hle := hp.length_le
        rw [length_of_mem_openings hm] at hle ⊢
        simp only [List.length_cons, List.length_append, List.length_take] at hle ⊢
        omega
      exact h mark hm (List.prefix_of_prefix_length_le hp hseam hl).isInfix
    rw [List.cons_append, scan_text_cons hc, ih hcs, Option.map_map]
    rfl

theorem isKeyChar_of_isTagBlank {c : Char} (h : isTagBlank c = true) : isKeyChar c = false := by
  simp only [isTagBlank, Bool.or_eq_true, beq_iff_eq] at h
  rcases h with ((rfl | rfl) | rfl) | rfl <;> decide

theorem scan_beforeKey_blanks {before : Text} (h : ∀ c ∈ before, isTagBlank c = true)
    (tight : Bool) (rest : Text) :
    scan (.beforeKey tight) (before ++ rest) = scan (.beforeKey tight) rest := by
  induction before with
  | nil => rfl
  | cons c cs ih =>
    obtain ⟨hc, hcs⟩ := List.forall_mem_cons.mp h
    rw [List.cons_append, scan_beforeKey, startKey, if_pos hc, Option.bind_some, ih hcs]

theorem scan_inKey_chars {cs : Text} (h : ∀ c ∈ cs, isKeyChar c = true) (tight : Bool)
    (key rest : Text) :
    scan (.inKey tight key) (cs ++ rest) = scan (.inKey tight (key ++ cs)) rest := by
  induction cs generalizing key with
  | nil => simp
  | cons c cs ih =>
    obtain ⟨hc, hcs⟩ := List.forall_mem_cons.mp h
    rw [List.cons_append, scan_inKey, if_pos hc, ih hcs, List.append_assoc, List.singleton_append]

/-- An identifier is read as a key. -/
theorem scan_beforeKey_key {key : Text} (h : Text.isIdentifier key = true) (tight : Bool)
    (rest : Text) : scan (.beforeKey tight) (key ++ rest) = scan (.inKey tight key) rest := by
  cases key with
  | nil => simp [Text.isIdentifier] at h
  | cons c cs =>
    obtain ⟨hc, hcs⟩ := (Bool.and_eq_true _ _).mp h
    have hstart : isKeyStart c = true := hc
    have hchar : isKeyChar c = true := by
      simp only [isKeyStart, isKeyChar, Char.isAlphanum, Bool.or_eq_true] at hstart ⊢
      exact hstart.imp_left .inl
    have hblank : isTagBlank c = false := by
      cases hb : isTagBlank c with
      | false => rfl
      | true => exact absurd hchar (by simp [isKeyChar_of_isTagBlank hb])
    rw [List.cons_append, scan_beforeKey, startKey, hblank, if_neg Bool.false_ne_true,
      if_pos hstart, Option.bind_some, scan_inKey_chars (List.all_eq_true.mp hcs),
      List.singleton_append]

theorem scan_afterKey_blanks {after key : Text} (h : ∀ c ∈ after, isTagBlank c = true)
    (hk : key ≠ Hole.negation) (tight : Bool) (rest : Text) :
    scan (.afterKey tight key) (after ++ rest) = scan (.afterKey tight key) rest := by
  induction after with
  | nil => rfl
  | cons c cs ih =>
    obtain ⟨hc, hcs⟩ := List.forall_mem_cons.mp h
    rw [List.cons_append, scan_afterKey, endKey, if_pos hc, if_neg hk, Option.bind_some, ih hcs]

theorem Hole.ofKey?_of_isFree {key : Text} (h : IsFree key) :
    Hole.ofKey? key = some (.value key) := by
  unfold Hole.ofKey?
  split
  · rename_i word b hf
    have hp : word.isPrefixOf key = true := by simpa using List.find?_some hf
    exact absurd (List.isPrefixOf_iff_prefix.mp hp) (h.1 _ (List.mem_of_find?_eq_some hf))
  · simp only [if_neg h.2.1]

namespace Placeholder

/-- The braces that open the placeholder are not taken for a tag that removes blanks. -/
theorem scan_opened_append (ph : Placeholder) (rest : Text) :
    scan .opened (ph.before ++ (ph.key ++ rest)) =
      scan (.beforeKey false) (ph.before ++ (ph.key ++ rest)) := by
  obtain ⟨hbefore, -⟩ := List.forall_mem_append.mp ph.blanks
  have hm : ∀ c ∈ ph.before ++ ph.key, c ≠ '-' := by
    rintro c hc rfl
    rcases List.mem_append.mp hc with hc | hc
    · exact absurd (hbefore _ hc) (by decide)
    · exact absurd (Text.isWord_of_isIdentifier ph.isIdentifier _ hc) (by decide)
  have hn : ph.before ++ ph.key ≠ [] := by simp [Text.ne_nil_of_isIdentifier ph.isIdentifier]
  obtain ⟨c, cs, he⟩ := List.exists_cons_of_ne_nil hn
  have hc : c ≠ '-' := hm c (by simp [he])
  rw [← List.append_assoc, he, List.cons_append, scan_opened, if_neg hc]

/-- The key ends with the blanks behind it, or with the braces that close the placeholder. -/
theorem scan_inKey_append (ph : Placeholder) (rest : Text) :
    scan (.inKey false ph.key) (ph.after ++ '}' :: rest) =
      scan (.afterKey false ph.key) (ph.after ++ '}' :: rest) := by
  obtain ⟨-, hafter⟩ := List.forall_mem_append.mp ph.blanks
  have hend : ∀ (c : Char) (cs : Text), isKeyChar c = false →
      scan (.inKey false ph.key) (c :: cs) = scan (.afterKey false ph.key) (c :: cs) := by
    intro c cs hc
    rw [scan_inKey, hc, if_neg Bool.false_ne_true]
  cases ha : ph.after with
  | nil => exact hend '}' rest (by decide)
  | cons c cs => exact hend c _ (isKeyChar_of_isTagBlank (hafter c (by simp [ha])))

/-- A placeholder is read as a hole for the value of its key. -/
theorem scan_source_append (ph : Placeholder) (rest : Text) :
    scan .text (ph.source ++ rest) =
      (scan .text rest).map (.tag false (some (.value ph.key)) false :: ·) := by
  obtain ⟨hbefore, hafter⟩ := List.forall_mem_append.mp ph.blanks
  calc scan .text (ph.source ++ rest)
      = scan .opened (ph.before ++ (ph.key ++ (ph.after ++ '}' :: '}' :: rest))) := by
        simp only [source, inside, List.append_assoc]
        rfl
    _ = scan (.inKey false ph.key) (ph.after ++ '}' :: '}' :: rest) := by
        rw [ph.scan_opened_append, scan_beforeKey_blanks hbefore,
          scan_beforeKey_key ph.isIdentifier]
    _ = scan (.afterKey false ph.key) ('}' :: '}' :: rest) := by
        rw [ph.scan_inKey_append, scan_afterKey_blanks hafter ph.isFree.2.2]
    _ = (scan .text rest).map (.tag false (some (.value ph.key)) false :: ·) := by
        have hclose : endKey false ph.key '}' = some (.closing false ph.key false) := rfl
        rw [scan_afterKey, hclose, Option.bind_some, scan_closing, if_pos rfl,
          Hole.ofKey?_of_isFree ph.isFree, Option.bind_some]

end Placeholder

theorem Pattern.scan_source (p : Pattern) : scan .text p.source = some p.tokens := by
  induction p with
  | last t h =>
    have hs : scan .text (t ++ []) = (scan .text []).map fun tokens => t.foldr consText tokens :=
      scan_text_append (by simpa using h)
    rw [List.append_nil] at hs
    exact hs
  | hole t ph h rest ih =>
    have hs : IsPlain (t ++ (ph.source ++ rest.source).take 1) := h
    rw [source, scan_text_append hs, ph.scan_source_append, ih]
    rfl

end Migrations.Template
