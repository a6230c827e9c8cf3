import Migrations.Intent.Parser
import Migrations.Proofs.Name.Inflection

namespace Migrations.Intent

open Text (IsLowerWord StartsWithLetter)

theorem flaw?_eq_none_iff {i : Intent} :
    i.flaw? = none ↔ Text.trim i.name ≠ [] ∧ Text.isIdentifier i.table = true ∧
      ∀ related, i.relatedTable = some related →
        i.action ≠ .create ∧ Text.isIdentifier related = true := by
  unfold flaw?
  by_cases hb : Text.trim i.name = []
  · simp [hb]
  · by_cases ht : Text.isIdentifier i.table = true
    · cases hr : i.relatedTable with
      | none => simp [hb, ht, relatedFlaw?, hr]
      | some related => by_cases ha : i.action = .create <;> simp [hb, ht, relatedFlaw?, hr, ha]
    · simp [hb, ht]

theorem readTable_ok_iff {name : Text} {action : Action} {words : List Text} {i : Intent} :
    readTable name action words = .ok i ↔
      ∃ columns target, splitAtConnective action.connectives (dropClosing words) =
          (columns, target) ∧ target ≠ [] ∧
        i = ⟨name, action, Name.pluralize (Text.join ['_'] target), relatedTable? columns⟩ := by
  unfold readTable
  generalize splitAtConnective action.connectives (dropClosing words) = parts
  obtain ⟨columns, target⟩ := parts
  by_cases hn : target = [] <;> simp [hn, eq_comm]

theorem read_ok_iff {fallback : VerbFallback} {name : Text} {i : Intent} :
    read fallback name = .ok i ↔ ∃ action words,
      readVerb fallback (wordsOf (Name.snake name)) = .ok (action, words) ∧
        readTable (Name.snake name) action words = .ok i ∧ i.flaw? = none := by
  constructor
  · intro h
    unfold read at h
    split at h
    · cases h
    · rename_i action words hv
      split at h
      · cases h
      · rename_i intent hr
        split at h
        · cases h
        · rename_i hf
          obtain rfl := Except.ok.inj h
          exact ⟨action, words, hv, hr, hf⟩
  · rintro ⟨action, words, hv, hr, hf⟩
    simp only [read, hv, hr, hf]

/-- What it takes for a name to be accepted. Of the name only its snake case counts. -/
theorem parse_ok_iff {fallback : VerbFallback} {name : Text} {i : Intent} :
    parse fallback name = .ok i ↔ ∃ action words,
      readVerb fallback (wordsOf (Name.snake name)) = .ok (action, words) ∧
        readTable (Name.snake name) action words = .ok i ∧ i.flaw? = none := by
  rw [parse, ← Name.snake_trim name, ← read_ok_iff]
  split
  · rename_i hb
    rw [hb]
    exact iff_of_false nofun nofun
  · cases read fallback (Text.trim name) <;> simp [Except.mapError]

theorem name_of_parse {fallback : VerbFallback} {name : Text} {i : Intent}
    (h : parse fallback name = .ok i) : i.name = Name.snake name := by
  obtain ⟨action, words, _, hr, _⟩ := parse_ok_iff.mp h
  obtain ⟨columns, target, _, _, rfl⟩ := readTable_ok_iff.mp hr
  rfl

theorem wordsOf_join {ws : List Text} (hn : ws ≠ []) (h : ∀ w ∈ ws, IsLowerWord w) :
    wordsOf (Text.join ['_'] ws) = ws := by
  have hs : Text.splitWhere (· == '_') (Text.join ['_'] ws) = ws := by
    refine Text.splitWhere_join (by decide) hn fun w hw c hc => ?_
    simp only [beq_eq_false_iff_ne]
    rintro rfl
    exact (h w hw).not_mem hc
  rw [wordsOf, hs, List.filter_eq_self]
  intro w hw
  simpa using (h w hw).1

theorem dropClosing_concat (ws : List Text) : dropClosing (ws ++ [closingWord]) = ws := by
  simp [dropClosing]

section Connectives

variable {connectives columns target : List Text}

theorem splitAtConnective_of_not_mem (h : ∀ w ∈ target, w ∉ connectives) :
    splitAtConnective connectives target = ([], target) := by
  have ht : target.reverse.takeWhile (!connectives.contains ·) = target.reverse :=
    List.takeWhile_eq_self_iff.mpr (by simpa using h)
  rw [splitAtConnective, ht, List.reverse_reverse, if_pos rfl]

/-- The last connective counts, so those among the columns do not matter. -/
theorem splitAtConnective_append {connective : Text} (hc : connective ∈ connectives)
    (h : ∀ w ∈ target, w ∉ connectives) :
    splitAtConnective connectives (columns ++ connective :: target) = (columns, target) := by
  have hr : (columns ++ connective :: target).reverse.takeWhile (!connectives.contains ·) =
      target.reverse := by
    rw [List.reverse_append, List.reverse_cons, List.append_assoc,
      List.takeWhile_append_of_pos (by simpa using h)]
    simp [hc]
  have hl : target.length ≠ (columns ++ connective :: target).length := by
    simp
    omega
  have hk : (columns ++ connective :: target).length - target.length - 1 = columns.length := by
    simp
    omega
  rw [splitAtConnective, hr, List.reverse_reverse, if_neg hl, hk, List.take_left]

end Connectives

theorem relatedTable?_concat {columns : List Text} (hn : columns ≠ []) :
    relatedTable? (columns ++ [("id" : Text)]) =
      some (Name.pluralize (Text.join ['_'] columns)) := by
  simp [relatedTable?, hn]

/-- Columns that start with a letter refer to something that can name a table. -/
theorem isIdentifier_of_relatedTable? {columns : List Text} (h : ∀ w ∈ columns, IsLowerWord w)
    (hs : StartsWithLetter (Text.join ['_'] columns)) {related : Text}
    (hr : relatedTable? columns = some related) : Text.isIdentifier related = true := by
  unfold relatedTable? at hr
  split at hr
  · rename_i hc
    obtain ⟨hl, hn⟩ := hc
    obtain ⟨front, rfl⟩ := List.getLast?_eq_some_iff.mp hl
    rw [List.dropLast_concat] at hn hr
    cases hr
    have hf : ∀ w ∈ front, IsLowerWord w := fun w hw => h w (by simp [hw])
    exact Name.isIdentifier_pluralize hn hf
      ((Text.startsWithLetter_join_append hn (by simp) hf).mp hs)
  · cases hr

theorem readVerb_verb {verb : Text} {action : Action} (h : (verb, action) ∈ Action.verbs)
    (fallback : VerbFallback) (rest : List Text) :
    readVerb fallback (verb :: rest) = .ok (action, rest) := by
  have hv : ∀ entry ∈ Action.verbs, Action.ofVerb? entry.1 = some entry.2 := by decide
  simp [readVerb, hv _ h]

/-- A name of lower-case words is read as its words are, and accepted if its tables are
identifiers. -/
theorem parse_join {fallback : VerbFallback} {ws rest : List Text} {action : Action} {table : Text}
    {related : Option Text} (hn : ws ≠ []) (h : ∀ w ∈ ws, IsLowerWord w)
    (hv : readVerb fallback ws = .ok (action, rest))
    (hr : readTable (Text.join ['_'] ws) action rest =
      .ok ⟨Text.join ['_'] ws, action, table, related⟩)
    (hi : Text.isIdentifier table = true)
    (hi' : ∀ t, related = some t → action ≠ .create ∧ Text.isIdentifier t = true) :
    parse fallback (Text.join ['_'] ws) = .ok ⟨Text.join ['_'] ws, action, table, related⟩ := by
  have ht : Text.trim (Text.join ['_'] ws) ≠ [] := by
    rw [(Text.isWord_join h).trim]
    exact Text.join_ne_nil_of_lower hn h
  refine parse_ok_iff.mpr ⟨action, rest, ?_, ?_, flaw?_eq_none_iff.mpr ⟨ht, hi, hi'⟩⟩
  · rw [Name.snake_join hn h, wordsOf_join hn h, hv]
  · rw [Name.snake_join hn h, hr]

theorem isLowerWord_verb {verb : Text} {action : Action} (h : (verb, action) ∈ Action.verbs) :
    IsLowerWord verb := by
  have hv : ∀ entry ∈ Action.verbs, IsLowerWord entry.1 := by decide
  exact hv _ h

theorem isLowerWord_connective {connective : Text} {action : Action}
    (h : connective ∈ action.connectives) : IsLowerWord connective := by
  have hc : ∀ w ∈ action.connectives, IsLowerWord w := by cases action <;> decide
  exact hc _ h

section Names

variable {columns target closing : List Text}

/-- What may follow the words of a table: the closing word, or nothing unless they end in it
themselves. -/
def Closes (target closing : List Text) : Prop :=
  closing = [closingWord] ∨ closing = [] ∧ target.getLast? ≠ some closingWord

theorem Closes.isLowerWord (hc : Closes target closing) : ∀ w ∈ closing, IsLowerWord w := by
  rcases hc with rfl | ⟨rfl, -⟩
  · decide
  · simp

theorem Closes.dropClosing_append (hc : Closes target closing) (hn : target ≠ [])
    (front : List Text) : dropClosing (front ++ target ++ closing) = front ++ target := by
  rcases hc with rfl | ⟨rfl, hl⟩
  · exact dropClosing_concat (front ++ target)
  · rw [List.append_nil, dropClosing, List.getLast?_append_of_ne_nil front hn, if_neg hl]

/-- A name for a new table is read as the table that its words name. -/
theorem parse_creation (hn : target ≠ []) (h : ∀ w ∈ target, IsLowerWord w)
    (hs : StartsWithLetter (Text.join ['_'] target)) (hc : Closes target closing)
    (fallback : VerbFallback) :
    parse fallback (Text.join ['_'] ("create" :: (target ++ closing))) =
      .ok ⟨Text.join ['_'] ("create" :: (target ++ closing)), .create,
        Name.pluralize (Text.join ['_'] target), none⟩ := by
  have hw : ∀ w ∈ ("create" : Text) :: (target ++ closing), IsLowerWord w := by
    simp only [List.forall_mem_cons, List.forall_mem_append]
    exact ⟨by decide, h, hc.isLowerWord⟩
  have hv := readVerb_verb (by decide : (("create" : Text), Action.create) ∈ Action.verbs)
    fallback (target ++ closing)
  have hd : dropClosing (target ++ closing) = target := hc.dropClosing_append hn []
  have ht : ∀ w ∈ target, w ∉ Action.create.connectives := by simp [Action.connectives]
  refine parse_join (by simp) hw hv ?_ (Name.isIdentifier_pluralize hn h hs) (by simp)
  refine readTable_ok_iff.mpr ⟨[], target, ?_, hn, by simp [relatedTable?]⟩
  rw [hd, splitAtConnective_of_not_mem ht]

/-- A name for an existing table is read as the table behind its last connective. The columns in
front of it may refer to another one, which has to start with a letter as well. -/
theorem parse_alteration {verb connective : Text} {action : Action}
    (hv : (verb, action) ∈ Action.verbs) (hm : connective ∈ action.connectives)
    (hcw : ∀ w ∈ columns, IsLowerWord w)
    (hcs : relatedTable? columns ≠ none → StartsWithLetter (Text.join ['_'] columns))
    (hn : target ≠ []) (htw : ∀ w ∈ target, IsLowerWord w)
    (hts : StartsWithLetter (Text.join ['_'] target)) (htc : ∀ w ∈ target, w ∉ action.connectives)
    (hc : Closes target closing) (fallback : VerbFallback) :
    parse fallback (Text.join ['_'] (verb :: (columns ++ connective :: target ++ closing))) =
      .ok ⟨Text.join ['_'] (verb :: (columns ++ connective :: target ++ closing)), action,
        Name.pluralize (Text.join ['_'] target), relatedTable? columns⟩ := by
  have hw : ∀ w ∈ verb :: (columns ++ connective :: target ++ closing), IsLowerWord w := by
    simp only [List.forall_mem_cons, List.forall_mem_append]
    exact ⟨isLowerWord_verb hv, ⟨hcw, isLowerWord_connective hm, htw⟩, hc.isLowerWord⟩
  have hd := hc.dropClosing_append hn (columns ++ [connective])
  rw [List.append_assoc columns, List.singleton_append] at hd
  have ha : action ≠ .create := by
    rintro rfl
    cases hm
  refine parse_join (by simp) hw (readVerb_verb hv fallback _) ?_
    (Name.isIdentifier_pluralize hn htw hts) fun related hr => ⟨ha, ?_⟩
  · refine readTable_ok_iff.mpr ⟨columns, target, ?_, hn, rfl⟩
    rw [hd, splitAtConnective_append hm htc]
  · have hs := hcs (by rw [hr]; simp)
    exact isIdentifier_of_relatedTable? hcw hs hr

def createName (target : List Text) : Text :=
  Text.join ['_'] ("create" :: (target ++ [closingWord]))

theorem parse_createName (hn : target ≠ []) (h : ∀ w ∈ target, IsLowerWord w)
    (hs : StartsWithLetter (Text.join ['_'] target)) (fallback : VerbFallback) :
    parse fallback (createName target) =
      .ok ⟨createName target, .create, Name.pluralize (Text.join ['_'] target), none⟩ :=
  parse_creation hn h hs (.inl rfl) fallback

def alterName (verb : Text) (columns : List Text) (connective : Text) (target : List Text) :
    Text :=
  Text.join ['_'] (verb :: (columns ++ connective :: target ++ [closingWord]))

theorem parse_alterName {verb connective : Text} {action : Action}
    (hv : (verb, action) ∈ Action.verbs) (hc : connective ∈ action.connectives)
    (hcw : ∀ w ∈ columns, IsLowerWord w) (hcs : StartsWithLetter (Text.join ['_'] columns))
    (hn : target ≠ []) (htw : ∀ w ∈ target, IsLowerWord w)
    (hts : StartsWithLetter (Text.join ['_'] target)) (htc : ∀ w ∈ target, w ∉ action.connectives)
    (fallback : VerbFallback) :
    parse fallback (alterName verb columns connective target) =
      .ok ⟨alterName verb columns connective target, action,
        Name.pluralize (Text.join ['_'] target), relatedTable? columns⟩ :=
  parse_alteration hv hc hcw (fun _ => hcs) hn htw hts htc (.inl rfl) fallback

end Names

end Migrations.Intent
