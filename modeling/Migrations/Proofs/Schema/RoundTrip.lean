import Migrations.Proofs.Schema.Print

namespace Migrations.Schema

open Text (IsPlain IsWord Parts Place Sealed Shields)

/-- What is known of a field whose segments were read. -/
theorem readSegments_ok {name : Text} {type : ColumnType} {inline rest : List Text} {d : Draft}
    (h : readSegments name type inline rest = .ok d) :
    d.name = name ∧ d.type = type ∧
      (d.arguments = inline ∨ ∃ segment ∈ rest, d.arguments = splitList segment) ∧
      ∀ item ∈ d.items, ∃ segment ∈ rest, item ∈ splitList segment := by
  unfold readSegments at h
  split at h
  · cases h
    exact ⟨rfl, rfl, .inl rfl, by simp⟩
  · rename_i first others
    split at h
    · split at h
      · cases h
      · cases h
        refine ⟨rfl, rfl, .inr ⟨first, by simp, rfl⟩, fun item hi => ?_⟩
        obtain ⟨segment, hs, hm⟩ := List.mem_flatMap.mp hi
        exact ⟨segment, by simp [hs], hm⟩
    · cases h
      exact ⟨rfl, rfl, .inl rfl, fun item hi => List.mem_flatMap.mp hi⟩

structure Reading (chunk : Text) (d : Draft) (first second : Text) (rest : List Text)
    (word : Text) (inline : Option Text) : Prop where
  balanced : Text.isBalanced chunk = true
  segments : Text.splitTop ':' chunk = first :: second :: rest
  name : d.name = Text.trim first
  call : splitCall? (Text.trim second) = some (word, inline)
  type : d.type = ColumnType.ofToken word
  arguments : d.arguments = splitList (inline.getD []) ∨
    ∃ segment ∈ rest, d.arguments = splitList (Text.trim segment)
  items : ∀ item ∈ d.items, ∃ segment ∈ rest, item ∈ splitList (Text.trim segment)

theorem exists_reading {chunk : Text} {d : Draft} (h : readDraft chunk = .ok d) :
    ∃ first second rest word inline, Reading chunk d first second rest word inline := by
  unfold readDraft at h
  split at h
  · cases h
  · rename_i hb
    split at h
    · cases h
    · rename_i name segments hs
      split at h
      · cases h
      · split at h
        · cases h
        · rename_i token rest
          split at h
          · cases h
          · split at h
            · cases h
            · rename_i word inline hc
              split at h
              · cases h
              · obtain ⟨first, more, hf, rfl, hm⟩ := List.map_eq_cons_iff.mp hs
                obtain ⟨second, others, rfl, rfl, rfl⟩ := List.map_eq_cons_iff.mp hm
                obtain ⟨hn, ht, ha, hi⟩ := readSegments_ok h
                refine ⟨first, second, others, word, inline, by simpa using hb, hf, hn, hc, ht,
                  ?_, ?_⟩
                · rcases ha with ha | ⟨segment, hg, ha⟩
                  · left
                    cases inline with
                    | none => exact ha
                    | some value => exact ha
                  · obtain ⟨raw, hr, rfl⟩ := List.mem_map.mp hg
                    exact .inr ⟨raw, hr, ha⟩
                · intro item hm
                  obtain ⟨segment, hg, hl⟩ := hi item hm
                  obtain ⟨raw, hr, rfl⟩ := List.mem_map.mp hg
                  exact ⟨raw, hr, hl⟩

/-- The value of a sealed call of a word is enclosed. -/
theorem enclosed_of_splitCall? {item word value : Text} (h : Sealed item)
    (hc : splitCall? item = some (word, some value)) (hw : IsWord word) : Enclosed value := by
  rcases splitCall?_cases hc with ⟨_, _, hv⟩ | ⟨front, inner, rfl, _, rfl, hv⟩
  · cases hv
  · cases hv
    rw [List.append_assoc] at h
    exact h.of_append (Text.sealed_of_trim hw.sealed).closed

/-- Inside of its parentheses an enclosed text shows nothing and ends where it began. -/
theorem enclosed_iff {value : Text} :
    Enclosed value ↔ Shields [',', ':', ')'] (Place.top.deepen 1) value ∧
      (Place.top.deepen 1).after value = Place.top.deepen 1 := by
  have ho : Place.top.step '(' = Place.top.deepen 1 := rfl
  have hsound : (Place.top.deepen 1).Sound := ho ▸ Place.sound_top.step '('
  constructor
  · intro h
    have hs := h.shields
    have hc := h.closed
    rw [List.cons_append, Text.shields_cons, ho, Text.shields_append] at hs
    rw [List.cons_append, Place.after_cons, ho, Place.after_append] at hc
    refine ⟨hs.2.1, ?_⟩
    have hstep : ((Place.top.deepen 1).after value).step ')' = .top := hc
    have hq : ((Place.top.deepen 1).after value).quoting = .off :=
      (hsound.after value).off_of_step (c := ')') (by simp) (by rw [hstep]; rfl)
    have hn : (Place.top.deepen 1).after value ≠ .top := fun he => hs.2.2.1 ⟨he, by simp⟩
    -- One parenthesis is open, since the next one closes everything.
    generalize (Place.top.deepen 1).after value = p at hstep hq hn
    obtain ⟨depth, quoting⟩ := p
    cases hq
    have hd : depth - 1 = 0 := by simpa [Place.step, Place.top] using hstep
    have hne : depth ≠ 0 := by
      rintro rfl
      exact hn rfl
    have h1 : depth = 1 := by omega
    rw [h1]
    rfl
  · rintro ⟨hs, hc⟩
    refine ⟨?_, ?_⟩
    · rw [List.cons_append, Text.shields_cons, ho, Text.shields_append, hc]
      exact ⟨by simp, hs, by simp [Place.top, Place.deepen]⟩
    · rw [List.cons_append, Place.after_cons, ho, Place.after_append, hc]
      rfl

/-- Reading a list and writing it again keeps it enclosed. -/
theorem Enclosed.splitList {value : Text} (h : Enclosed value) :
    Enclosed (printList (splitList value)) := by
  obtain ⟨hs, hc⟩ := enclosed_iff.mp h
  have hsound : (Place.top.deepen 1).Sound := Place.sound_top.step '('
  obtain ⟨h1, h2⟩ := scan_join_splitList hsound rfl (by rw [hc]; rfl) hs
  exact enclosed_iff.mpr ⟨h1, h2.trans hc⟩

/-- Every literal can be written as the value of a call. -/
def Legible (s : Settings) : Prop :=
  ∀ m value, s.get? m = some (.literal value) → Text.trim value ≠ [] ∧ Enclosed value

theorem Legible.set {s : Settings} (h : Legible s) (m : Modifier) {value : Setting}
    (hv : ∀ text, value = .literal text → Text.trim text ≠ [] ∧ Enclosed text) :
    Legible (s.set m value) := by
  intro k text hk
  rw [Settings.get?_set] at hk
  split at hk
  · exact hv text (Option.some.inj hk)
  · exact h k text hk

theorem Legible.erase {s : Settings} (h : Legible s) (m : Modifier) : Legible (s.erase m) := by
  intro k text hk
  rw [Settings.get?_erase] at hk
  split at hk
  · cases hk
  · exact h k text hk

theorem Legible.applyModifier {s t : Settings} (h : Legible s) {m : Modifier}
    {value : Option Text} (hv : ∀ text, value = some text → Enclosed text)
    (ha : applyModifier s m value = .ok t) : Legible t := by
  unfold Schema.applyModifier at ha
  split at ha
  · cases ha
    exact h.set m (by simp)
  · cases ha
    exact h.set m (by simp)
  · split at ha
    · cases ha
      exact h.set m (by simp)
    · split at ha
      · cases ha
        exact h.erase m
      · cases ha
  · cases ha
  · rename_i text _
    split at ha
    · cases ha
    · rename_i hb
      cases ha
      refine h.set m fun other he => ?_
      cases he
      exact ⟨hb, hv text rfl⟩
  · rename_i text _
    split at ha
    · cases ha
    · rename_i hb
      cases ha
      refine h.set m fun other he => ?_
      cases he
      exact ⟨hb, hv text rfl⟩

theorem Legible.applyItem {policy : ModifierPolicy} {s t : Settings} (h : Legible s) {item : Text}
    (hi : Sealed item) (ha : applyItem policy s item = .ok t) : Legible t := by
  unfold Schema.applyItem at ha
  split at ha
  · cases ha
  · rename_i keyword value hc
    split at ha
    · rename_i m hm
      cases hr : Schema.applyModifier s m value with
      | error fault => simp [hr, Except.mapError] at ha
      | ok u =>
        simp only [hr, Except.mapError, Except.ok.injEq] at ha
        subst ha
        refine h.applyModifier (fun text ht => ?_) hr
        subst ht
        exact enclosed_of_splitCall? hi hc (isWord_of_ofKeyword? hm)
    · split at ha
      · cases ha
      · cases ha
        exact h

theorem Legible.applyItems {policy : ModifierPolicy} {s t : Settings} (h : Legible s)
    {items : List Text} (hi : ∀ item ∈ items, Sealed item)
    (ha : applyItems policy s items = .ok t) : Legible t := by
  induction items generalizing s with
  | nil =>
    cases ha
    exact h
  | cons item rest ih =>
    simp only [Schema.applyItems] at ha
    split at ha
    · cases ha
    · rename_i u hu
      exact ih (h.applyItem (hi item (by simp)) hu) (fun i hm => hi i (by simp [hm])) ha

theorem legible_empty : Legible .empty := by
  intro m value h
  simp at h

theorem readField_ok {policy : ModifierPolicy} {chunk : Text} {f : Field}
    (h : readField policy chunk = .ok f) :
    ∃ d, readDraft chunk = .ok d ∧ applyItems policy .empty d.items = .ok f.settings ∧
      f.name = d.name ∧ f.type = d.type ∧ f.arguments = d.arguments ∧ f.flaw? = none := by
  cases hd : readDraft chunk with
  | error fault => simp [readField, hd] at h
  | ok d =>
    obtain ⟨settings, hs, hf, rfl⟩ := (readField_ok_iff hd).mp h
    exact ⟨d, rfl, hs, rfl, rfl, rfl, hf⟩

/-- The segments of a balanced chunk are closed and show no stray parenthesis. -/
theorem Reading.scan {chunk : Text} {d : Draft} {first second : Text} {rest : List Text}
    {word : Text} {inline : Option Text} (h : Reading chunk d first second rest word inline) :
    ∀ segment ∈ first :: second :: rest,
      Shields [':', ')'] .top segment ∧ Place.top.after segment = .top := by
  obtain ⟨hs, hc⟩ := Text.isBalanced_iff.mp h.balanced
  intro segment hm
  rw [← h.segments] at hm
  exact ⟨Shields.union ((Text.parts_splitTop ':' chunk).shields segment hm)
      (hs.of_mem_splitTop isPlain_colon segment hm),
    Text.closed_of_mem_splitTop isPlain_colon hc segment hm⟩

/-- The token of a field without flaws is a word, whether its type is known or not. -/
theorem isWord_of_flaw?_eq_none {f : Field} {word : Text} (h : f.flaw? = none)
    (ht : f.type = ColumnType.ofToken word) : IsWord word := by
  by_cases hc : ColumnType.ofToken word = .custom word
  · have hty := (Field.flaw?_eq_none_iff.mp h).2.1
    rw [Field.typeFlaw?, ht, hc] at hty
    simp only [ite_eq_left_iff] at hty
    exact Text.isWord_of_isIdentifier (by simpa using hty)
  · exact isWord_of_ofToken hc

/-- A field can be written if its type was read from a text without free commas. -/
theorem writable_of_readField {policy : ModifierPolicy} {chunk : Text} {f : Field}
    (h : readField policy chunk = .ok f)
    (hb : ∀ segment ∈ (Text.splitTop ':' chunk).take 2, Shields [','] .top segment) :
    Writable f := by
  obtain ⟨d, hd, hs, hn, ht, ha, hf⟩ := readField_ok h
  obtain ⟨first, second, rest, word, inline, hr⟩ := exists_reading hd
  have hscan := hr.scan
  have htype : f.type = ColumnType.ofToken word := ht.trans hr.type
  have hword : IsWord word := isWord_of_flaw?_eq_none hf htype
  have hsecond : Sealed (Text.trim second) := by
    obtain ⟨h1, h2⟩ := hscan second (by simp)
    exact Sealed.trim ⟨Shields.union (hb second (by simp [hr.segments])) h1, h2⟩
  have harg : ∃ text, Enclosed text ∧ f.arguments = splitList text := by
    rcases hr.arguments with he | ⟨segment, hm, he⟩
    · refine ⟨inline.getD [], ?_, ha.trans he⟩
      cases hi : inline with
      | none => exact Text.sealed_parenthesized rfl
      | some value => exact enclosed_of_splitCall? hsecond (hi ▸ hr.call) hword
    · obtain ⟨h1, h2⟩ := hscan segment (by simp [hm])
      refine ⟨Text.trim segment, Text.sealed_parenthesized (Text.isBalanced_iff.mpr ?_),
        ha.trans he⟩
      exact ⟨(h1.mono (by simp)).trim rfl, Text.closed_trim h2⟩
  obtain ⟨text, htext, harg⟩ := harg
  refine ⟨hf, htype ▸ ofToken_token_ofToken word, ?_, ?_, ?_⟩
  · rw [harg, printList, splitList_join_splitList]
  · rw [harg]
    exact htext.splitList
  · refine legible_empty.applyItems (fun item hi => ?_) hs
    obtain ⟨segment, hm, hl⟩ := hr.items item hi
    obtain ⟨h1, h2⟩ := hscan segment (by simp [hm])
    exact sealed_of_mem_splitList (h1.trim rfl) (Text.closed_trim h2) item hl

/-- A chunk of a name and a type sets nothing. -/
theorem settings_eq_empty {policy : ModifierPolicy} {chunk : Text} {f : Field}
    (h : readField policy chunk = .ok f) (hl : (Text.splitTop ':' chunk).length ≤ 2) :
    f.settings = .empty := by
  obtain ⟨d, hd, ha, _⟩ := readField_ok h
  obtain ⟨first, second, rest, word, inline, hr⟩ := exists_reading hd
  have hrest : rest = [] := by
    rw [hr.segments] at hl
    exact List.length_eq_zero_iff.mp (by simpa using hl)
  have hitems : d.items = [] := by
    refine List.eq_nil_iff_forall_not_mem.mpr fun item hi => ?_
    obtain ⟨segment, hm, _⟩ := hr.items item hi
    simp [hrest] at hm
  rw [hitems] at ha
  exact (Except.ok.inj ha).symm

/-- Fields of neighbouring chunks stay apart. -/
theorem apart_of_readField {policy : ModifierPolicy} {chunk next piece : Text} {taken : List Text}
    {f g : Field} (hf : readField policy chunk = .ok f) (hg : readField policy next = .ok g)
    (hgrow : Grows piece taken next) (hn : continues chunk piece = false) (hw : Writable g) :
    Apart f g := by
  by_cases hs : f.settings = .empty
  · exact .inl hs
  · have hl : ¬(Text.splitTop ':' chunk).length ≤ 2 := fun hl => hs (settings_eq_empty hf hl)
    obtain ⟨e, he, _, hname, htype, _⟩ := readField_ok hg
    obtain ⟨first', second', rest', word', inline', hr'⟩ := exists_reading he
    have htake := hgrow.take_splitTop
    rw [hr'.segments] at htake
    obtain ⟨third, hp⟩ : ∃ third, Text.splitTop ':' piece = first' :: second' :: third := by
      match hp : Text.splitTop ':' piece with
      | [] => simp [hp] at htake
      | [only] => simp [hp] at htake
      | a :: b :: third =>
        simp [hp] at htake
        exact ⟨third, by rw [htake.1, htake.2]⟩
    have hk : keywordOf second' = word' := by
      rw [← keywordOf_trim, keywordOf_of_splitCall? hr'.call]
    rw [continues, hp] at hn
    simp only [hl, if_false, hk, Bool.or_eq_false_iff, Bool.and_eq_false_iff,
      decide_eq_false_iff_not] at hn
    right
    rintro (hlit | ⟨hm, hc⟩)
    · rw [hname, hr'.name, hn.1] at hlit
      cases hlit
    · have hof : ColumnType.ofToken word' = .custom g.type.token :=
        (htype.trans hr'.type).symm.trans hc
      have htok := eq_of_ofToken_eq_custom hof
      rcases hn.2 with hn | hn
      · rw [namesModifier, keywordOf_word hw.token_isWord.not_mem_parenthesis,
          hw.token_isWord.trim] at hm
        rw [namesModifier, hk, htok, hm] at hn
        cases hn
      · exact hn (htok ▸ hof)

theorem writable_of_parse {policy : ModifierPolicy} {schema chunk : Text} {f : Field}
    (hc : chunk ∈ chunks schema) (h : readField policy chunk = .ok f) : Writable f := by
  obtain ⟨piece, taken, hg, hs⟩ := exists_grows_of_mem_chunks hc
  refine writable_of_readField h fun segment hm => ?_
  rw [hg.take_splitTop] at hm
  have hp : Shields [','] .top piece :=
    (parts_splitList schema).shields piece (hs.subset List.mem_cons_self)
  exact hp.of_mem_splitTop isPlain_colon segment (List.mem_of_mem_take hm)

theorem isChain_of_forall₂ {α β : Type} {R : α → α → Prop} {S : β → β → Prop} {Q : α → β → Prop}
    (h : ∀ a b x y, R a b → Q a x → Q b y → S x y) {as : List α} {xs : List β}
    (hr : as.IsChain R) (hq : List.Forall₂ Q as xs) : xs.IsChain S := by
  induction hq with
  | nil => exact .nil
  | @cons a x as xs hax hrest ih =>
    cases hrest with
    | nil => exact .singleton x
    | @cons b y bs ys hby hmore =>
      obtain ⟨hab, hc⟩ := List.isChain_cons_cons.mp hr
      exact .cons_cons (h a b x y hab hax hby) (ih hc)

/-- What a schema was read into is read again from its printed form, whatever the policy. -/
theorem parse_print {policy : ModifierPolicy} {schema : Text} {fields : List Field}
    (h : parse policy schema = .ok fields) (other : ModifierPolicy) :
    parse other (print fields) = .ok fields := by
  have hread : List.Forall₂ (fun chunk f => Writable f ∧ readField policy chunk = .ok f)
      (chunks schema) fields := by
    have hall := (List.forall₂_and_left _ _).mpr ⟨fun _ hc => hc, (readFields_ok_iff 1).mp h⟩
    exact hall.imp fun chunk f ⟨hc, hf⟩ => ⟨writable_of_parse hc hf, hf⟩
  refine parse_print_of_writable ((List.forall₂_and_left _ _).mp hread.flip).1 ?_ other
  refine isChain_of_forall₂ ?_ (isChain_chunks schema) hread
  rintro chunk next f g ⟨piece, taken, hg, hn⟩ ⟨_, hf⟩ ⟨hw, hr⟩
  exact apart_of_readField hf hr hg hn hw

/-- An enumeration in pieces, a keyword that is passed over, and a column named like a modifier. -/
theorem parse_print_pieces :
    let schema : Text := "kind:enum:a,,b:unique:odd,index:references( t )::cascade"
    let fields : List Field :=
      [⟨"kind", .enum, ["a", "b"], Settings.empty.set .unique .flag⟩,
        ⟨"index", .foreignKey, ["t"], Settings.empty.set .cascade .flag⟩]
    parse .ignore schema = .ok fields ∧ parse .reject (print fields) = .ok fields := by
  intro schema fields
  have h : parse .ignore schema = .ok fields := by decide +kernel
  exact ⟨h, parse_print h .reject⟩

end Migrations.Schema
