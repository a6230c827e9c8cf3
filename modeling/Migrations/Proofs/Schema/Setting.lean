import Migrations.Plan
import Migrations.Proofs.Schema.Line

namespace Migrations.Schema

/-- The item is the modifier, in letters of any case, alone or called. -/
def Names (m : Modifier) (item : Text) : Prop := Modifier.ofKeyword? (keywordOf item) = some m

instance (m : Modifier) (item : Text) : Decidable (Names m item) :=
  inferInstanceAs (Decidable (_ = _))

def naming (m : Modifier) (items : List Text) : List Text := items.filter (Names m ·)

theorem naming_cons (m : Modifier) (item : Text) (rest : List Text) :
    naming m (item :: rest) = if Names m item then item :: naming m rest else naming m rest := by
  simp [naming, List.filter_cons]

def settingOf? (m : Modifier) (item : Text) : Option Setting :=
  (splitCall? item).bind fun call => m.settingFor? call.2

def Fits (item : Text) : Prop :=
  ∃ keyword value m, splitCall? item = some (keyword, value) ∧
    Modifier.ofKeyword? keyword = some m ∧ m.Takes value

def settle (s : Settings) (item : Text) : Settings :=
  ⟨fun m => if Names m item then settingOf? m item else s.get? m⟩

theorem applyItem_ok_iff {policy : ModifierPolicy} {s t : Settings} {item : Text}
    (h : namesModifier item = true) :
    applyItem policy s item = .ok t ↔ Fits item ∧ settle s item = t := by
  obtain ⟨m, hm⟩ := Option.isSome_iff_exists.mp h
  cases hc : splitCall? item with
  | none => simp [applyItem, hc, Fits]
  | some call =>
    obtain ⟨keyword, value⟩ := call
    have hk : Modifier.ofKeyword? keyword = some m := keywordOf_of_splitCall? hc ▸ hm
    have hfits : Fits item ↔ m.Takes value := by
      simp [Fits, hc, hk]
    have hs : settle s item = s.put m (m.settingFor? value) := by
      refine Settings.ext fun k => ?_
      by_cases he : k = m
      · simp [settle, Names, settingOf?, hm, hc, he]
      · simp [settle, Names, hm, he, Ne.symm he]
    rw [hfits, hs, ← applyModifier_ok_iff, applyItem, hc]
    simp only [hk]
    cases applyModifier s m value <;> simp [Except.mapError]

/-- Items are applied if each of them fits, whatever the others are. -/
theorem applyItems_ok_iff {policy : ModifierPolicy} {s t : Settings} {items : List Text}
    (h : ∀ item ∈ items, namesModifier item = true) :
    applyItems policy s items = .ok t ↔ (∀ item ∈ items, Fits item) ∧ items.foldl settle s = t := by
  induction items generalizing s with
  | nil => simp [applyItems]
  | cons item rest ih =>
    obtain ⟨hi, hr⟩ := List.forall_mem_cons.mp h
    rw [List.forall_mem_cons, List.foldl_cons, applyItems]
    cases ha : applyItem policy s item with
    | error refusal =>
      have hn : ¬Fits item := by
        intro hf
        rw [(applyItem_ok_iff hi).mpr ⟨hf, rfl⟩] at ha
        cases ha
      simp [hn]
    | ok next =>
      obtain ⟨hf, rfl⟩ := (applyItem_ok_iff hi).mp ha
      simp [ih hr, hf]

/-- The last item that names a modifier decides about it. -/
theorem get?_foldl_settle (m : Modifier) (items : List Text) (s : Settings) :
    (items.foldl settle s).get? m = (naming m items).getLast?.elim (s.get? m) (settingOf? m) := by
  induction items generalizing s with
  | nil => rfl
  | cons item rest ih =>
    rw [List.foldl_cons, ih, naming_cons]
    by_cases hm : Names m item
    · rw [if_pos hm, List.getLast?_cons]
      cases (naming m rest).getLast? <;> simp [settle, hm]
    · simp [settle, hm]

namespace Stem

variable (c : Stem)

def listing (items : List Text) : Text :=
  c.name ++ ':' :: c.token ++ ':' :: Text.join [','] items

theorem listing_eq_line {items : List Text} (h : items ≠ []) :
    c.listing items = c.line none [] items := by
  simp [listing, line, itemGroups, h, Text.join, callText]

def listed (items : List Text) : Field := ⟨c.name, c.type, [], items.foldl settle .empty⟩

/-- Items that fit leave no setting that does not. -/
theorem settingFlaw?_listed {items : List Text} (h : ∀ item ∈ items, Fits item) :
    (c.listed items).settingFlaw? = none := by
  rw [Field.settingFlaw?_eq_none_iff]
  intro m value hm
  rw [listed, get?_foldl_settle] at hm
  cases hl : (naming m items).getLast? with
  | none => simp [hl] at hm
  | some item =>
    obtain ⟨hi, hnames⟩ := List.mem_filter.mp (List.mem_of_getLast? hl)
    obtain ⟨keyword, text, k, hc, hk, ht⟩ := h item hi
    have he : k = m := by simpa [Names, keywordOf_of_splitCall? hc, hk] using hnames
    rw [hl, Option.elim_some, settingOf?, hc, Option.bind_some, ← he] at hm
    exact he ▸ k.settingFor?_fits ht hm

/-- A list of items is accepted if each of them fits, whatever the others are, and `cascade` does
not stand without a foreign key in the end. -/
theorem parse_listing_ok_iff {policy : ModifierPolicy} {items : List Text} {fields : List Field}
    (hn : items ≠ []) (hi : ∀ t ∈ items, IsItem t) :
    parse policy (c.listing items) = .ok fields ↔ (∀ item ∈ items, Fits item) ∧
      ((c.listed items).settings.has .cascade = true → (c.listed items).IsForeign) ∧
      fields = [c.listed items] := by
  have hl : ∀ t ∈ ([] : List Text), IsItem t := List.forall_mem_nil _
  have happly {t : Settings} : applyItems policy .empty items = .ok t ↔
      (∀ item ∈ items, Fits item) ∧ items.foldl settle .empty = t :=
    applyItems_ok_iff fun t ht => (hi t ht).names
  have hflaw (hf : ∀ item ∈ items, Fits item) :=
    c.flaw?_eq_none_iff rfl rfl (c.settingFlaw?_listed hf)
  rw [listing_eq_line c hn, parse_ok_iff_of_chunks (c.chunks_line sealed_uncalled hl hi)]
  simp only [readField_ok_iff (c.readDraft_line sealed_uncalled hl hi), List.nil_append, happly]
  constructor
  · rintro ⟨f, ⟨settings, ⟨hf, rfl⟩, hnone, rfl⟩, rfl⟩
    exact ⟨hf, (hflaw hf).mp hnone, rfl⟩
  · rintro ⟨hf, hkey, rfl⟩
    exact ⟨_, ⟨_, ⟨hf, rfl⟩, (hflaw hf).mpr hkey, rfl⟩, rfl⟩

theorem listed_congr {items others : List Text} (h : ∀ m, naming m others = naming m items) :
    c.listed others = c.listed items := by
  have hs : others.foldl settle .empty = items.foldl settle .empty := by
    refine Settings.ext fun m => ?_
    rw [get?_foldl_settle, h, get?_foldl_settle]
  rw [listed, hs, listed]

end Stem

/-- The last item that names a modifier decides about it, so that the items of an accepted column
may be put in any order that keeps those of each modifier in theirs. Neither the field nor a line of
a migration depends on it. -/
theorem last_item_decides (policy : ModifierPolicy) (c : Stem) {items : List Text}
    (hn : items ≠ []) (hi : ∀ t ∈ items, IsItem t) :
    ∃ settings : Settings,
      (∀ m, settings.get? m = (naming m items).getLast?.bind (settingOf? m)) ∧
      let f : Field := ⟨c.name, c.type, [], settings⟩
      (∀ fields, parse policy (c.listing items) = .ok fields ↔ (∀ item ∈ items, Fits item) ∧
        (settings.has .cascade = true → f.IsForeign) ∧ fields = [f]) ∧
      ∀ fields others, parse policy (c.listing items) = .ok fields → others.Perm items →
        (∀ m, naming m others = naming m items) →
          parse policy (c.listing others) = .ok fields ∧
            ∀ intent : Intent, (parse policy (c.listing others)).map
              (fun fields => (intent.plan fields).render) = .ok (intent.plan fields).render := by
  refine ⟨items.foldl settle .empty, fun m => ?_, fun fields => c.parse_listing_ok_iff hn hi, ?_⟩
  · rw [get?_foldl_settle]
    cases (naming m items).getLast? <;> rfl
  · intro fields others h hp hnaming
    obtain ⟨hf, hkey, rfl⟩ := (c.parse_listing_ok_iff hn hi).mp h
    have hm : others ≠ [] := fun he => hn (by simpa [he] using hp.symm)
    have ho : ∀ t ∈ others, IsItem t := fun t ht => hi t (hp.mem_iff.mp ht)
    have hparse : parse policy (c.listing others) = .ok [c.listed items] := by
      rw [c.parse_listing_ok_iff hm ho, c.listed_congr hnaming]
      exact ⟨fun t ht => hf t (hp.mem_iff.mp ht), hkey, rfl⟩
    exact ⟨hparse, fun intent => by rw [hparse]; rfl⟩

/-- The second `nullable` and the second `default` decide. -/
theorem last_item_decides_count :
    let c : Stem := ⟨"count", "integer", by decide, by decide⟩
    let items : List Text :=
      ["nullable", "Default(1)", "unique (True)", "nullable(false)", "default('a, (b')"]
    let others : List Text :=
      ["Default(1)", "nullable", "default('a, (b')", "nullable(false)", "unique (True)"]
    let first := (Settings.empty.set .nullable .flag).set .default (.literal "1")
    let settings := ((first.set .unique .flag).erase .nullable).set .default (.literal "'a, (b'")
    let field : Field := ⟨"count", .integer, [], settings⟩
    (items ≠ [] ∧ (∀ t ∈ items, IsItem t) ∧ parse .reject (c.listing items) = .ok [field] ∧
        others.Perm items ∧ ∀ m, naming m others = naming m items) ∧
      parse .reject (c.listing others) = .ok [field] ∧
      settings = (Settings.empty.set .unique .flag).set .default (.literal "'a, (b'") := by
  intro c items others first settings field
  have hn : items ≠ [] := List.cons_ne_nil _ _
  have hi : ∀ t ∈ items, IsItem t := by decide +kernel
  have h : parse .reject (c.listing items) = .ok [field] := by decide +kernel
  have hp : others.Perm items := by decide +kernel
  have hnaming : ∀ m, naming m others = naming m items := by
    intro m
    cases m <;> decide +kernel
  obtain ⟨_, _, _, hothers⟩ := last_item_decides .reject c hn hi
  exact ⟨⟨hn, hi, h, hp, hnaming⟩, (hothers _ _ h hp hnaming).1, by decide +kernel⟩

theorem mem_chained {m : Modifier} (hm : m.valueRule ≠ .flag) (hf : m ≠ .foreign) :
    m ∈ Modifier.chained := by
  cases m with
  | default | comment => simp [Modifier.chained]
  | foreign => exact absurd rfl hf
  | _ => exact absurd rfl hm

/-- A column with one literal has it in its chain, unless it speaks of a foreign key. -/
theorem flatMap_chainText_literal {f : Field} {m : Modifier} {v : Text}
    (hs : f.settings = Settings.empty.set m (.literal v)) (hm : m ∈ Modifier.chained) :
    Modifier.chained.flatMap (Statement.chainText f) = "->" ++ m.keyword ++ "(" ++ v ++ ")" := by
  have htext : Statement.chainText f =
      fun k => if k = m then "->" ++ m.keyword ++ "(" ++ v ++ ")" else [] := by
    funext k
    by_cases hk : k = m <;> simp [Statement.chainText, hs, hk]
  rw [htext]
  cases m <;> simp [Modifier.chained] at hm ⊢

theorem suffix_columnText {f : Field} {m : Modifier} {v : Text}
    (hs : f.settings = Settings.empty.set m (.literal v)) (hm : m ∈ Modifier.chained) :
    ("->" ++ m.keyword ++ "(" ++ v ++ ");" : Text) <:+ Statement.columnText f := by
  have hend : ("->" ++ m.keyword ++ "(" ++ v ++ ");" : Text) =
      Modifier.chained.flatMap (Statement.chainText f) ++ ";" := by
    rw [flatMap_chainText_literal hs hm, List.append_assoc _ (")" : Text)]
    rfl
  refine ⟨"$table->" ++ f.type.method ++ "('" ++ f.name ++ "'" ++ Statement.argumentsText f ++ ")",
    ?_⟩
  rw [hend, ← List.append_assoc]
  rfl

/-- A value passes through as it is written, blanks and separators included, if it is balanced and
not blank. -/
theorem values_pass_verbatim (policy : ModifierPolicy) (c : Stem) {m : Modifier}
    (hm : m.valueRule ≠ .flag) {keyword v : Text} (hk : Modifier.ofKeyword? keyword = some m)
    (hb : Text.isBalanced v = true) (hv : Text.trim v ≠ []) :
    let f : Field := ⟨c.name, c.type, [], Settings.empty.set m (.literal v)⟩
    parse policy (c.name ++ ':' :: c.token ++ ':' :: keyword ++ '(' :: v ++ [')']) = .ok [f] ∧
      (m ≠ .foreign → ("->" ++ m.keyword ++ "(" ++ v ++ ");" : Text) <:+
        Statement.columnText f) := by
  intro f
  let i : Item :=
    ⟨m, keyword, some v, hk, by simpa [Modifier.Takes, hm] using hv, by simpa using hb⟩
  have hfield : c.field [i] = f := by
    rw [Stem.field, Item.settings, List.foldl_cons, Item.apply_literal hm rfl, List.foldl_nil]
  have hkey : (c.field [i]).settings.has .cascade = true → (c.field [i]).IsForeign := by
    have hc : .cascade ≠ m := fun he => hm (he ▸ rfl)
    simp [hfield, f, Settings.has, hc]
  have htext : c.name ++ ':' :: c.token ++ ':' :: keyword ++ '(' :: v ++ [')'] =
      c.listing [i.text] := by
    simp [Stem.listing, Item.text, callText, Text.join, i]
  constructor
  · rw [htext, c.listing_eq_line (List.cons_ne_nil _ _), ← hfield]
    exact c.parse_line policy sealed_uncalled [] [i] hkey
  · exact fun hf => suffix_columnText rfl (mem_chained hm hf)

/-- Separators, an open parenthesis and an escaped quote in quotations, and blanks around them. -/
theorem values_pass_verbatim_note :
    let c : Stem := ⟨"note", "Text", by decide, by decide⟩
    let v : Text := " 'a, b:(c', (d, \"it\\\"s\") "
    let f : Field := ⟨"note", .text, [], Settings.empty.set .comment (.literal v)⟩
    (Modifier.comment.valueRule ≠ .flag ∧ Modifier.ofKeyword? "Comment" = some .comment ∧
        Text.isBalanced v = true ∧ Text.trim v ≠ []) ∧
      parse .reject (c.name ++ ':' :: c.token ++ ':' :: "Comment" ++ '(' :: v ++ [')']) = .ok [f] ∧
      ("->comment(" ++ v ++ ");" : Text) <:+ Statement.columnText f := by
  intro c v f
  have hm : Modifier.comment.valueRule ≠ .flag := by decide
  have hk : Modifier.ofKeyword? "Comment" = some .comment := by decide
  have hb : Text.isBalanced v = true := by decide
  have hv : Text.trim v ≠ [] := by decide
  have h := values_pass_verbatim .reject c hm hk hb hv
  exact ⟨⟨hm, hk, hb, hv⟩, h.1, h.2 (by decide)⟩

end Migrations.Schema
