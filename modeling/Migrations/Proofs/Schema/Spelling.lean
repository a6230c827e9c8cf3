import Migrations.Proofs.Field.Basic
import Migrations.Proofs.Schema.Draft

namespace Migrations

open Text (IsWord)

def Modifier.Takes (m : Modifier) : Option Text → Prop
  | none => m.valueRule ≠ .literal
  | some text =>
    if m.valueRule = .flag then (Text.trim text).lowerAscii ∈ (["true", "false"] : List Text)
    else Text.trim text ≠ []

instance (m : Modifier) : (value : Option Text) → Decidable (m.Takes value)
  | none => inferInstanceAs (Decidable (_ ≠ _))
  | some _ => inferInstanceAs (Decidable (if m.valueRule = .flag then _ else _))

/-- What the modifier is set to by an item that stands alone or is called with a value. A flag that
is called with `false` is cleared. -/
def Modifier.settingFor? (m : Modifier) : Option Text → Option Setting
  | none => some .flag
  | some text =>
    if m.valueRule ≠ .flag then some (.literal text)
    else if (Text.trim text).lowerAscii = "true" then some .flag
    else none

/-- A value that the modifier takes brings a setting that fits it. -/
theorem Modifier.settingFor?_fits (m : Modifier) {value : Option Text} {setting : Setting}
    (ht : m.Takes value) (h : m.settingFor? value = some setting) :
    (m.valueRule = .flag → setting = .flag) ∧
      (m.valueRule = .literal → ∃ text, setting = .literal text) := by
  cases value with
  | none =>
    cases h
    exact ⟨fun _ => rfl, fun hr => absurd hr ht⟩
  | some text =>
    by_cases hr : m.valueRule = .flag
    · simp only [settingFor?, hr, ne_eq, not_true_eq_false, if_false] at h
      split at h
      · cases h
        exact ⟨fun _ => rfl, fun hl => by simp [hr] at hl⟩
      · cases h
    · simp only [settingFor?, hr, ne_eq, not_false_eq_true, if_true, Option.some.injEq] at h
      exact ⟨fun hf => absurd hf hr, fun _ => ⟨text, h.symm⟩⟩

def Settings.put (s : Settings) (m : Modifier) (value : Option Setting) : Settings :=
  ⟨fun k => if k = m then value else s.get? k⟩

@[simp] theorem Settings.get?_put (s : Settings) (m k : Modifier) (value : Option Setting) :
    (s.put m value).get? k = if k = m then value else s.get? k := rfl

namespace Schema

/-- A modifier fails only for a value that it does not take, whatever else is set. -/
theorem applyModifier_ok_iff {s t : Settings} {m : Modifier} {value : Option Text} :
    applyModifier s m value = .ok t ↔ m.Takes value ∧ s.put m (m.settingFor? value) = t := by
  unfold applyModifier Modifier.Takes Modifier.settingFor?
  cases value with
  | none => cases hr : m.valueRule <;> simp [Settings.put, Settings.set]
  | some text =>
    cases hr : m.valueRule with
    | literal | optionalLiteral =>
      by_cases hb : Text.trim text = [] <;> simp [hb, Settings.put, Settings.set]
    | flag =>
      by_cases ht : (Text.trim text).lowerAscii = "true"
      · simp [ht, Settings.put, Settings.set]
      · simp only [ht, if_false, if_true, ne_eq, not_true_eq_false, List.mem_cons, false_or,
          List.not_mem_nil, or_false]
        by_cases hf : (Text.trim text).lowerAscii = "false"
        · rw [if_pos hf]
          simp [hf, Settings.put, Settings.erase]
        · simp only [hf, if_false, reduceCtorEq, false_and]

/-- A modifier as it is written: its keyword in letters of any case, alone or called with a
balanced value that it takes. -/
structure Item where
  modifier : Modifier
  keyword : Text
  value : Option Text
  named : Modifier.ofKeyword? keyword = some modifier
  taken : modifier.Takes value
  balanced : ∀ text ∈ value, Text.isBalanced text = true

namespace Item

def text (i : Item) : Text := callText i.keyword i.value

def setting? (i : Item) : Option Setting := i.modifier.settingFor? i.value

def apply (s : Settings) (i : Item) : Settings := s.put i.modifier i.setting?

def settings (items : List Item) : Settings := items.foldl apply .empty

@[simp] theorem get?_apply (s : Settings) (i : Item) (m : Modifier) :
    (apply s i).get? m = if m = i.modifier then i.setting? else s.get? m := rfl

def bare (m : Modifier) (h : m.Takes none) : Item :=
  ⟨m, m.keyword, none, m.ofKeyword?_keyword, h, by simp⟩

theorem isWord_keyword (i : Item) : IsWord i.keyword := isWord_of_ofKeyword? i.named

theorem keyword_ne_nil (i : Item) : i.keyword ≠ [] := by
  obtain ⟨c, cs, h, _⟩ := isAlpha_head_of_ofKeyword? i.named
  simp [h]

theorem splitCall?_text (i : Item) : splitCall? i.text = some (i.keyword, i.value) :=
  splitCall?_callText i.isWord_keyword

theorem keywordOf_text (i : Item) : keywordOf i.text = i.keyword :=
  keywordOf_of_splitCall? i.splitCall?_text

theorem isItem (i : Item) : IsItem i.text := by
  refine ⟨?_, trim_callText i.isWord_keyword i.keyword_ne_nil,
    callText_ne_nil i.keyword_ne_nil i.value, ?_⟩
  · exact sealed_callText i.isWord_keyword fun text ht =>
      Text.sealed_parenthesized (i.balanced text ht)
  · rw [namesModifier, keywordOf_text, i.named]
    rfl

/-- Of all keywords only `foreign` is a type as well. -/
theorem ofToken_keyword_iff (i : Item) :
    ColumnType.ofToken i.keyword = .custom i.keyword ↔ i.modifier ≠ .foreign := by
  have ht : ∀ m ∈ Modifier.all,
      (ColumnType.tokens.find? (·.1 = m.keyword)).isNone = true ↔ m ≠ .foreign := by
    decide +kernel
  rw [← ht _ i.modifier.mem_all, ColumnType.ofToken,
    lowerAscii_of_ofKeyword? i.named]
  cases hf : ColumnType.tokens.find? (·.1 = i.modifier.keyword) with
  | none => simp
  | some entry =>
    have hk : entry.2 ∈ ColumnType.known :=
      mem_known_of_mem_tokens entry (List.mem_of_find?_eq_some hf)
    simp only [Option.isNone_some, Bool.false_eq_true, iff_false]
    intro he
    exact custom_not_mem_known i.keyword (he ▸ hk)

theorem apply_literal {i : Item} {text : Text} (hm : i.modifier.valueRule ≠ .flag)
    (hv : i.value = some text) (s : Settings) : i.apply s = s.set i.modifier (.literal text) := by
  rw [apply, setting?, hv, Modifier.settingFor?, if_pos hm]
  rfl

theorem applyModifier_value (s : Settings) (i : Item) :
    applyModifier s i.modifier i.value = .ok (apply s i) :=
  applyModifier_ok_iff.mpr ⟨i.taken, rfl⟩

theorem applyItem_text (policy : ModifierPolicy) (s : Settings) (i : Item) :
    applyItem policy s i.text = .ok (i.apply s) := by
  rw [applyItem, i.splitCall?_text]
  simp only [i.named, applyModifier_value, Except.mapError]

theorem applyItems_texts (policy : ModifierPolicy) (s : Settings) (items : List Item) :
    applyItems policy s (items.map text) = .ok (items.foldl apply s) := by
  induction items generalizing s with
  | nil => rfl
  | cons i rest ih =>
    simp only [List.map_cons, applyItems, applyItem_text, List.foldl_cons]
    exact ih (apply s i)

theorem get?_foldl_apply {items : List Item} {s : Settings} {m : Modifier} {value : Setting}
    (h : (items.foldl apply s).get? m = some value) :
    s.get? m = some value ∨ ∃ i ∈ items, i.modifier = m ∧ i.setting? = some value := by
  induction items generalizing s with
  | nil => exact .inl h
  | cons i rest ih =>
    rcases ih h with hs | ⟨j, hj, hm, hv⟩
    · rw [get?_apply] at hs
      split at hs
      · rename_i hm
        exact .inr ⟨i, by simp, hm.symm, hs⟩
      · exact .inl hs
    · exact .inr ⟨j, by simp [hj], hm, hv⟩

/-- No item brings a setting that its modifier does not take. -/
theorem setting?_fits {i : Item} {value : Setting} (h : i.setting? = some value) :
    (i.modifier.valueRule = .flag → value = .flag) ∧
      (i.modifier.valueRule = .literal → ∃ text, value = .literal text) :=
  i.modifier.settingFor?_fits i.taken h

/-- Settings that items lead to have no flaws. -/
theorem settingFlaw?_settings (items : List Item) {f : Field} (h : f.settings = settings items) :
    f.settingFlaw? = none := by
  rw [Field.settingFlaw?_eq_none_iff]
  intro m value hm
  rw [h] at hm
  rcases get?_foldl_apply hm with hs | ⟨i, _, rfl, hv⟩
  · cases hs
  · exact setting?_fits hv

end Item

structure Stem where
  name : Text
  token : Text
  identifier : Text.isIdentifier name = true
  known : ColumnType.ofToken token ∈ ColumnType.known

namespace Stem

def type (c : Stem) : ColumnType := .ofToken c.token

def field (c : Stem) (items : List Item) : Field := ⟨c.name, c.type, [], Item.settings items⟩

theorem isWord_name (c : Stem) : IsWord c.name := Text.isWord_of_isIdentifier c.identifier

theorem name_ne_nil (c : Stem) : c.name ≠ [] := Text.ne_nil_of_isIdentifier c.identifier

theorem isWord_token (c : Stem) : IsWord c.token := by
  apply isWord_of_ofToken
  intro h
  exact custom_not_mem_known c.token (h ▸ c.known)

theorem token_ne_nil (c : Stem) : c.token ≠ [] := by
  intro h
  have hk := c.known
  rw [h] at hk
  revert hk
  decide

/-- Modifiers bring no flaw of their own, but one of them asks for a foreign key. -/
theorem flaw?_eq_none_iff (c : Stem) {f : Field} (hn : f.name = c.name) (ht : f.type = c.type)
    (hs : f.settingFlaw? = none) :
    f.flaw? = none ↔ (f.settings.has .cascade = true → f.IsForeign) := by
  have htype : f.typeFlaw? = none := by
    unfold Field.typeFlaw?
    split
    · rename_i token hc
      have hk : f.type ∈ ColumnType.known := ht ▸ c.known
      exact absurd (hc ▸ hk) (custom_not_mem_known token)
    · rfl
  rw [Field.flaw?_eq_none_iff, hn]
  simp [c.identifier, htype, hs]

theorem flaw?_eq_none (c : Stem) {items : List Item}
    (hkey : (c.field items).settings.has .cascade = true → (c.field items).IsForeign) :
    (c.field items).flaw? = none :=
  (c.flaw?_eq_none_iff rfl rfl (Item.settingFlaw?_settings items rfl)).mpr hkey

theorem isEntry_name (c : Stem) : IsEntry c.name := isEntry_of_isWord c.isWord_name c.name_ne_nil

theorem isEntry_token (c : Stem) : IsEntry c.token :=
  isEntry_of_isWord c.isWord_token c.token_ne_nil

/-- A draft of the column is read to its end. What arguments it has makes no difference. -/
theorem readField_of_readDraft (c : Stem) (policy : ModifierPolicy) {chunk : Text}
    {arguments : List Text} {items : List Item}
    (hd : readDraft chunk = .ok ⟨c.name, c.type, arguments, items.map Item.text⟩)
    (hkey : (c.field items).settings.has .cascade = true → (c.field items).IsForeign) :
    readField policy chunk = .ok { c.field items with arguments := arguments } := by
  have happly : applyItems policy .empty (items.map Item.text) = .ok (Item.settings items) :=
    Item.applyItems_texts policy .empty items
  exact (readField_ok_iff hd).mpr ⟨_, happly, c.flaw?_eq_none hkey, rfl⟩

theorem readField_items (c : Stem) (policy : ModifierPolicy) {items : List Item}
    {gs : List (List Text)} (hn : ∀ g ∈ gs, g ≠ []) (hi : gs.flatten = items.map Item.text)
    (hkey : (c.field items).settings.has .cascade = true → (c.field items).IsForeign) :
    readField policy (Text.join [':'] (c.name :: c.token :: gs.map (Text.join [',']))) =
      .ok (c.field items) := by
  have hg : ∀ g ∈ gs, g ≠ [] ∧ ∀ t ∈ g, IsItem t := by
    intro g hm
    refine ⟨hn g hm, fun t ht => ?_⟩
    have hf : t ∈ gs.flatten := List.mem_flatten.mpr ⟨g, hm, ht⟩
    obtain ⟨i, _, rfl⟩ := List.mem_map.mp (hi ▸ hf)
    exact i.isItem
  have hdraft : readDraft (Text.join [':'] (c.name :: c.token :: gs.map (Text.join [',']))) =
      .ok ⟨c.name, c.type, [], items.map Item.text⟩ :=
    hi ▸ readDraft_written c.isWord_name c.name_ne_nil c.isWord_token c.token_ne_nil
      sealed_uncalled hg
  exact c.readField_of_readDraft policy hdraft hkey

end Stem

end Schema

end Migrations
