import Migrations.Proofs.Schema.Arguments
import Migrations.Proofs.Schema.Layout
import Migrations.Statement

namespace Migrations.Schema

open Text (IsPlain Place Sealed)

structure Target where
  table : Text
  column : Text
  isIdentifier_table : Text.isIdentifier table = true
  isIdentifier_column : Text.isIdentifier column = true

namespace Target

def text (p : Target) : Text := p.table ++ '.' :: p.column

def reference (p : Target) : Reference := ⟨p.table, p.column, none⟩

end Target

def SpellsQuoted (name t : Text) : Prop := ∃ q ∈ Reference.quotes, Text.trim t = q :: name ++ [q]

/-- The name, quoted or not, with or without blanks around it. -/
def Spells (name t : Text) : Prop := Text.trim t = name ∨ SpellsQuoted name t

instance (name t : Text) : Decidable (SpellsQuoted name t) := List.decidableBEx _ _

instance (name t : Text) : Decidable (Spells name t) := inferInstanceAs (Decidable (_ ∨ _))

/-- A text in which no character means anything to a scanner, in quotations or outside of them. -/
structure IsBare (t : Text) : Prop where
  ne_nil : t ≠ []
  plain : ∀ c ∈ t, IsPlain c ∧ c ≠ ',' ∧ c ≠ ':'
  inert : ∀ c ∈ t, c ≠ '\\'

theorem isBare_of_isIdentifier {t : Text} (h : Text.isIdentifier t = true) : IsBare t := by
  have hw := Text.isWord_of_isIdentifier h
  refine ⟨Text.ne_nil_of_isIdentifier h, fun c hc => Text.isPlain_of_word (hw c hc), ?_⟩
  rintro c hc rfl
  exact absurd (hw '\\' hc) (by decide)

theorem Target.isBare_text (p : Target) : IsBare p.text := by
  have ht := isBare_of_isIdentifier p.isIdentifier_table
  have hc := isBare_of_isIdentifier p.isIdentifier_column
  refine ⟨by simp [Target.text], ?_, ?_⟩
  · rw [Target.text, List.forall_mem_append, List.forall_mem_cons]
    exact ⟨ht.plain, by simp [IsPlain], hc.plain⟩
  · rw [Target.text, List.forall_mem_append, List.forall_mem_cons]
    exact ⟨ht.inert, by decide, hc.inert⟩

namespace IsBare

variable {name t : Text} (hn : IsBare name)

include hn

theorem not_mem_quotes : ∀ c ∈ name, c ∉ Reference.quotes := by
  intro c hc
  have h := (hn.plain c hc).1
  simp [Reference.quotes, h.1, h.2.1]

theorem sealed_of_spells (h : Spells name t) : Sealed t := by
  apply Text.sealed_of_trim
  rcases h with h | ⟨q, hq, h⟩
  · rw [h]
    exact Text.sealed_plain hn.plain
  · rw [h]
    refine Text.sealed_quotation (by simpa [Reference.quotes] using hq) fun c hc => ⟨?_, ?_⟩
    · rintro rfl
      exact hn.not_mem_quotes c hc hq
    · exact hn.inert c hc

theorem trim_ne_nil_of_spells (h : Spells name t) : Text.trim t ≠ [] := by
  rcases h with h | ⟨q, _, h⟩
  · rw [h]
    exact hn.ne_nil
  · simp [h]

theorem trimMarks_of_spells (h : Spells name t) :
    Text.trimMarks Reference.quotes (Text.trim t) = name := by
  rcases h with h | ⟨q, hq, h⟩
  · rw [h, Text.trimMarks_of_not_mem hn.not_mem_quotes]
  · rw [h, Text.trimMarks_marked hq hn.not_mem_quotes]

end IsBare

theorem Spells.trim {name t : Text} (h : Spells name t) : Spells name (Text.trim t) := by
  rwa [Spells, SpellsQuoted, Text.trim_trim]

def Target.item (p : Target) {keyword t : Text} (hk : Modifier.ofKeyword? keyword = some .foreign)
    (h : Spells p.text t) : Item where
  modifier := .foreign
  keyword := keyword
  value := some t
  named := hk
  taken := p.isBare_text.trim_ne_nil_of_spells h
  balanced := by simpa using (p.isBare_text.sealed_of_spells h).isBalanced

theorem SpellsQuoted.isLiteral {name t : Text} (h : SpellsQuoted name t) :
    Text.isLiteral (Text.trim t) = true := by
  obtain ⟨q, hq, h⟩ := h
  have hmark : q = '\'' ∨ q = '"' := by simpa [Reference.quotes] using hq
  rw [h, List.cons_append]
  simp [Text.isLiteral, Text.isQuoted, hmark]

variable {p : Target}

theorem table_ofTarget {t : Text} (h : Spells p.table t) :
    (Reference.ofTarget t).table = p.table := by
  have hdot : '.' ∉ p.table := fun hm =>
    absurd (Text.isWord_of_isIdentifier p.isIdentifier_table '.' hm) (by decide)
  rw [Reference.ofTarget,
    (isBare_of_isIdentifier p.isIdentifier_table).trimMarks_of_spells h]
  simp only [Text.splitFirst?_of_not_mem hdot]
  rfl

theorem ofTarget_of_spells {t : Text} (h : Spells p.text t) :
    Reference.ofTarget t = p.reference := by
  have hdot : '.' ∉ p.table := fun hm =>
    absurd (Text.isWord_of_isIdentifier p.isIdentifier_table '.' hm) (by decide)
  rw [Reference.ofTarget, p.isBare_text.trimMarks_of_spells h]
  simp only [Target.text, Text.splitFirst?_append hdot]
  rfl

def onDelete? (f : Field) : Option Text :=
  if f.settings.has .cascade then some "cascade" else none

theorem foreignKey?_of_target {f : Field} {t : Text} (hf : f.IsForeign) (ht : f.target? = some t) :
    f.foreignKey? = some ⟨(Reference.ofTarget t).table,
      f.targetColumn?.getD (Reference.ofTarget t).column, onDelete? f⟩ := by
  rw [Field.foreignKey?, if_pos hf, Field.reference, ht]
  rfl

/-- A target that a modifier names wins over all arguments. -/
theorem foreignKey?_of_modifier {f : Field} {t : Text}
    (hf : f.settings.get? .foreign = some (.literal t)) (h : Spells p.text t) :
    f.foreignKey? = some { p.reference with onDelete := onDelete? f } := by
  have hliteral : f.settings.literal? .foreign = some t := by
    rw [Settings.literal?, hf]
    rfl
  have hkey : f.IsForeign := .inr (by rw [Settings.has, hf]; rfl)
  have htarget : f.target? = some t := by rw [Field.target?, hliteral]
  have hcolumn : f.targetColumn? = none := by
    rw [Field.targetColumn?, if_neg fun hc => by simp [hliteral] at hc]
  rw [foreignKey?_of_target hkey htarget, hcolumn, ofTarget_of_spells h]
  rfl

section Arguments

variable {f : Field} (ht : f.type = .foreignKey) (hf : f.settings.get? .foreign = none)

include ht hf

theorem target?_of_arguments : f.target? = f.arguments.head? ∧
    f.targetColumn? = f.arguments[1]?.map (Text.trimMarks Reference.quotes) := by
  have hliteral : f.settings.literal? .foreign = none := by
    rw [Settings.literal?, hf]
    rfl
  constructor
  · rw [Field.target?, hliteral, if_pos ht]
  · rw [Field.targetColumn?, if_pos ⟨ht, hliteral⟩]

theorem foreignKey?_of_argument {t : Text} (ha : f.arguments = [Text.trim t])
    (h : Spells p.text t) :
    f.foreignKey? = some { p.reference with onDelete := onDelete? f } := by
  obtain ⟨htarget, hcolumn⟩ := target?_of_arguments ht hf
  rw [ha] at htarget hcolumn
  rw [foreignKey?_of_target (.inl ht) htarget, hcolumn, ofTarget_of_spells h.trim]
  rfl

theorem foreignKey?_of_arguments {t u : Text} (ha : f.arguments = [Text.trim t, Text.trim u])
    (h : Spells p.table t) (hu : Spells p.column u) :
    f.foreignKey? = some { p.reference with onDelete := onDelete? f } := by
  obtain ⟨htarget, hcolumn⟩ := target?_of_arguments ht hf
  rw [ha] at htarget hcolumn
  rw [foreignKey?_of_target (.inl ht) htarget, hcolumn, table_ofTarget h.trim]
  have hname := (isBare_of_isIdentifier p.isIdentifier_column).trimMarks_of_spells hu
  change some (Reference.mk p.table (Text.trimMarks Reference.quotes (Text.trim u)) _) = _
  rw [hname]
  rfl

end Arguments

theorem has_foreign_apply {s : Settings} {i : Item}
    (h : i.modifier = .foreign ∨ s.has .foreign = true) : (i.apply s).has .foreign = true := by
  rw [Settings.has, Item.get?_apply]
  split
  · rename_i hm
    rw [Item.setting?, ← hm]
    cases i.value <;> rfl
  · rename_i hm
    exact h.resolve_left fun he => hm he.symm

/-- No item takes the foreign key away. -/
theorem has_foreign_foldl {items : List Item} {s : Settings} (h : s.has .foreign = true) :
    (items.foldl Item.apply s).has .foreign = true := by
  induction items generalizing s with
  | nil => exact h
  | cons i rest ih => exact ih (has_foreign_apply (.inr h))

/-- Blanks around a text make no difference in front of further modifiers. -/
theorem forall₂_trim_further {t : Text} (hc : Place.top.after t = .top) (items : List Text) :
    List.Forall₂ Alike (splitList (Text.trim t ++ further items))
      (splitList (t ++ further items)) := by
  rcases further_cases items with he | ⟨back, he⟩
  · rw [he, List.append_nil, List.append_nil, splitList_trim]
    exact forall₂_trimmed _
  · rw [he]
    exact forall₂_trim_front hc back

namespace Stem

variable (policy : ModifierPolicy) (c : Stem) (items : List Item)

theorem closed_token : Place.top.after (c.name ++ ':' :: c.token) = .top := by
  rw [Place.after_append, c.isWord_name.sealed.closed, Place.after_cons,
    Text.step_mark isPlain_colon, c.isWord_token.sealed.closed]

theorem closed_segment {t : Text} (h : Sealed t) :
    Place.top.after (c.name ++ ':' :: c.token ++ ':' :: t) = .top := by
  rw [Place.after_append, c.closed_token, Place.after_cons, Text.step_mark isPlain_colon, h.closed]

theorem parse_call (hc : c.type = .foreignKey) {ts : List Text}
    (hs : ∀ t ∈ ts, Sealed t ∧ Text.trim t ≠ []) :
    parse policy (c.name ++ ':' :: callText c.token (some (Text.join [','] ts)) ++
      further (items.map Item.text)) =
      .ok [{ c.field items with arguments := ts.map Text.trim }] := by
  have hinline : ∀ text ∈ some (Text.join [','] ts), Sealed ('(' :: text ++ [')']) := by
    rintro text ⟨⟩
    refine Text.sealed_parenthesized (Text.isBalanced_iff.mpr ?_)
    exact Text.scan_join isPlain_comma (by simp) fun t ht =>
      ⟨(hs t ht).1.shields_one (by simp), (hs t ht).1.closed⟩
  have hparse := c.parse_line policy hinline [] items fun _ => .inl hc
  rw [line_eq, Option.map_some, Option.getD_some, splitList_join_sealed hs] at hparse
  simpa using hparse

theorem parse_foreign (i : Item) (hi : i.modifier = .foreign) :
    parse policy (c.name ++ ':' :: c.token ++ ':' :: i.text ++ further (items.map Item.text)) =
      .ok [c.field (i :: items)] := by
  have hkey : (c.field (i :: items)).IsForeign :=
    .inr (has_foreign_foldl (s := Item.apply .empty i) (has_foreign_apply (.inl hi)))
  have htext : c.name ++ ':' :: c.token ++ ':' :: i.text ++ further (items.map Item.text) =
      c.line none [i.text] (items.map Item.text) := by
    simp [line_eq, callText]
  rw [htext]
  exact c.parse_line policy sealed_uncalled [i] items fun _ => hkey

theorem parse_quoted (hc : c.type = .foreignKey) {t u : Text} (ht : Sealed t) (hu : Sealed u)
    (hl : Text.isLiteral (Text.trim t) = true) (hl' : Text.isLiteral (Text.trim u) = true) :
    parse policy (c.name ++ ':' :: c.token ++ ':' :: t ++ ',' :: u ++
      further (items.map Item.text)) =
      .ok [{ c.field items with arguments := [Text.trim t, Text.trim u] }] := by
  let as : Arguments c.type := ⟨[Text.trim t, Text.trim u], List.cons_ne_nil _ _,
    by simpa using ⟨isArgument_trim ht, isArgument_trim hu⟩, .inl (by simpa using ⟨hl, hl'⟩)⟩
  have hform : parse policy (c.segmentForm as items) = .ok [c.fieldWith as items] := by
    refine parse_of_chunks (c.chunks_segmentForm as items fun _ _ _ => .inr ?_)
      (c.readField_of_readDraft policy (c.readDraft_segmentForm as items) fun _ => .inl hc)
    simpa [as] using hl'
  have htext : c.segmentForm as items = c.name ++ ':' :: c.token ++ ':' :: Text.trim t ++
      ',' :: (Text.trim u ++ further (items.map Item.text)) := by
    simp [segmentForm, Text.join_cons_flatMap, further, as]
  refine (parse_alike policy ?_).1 _ hform
  rw [htext, splitList_append (c.closed_segment ht.trim), List.append_assoc _ (',' :: u),
    List.cons_append, splitList_append (c.closed_segment ht)]
  exact List.rel_append (forall₂_trim_back c.closed_token t) (forall₂_trim_further hu.closed _)

end Stem

/-- A way of naming the target of a foreign key, and how the names are written. -/
inductive Way (p : Target) where
  /-- The type is called with the table and the column. -/
  | pair (token table column : Text) (foreign : ColumnType.ofToken token = .foreignKey)
    (spelled : Spells p.table table) (spelled' : Spells p.column column)
  /-- The type is called with one text for both. -/
  | single (token target : Text) (foreign : ColumnType.ofToken token = .foreignKey)
    (spelled : Spells p.text target)
  /-- The table and the column stand in a segment after the type, as literals. -/
  | segment (token table column : Text) (foreign : ColumnType.ofToken token = .foreignKey)
    (quoted : SpellsQuoted p.table table) (quoted' : SpellsQuoted p.column column)
  /-- A modifier behind any type is called with one text for both. -/
  | modifier (token keyword target : Text) (known : ColumnType.ofToken token ∈ ColumnType.known)
    (named : Modifier.ofKeyword? keyword = some .foreign) (spelled : Spells p.text target)

namespace Way

variable (w : Way p)

def token : Way p → Text
  | pair token .. | single token .. | segment token .. | modifier token .. => token

def rest : Way p → Text
  | pair _ table column .. => '(' :: table ++ ',' :: column ++ [')']
  | single _ target .. => '(' :: target ++ [')']
  | segment _ table column .. => ':' :: table ++ ',' :: column
  | modifier _ keyword target .. => ':' :: keyword ++ '(' :: target ++ [')']

def text (x : Text) : Text := x ++ ':' :: w.token ++ w.rest

def arguments : Way p → List Text
  | pair _ table column .. | segment _ table column .. => [Text.trim table, Text.trim column]
  | single _ target .. => [Text.trim target]
  | modifier .. => []

def settings : Way p → Settings
  | modifier _ _ target .. => Settings.empty.set .foreign (.literal target)
  | _ => .empty

def field (x : Text) : Field := ⟨x, .ofToken w.token, w.arguments, w.settings⟩

theorem known : ColumnType.ofToken w.token ∈ ColumnType.known := by
  cases w with
  | modifier token keyword target known named spelled => exact known
  | pair token table column foreign | segment token table column foreign
  | single token target foreign =>
    simp only [Way.token, foreign]
    decide

theorem foreignKey? {f : Field} (ht : f.type = .ofToken w.token) (ha : f.arguments = w.arguments)
    (hs : f.settings.get? .foreign = w.settings.get? .foreign) :
    f.foreignKey? = some { p.reference with onDelete := onDelete? f } := by
  cases w with
  | pair token table column foreign spelled spelled' =>
    exact foreignKey?_of_arguments (ht.trans foreign) hs ha spelled spelled'
  | single token target foreign spelled =>
    exact foreignKey?_of_argument (ht.trans foreign) hs ha spelled
  | segment token table column foreign quoted quoted' =>
    exact foreignKey?_of_arguments (ht.trans foreign) hs ha (.inr quoted) (.inr quoted')
  | modifier token keyword target known named spelled => exact foreignKey?_of_modifier hs spelled

theorem parse_text (policy : ModifierPolicy) (items : List Item) {x : Text}
    (hx : Text.isIdentifier x = true) :
    parse policy (w.text x ++ further (items.map Item.text)) =
      .ok [{ w.field x with settings := items.foldl Item.apply w.settings }] := by
  have hknown := w.known
  cases w with
  | pair token table column foreign spelled spelled' =>
    have htable := isBare_of_isIdentifier p.isIdentifier_table
    have hcolumn := isBare_of_isIdentifier p.isIdentifier_column
    have hs : ∀ t ∈ [table, column], Sealed t ∧ Text.trim t ≠ [] := by
      simpa using ⟨⟨htable.sealed_of_spells spelled, htable.trim_ne_nil_of_spells spelled⟩,
        hcolumn.sealed_of_spells spelled', hcolumn.trim_ne_nil_of_spells spelled'⟩
    have htext : (pair token table column foreign spelled spelled').text x =
        x ++ ':' :: callText token (some (Text.join [','] [table, column])) := by
      simp only [Way.text, Way.rest, Way.token, callText, Text.join, List.append_assoc,
        List.cons_append, List.nil_append]
    rw [htext]
    exact Stem.parse_call policy ⟨x, token, hx, hknown⟩ items foreign hs
  | single token target foreign spelled =>
    have hs : ∀ t ∈ [target], Sealed t ∧ Text.trim t ≠ [] := by
      simpa using ⟨p.isBare_text.sealed_of_spells spelled,
        p.isBare_text.trim_ne_nil_of_spells spelled⟩
    have htext : (single token target foreign spelled).text x =
        x ++ ':' :: callText token (some (Text.join [','] [target])) := by
      simp only [Way.text, Way.rest, Way.token, callText, Text.join, List.append_assoc,
        List.cons_append]
    rw [htext]
    exact Stem.parse_call policy ⟨x, token, hx, hknown⟩ items foreign hs
  | segment token table column foreign quoted quoted' =>
    have htable := (isBare_of_isIdentifier p.isIdentifier_table).sealed_of_spells (.inr quoted)
    have hcolumn := (isBare_of_isIdentifier p.isIdentifier_column).sealed_of_spells (.inr quoted')
    have htext : (segment token table column foreign quoted quoted').text x =
        x ++ ':' :: token ++ ':' :: table ++ ',' :: column := by
      simp only [Way.text, Way.rest, Way.token, List.append_assoc, List.cons_append]
    rw [htext]
    exact Stem.parse_quoted policy ⟨x, token, hx, hknown⟩ items foreign htable hcolumn
      quoted.isLiteral quoted'.isLiteral
  | modifier token keyword target known named spelled =>
    let i := p.item named spelled
    have htext : (modifier token keyword target known named spelled).text x =
        x ++ ':' :: token ++ ':' :: i.text := by
      simp only [Way.text, Way.rest, Way.token, Item.text, callText, Target.item, i,
        List.append_assoc, List.cons_append]
    rw [htext]
    exact Stem.parse_foreign policy ⟨x, token, hx, hknown⟩ items i rfl

theorem onDelete?_field (x : Text) : onDelete? (w.field x) = none := by
  have h : (w.field x).settings.has .cascade = false := by
    cases w <;> rfl
  rw [onDelete?, h]
  rfl

theorem foreignKey?_field (x : Text) : (w.field x).foreignKey? = some p.reference := by
  rw [w.foreignKey? rfl rfl rfl, onDelete?_field]
  rfl

theorem parse_field (policy : ModifierPolicy) {x : Text} (hx : Text.isIdentifier x = true) :
    parse policy (w.text x) = .ok [w.field x] := by
  have htext : w.text x ++ further ([].map Item.text) = w.text x := List.append_nil _
  rw [← htext]
  exact w.parse_text policy [] hx

theorem parse_overridden (policy : ModifierPolicy) {x : Text} (hx : Text.isIdentifier x = true)
    {o : Target} {keyword target : Text} (hk : Modifier.ofKeyword? keyword = some .foreign)
    (hs : Spells o.text target) :
    parse policy (w.text x ++ ':' :: keyword ++ '(' :: target ++ [')']) =
      .ok [(w.field x).withSetting .foreign (.literal target)] := by
  have htext : w.text x ++ ':' :: keyword ++ '(' :: target ++ [')'] =
      w.text x ++ further ([o.item hk hs].map Item.text) := by
    simp [further, itemGroups, Text.join, Item.text, callText, Target.item]
  rw [htext]
  exact w.parse_text policy [o.item hk hs] hx

end Way

/-- All ways of naming a target give the same reference and the same constraint. A `cascade` behind
them changes nothing but what happens when a row is deleted, and a target that a modifier names wins
over all others. -/
theorem targets_agree (policy : ModifierPolicy) {x : Text} (hx : Text.isIdentifier x = true)
    (w : Way p) :
    let f := w.field x
    let cascading := f.withSetting .cascade .flag
    (parse policy (w.text x) = .ok [f] ∧ f.foreignKey? = some p.reference ∧
        f.added = [.column f, .foreign x p.reference]) ∧
      (parse policy (w.text x ++ ":cascade") = .ok [cascading] ∧
        cascading.foreignKey? = some { p.reference with onDelete := some "cascade" }) ∧
      ∀ (o : Target) (keyword target : Text), Modifier.ofKeyword? keyword = some .foreign →
        Spells o.text target →
          let overridden := f.withSetting .foreign (.literal target)
          parse policy (w.text x ++ ':' :: keyword ++ '(' :: target ++ [')']) = .ok [overridden] ∧
            overridden.foreignKey? = some o.reference := by
  intro f cascading
  have hkey : f.foreignKey? = some p.reference := w.foreignKey?_field x
  refine ⟨⟨w.parse_field policy hx, hkey, ?_⟩, ⟨?_, ?_⟩, ?_⟩
  · rw [Field.added, hkey]
    rfl
  · exact w.parse_text policy [.bare .cascade (by decide)] hx
  · exact w.foreignKey? (f := cascading) rfl rfl rfl
  · intro o keyword target hk hs overridden
    have hdelete : onDelete? overridden = none := w.onDelete?_field x
    refine ⟨w.parse_overridden policy hx hk hs, ?_⟩
    rw [foreignKey?_of_modifier (f := overridden) rfl hs, hdelete]
    rfl

/-- A table whose name is a modifier and a column whose name is a type, with blanks and quotes of
both kinds around them. -/
theorem targets_agree_owner_id :
    let p : Target := ⟨"unique", "integer", by decide, by decide⟩
    let o : Target := ⟨"users", "uuid", by decide, by decide⟩
    let w : Way p :=
      .segment "Foreign" " 'unique' " "\"integer\"" (by decide) (by decide) (by decide)
    let f : Field := ⟨"owner_id", .foreignKey, ["'unique'", "\"integer\""], .empty⟩
    (Text.isIdentifier "owner_id" = true ∧ Modifier.ofKeyword? "FOREIGN" = some .foreign ∧
        Spells o.text " users.uuid ") ∧
      w.text "owner_id" = "owner_id:Foreign: 'unique' ,\"integer\"" ∧
      parse .reject (w.text "owner_id") = .ok [f] ∧
      (f.withSetting .cascade .flag).foreignKey? = some ⟨"unique", "integer", some "cascade"⟩ ∧
      parse .reject (w.text "owner_id" ++ ':' :: "FOREIGN" ++ '(' :: " users.uuid " ++ [')']) =
        .ok [f.withSetting .foreign (.literal " users.uuid ")] := by
  intro p o w f
  have hx : Text.isIdentifier "owner_id" = true := by decide
  have hk : Modifier.ofKeyword? "FOREIGN" = some .foreign := by decide
  have hs : Spells o.text " users.uuid " := by decide
  have h := targets_agree .reject hx w
  exact ⟨⟨hx, hk, hs⟩, rfl, h.1.1, h.2.1.2, (h.2.2 o "FOREIGN" " users.uuid " hk hs).1⟩

end Migrations.Schema
