import Migrations.Proofs.Schema.Line

namespace Migrations

open Text (Shields)

namespace Schema

def IsName (t : Text) : Prop := Text.isIdentifier t = true ∧ Modifier.ofKeyword? t = none

instance (t : Text) : Decidable (IsName t) := inferInstanceAs (Decidable (_ ∧ _))

structure IsArgument (t : Text) : Prop where
  trim : Text.trim t = t
  balanced : Text.isBalanced t = true
  comma : Text.splitTop ',' t = [t]
  colon : Text.splitTop ':' t = [t]

instance (t : Text) : Decidable (IsArgument t) :=
  decidable_of_iff
    (Text.trim t = t ∧ Text.isBalanced t = true ∧ Text.splitTop ',' t = [t] ∧
      Text.splitTop ':' t = [t])
    ⟨fun ⟨h1, h2, h3, h4⟩ => ⟨h1, h2, h3, h4⟩, fun ⟨h1, h2, h3, h4⟩ => ⟨h1, h2, h3, h4⟩⟩

end Schema

open Schema

/-- What a type can be constructed with in a segment: literals, also names as the values of an
enumeration, or one name as the target of a foreign key. -/
def ColumnType.Admits (type : ColumnType) (arguments : List Text) : Prop :=
  (∀ a ∈ arguments, Text.isLiteral a = true) ∨
    (type = .enum ∧ ∀ a ∈ arguments, Text.isLiteral a = true ∨ IsName a) ∨
    (type = .foreignKey ∧ ∃ a, arguments = [a] ∧ IsName a)

namespace Schema

structure Arguments (type : ColumnType) where
  texts : List Text
  ne_nil : texts ≠ []
  written : ∀ t ∈ texts, IsArgument t
  admitted : type.Admits texts

theorem IsArgument.sealed {t : Text} (h : IsArgument t) : Text.Sealed t := by
  obtain ⟨hp, hc⟩ := Text.isBalanced_iff.mp h.balanced
  have hcomma : Shields [','] .top t :=
    (Text.parts_splitTop ',' t).shields t (by rw [h.comma]; simp)
  have hcolon : Shields [':'] .top t :=
    (Text.parts_splitTop ':' t).shields t (by rw [h.colon]; simp)
  exact ⟨hcomma.union (hcolon.union hp), hc⟩

theorem isArgument_trim {t : Text} (h : Text.Sealed t) : IsArgument (Text.trim t) :=
  ⟨Text.trim_trim t, h.trim.isBalanced, Text.splitTop_of_shields (h.trim.shields_one (by simp)),
    Text.splitTop_of_shields (h.trim.shields_one (by simp))⟩

theorem IsName.namesModifier {t : Text} (h : IsName t) : namesModifier t = false := by
  have hw := Text.isWord_of_isIdentifier h.1
  rw [Schema.namesModifier, keywordOf_word hw.not_mem_parenthesis, hw.trim, h.2]
  rfl

namespace Arguments

variable {type : ColumnType} (as : Arguments type)

theorem literal_or_name : ∀ a ∈ as.texts, Text.isLiteral a = true ∨ IsName a := by
  intro a ha
  rcases as.admitted with hl | ⟨_, he⟩ | ⟨_, b, hb, hn⟩
  · exact .inl (hl a ha)
  · exact he a ha
  · rw [hb, List.mem_singleton] at ha
    exact .inr (ha ▸ hn)

/-- Behind another argument a name is the value of an enumeration. -/
theorem literal_or_value {front rest : List Text} {a : Text} (hn : front ≠ [])
    (h : as.texts = front ++ a :: rest) :
    Text.isLiteral a = true ∨ (type = .enum ∧ Text.isIdentifier a = true) := by
  have ha : a ∈ as.texts := by simp [h]
  rcases as.admitted with hl | ⟨ht, he⟩ | ⟨_, b, hb, _⟩
  · exact .inl (hl a ha)
  · exact (he a ha).imp_right fun hname => ⟨ht, hname.1⟩
  · have hlength := congrArg List.length (hb.symm.trans h)
    have hpos := List.length_pos_iff.mpr hn
    simp only [List.length_append, List.length_cons, List.length_nil] at hlength
    omega

theorem isEntry : ∀ a ∈ as.texts, IsEntry a := by
  intro a ha
  refine ⟨(as.written a ha).sealed, (as.written a ha).trim, ?_⟩
  rintro rfl
  rcases as.literal_or_name [] ha with h | h
  · revert h
    decide
  · exact Text.ne_nil_of_isIdentifier h.1 rfl

theorem namesModifier_eq_false : ∀ a ∈ as.texts, namesModifier a = false := by
  intro a ha
  rcases as.literal_or_name a ha with h | h
  · exact namesModifier_of_isLiteral (as.written a ha).trim h
  · exact h.namesModifier

theorem areArguments_texts : areArguments type as.texts = true := by
  have hfit : type.TakesIdentifiers ∨ ∀ a ∈ as.texts, Text.isLiteral a = true := by
    rcases as.admitted with hl | ⟨ht, _⟩ | ⟨ht, _⟩
    · exact .inr hl
    · exact .inl (.inl ht)
    · exact .inl (.inr ht)
  simpa [areArguments, as.ne_nil] using ⟨as.namesModifier_eq_false, hfit⟩

theorem splitList_join : splitList (Text.join [','] as.texts) = as.texts :=
  splitList_join_pieces fun a ha => (as.isEntry a ha).isPiece

end Arguments

namespace Stem

variable (c : Stem) (as : Arguments c.type) (items : List Item)

def fieldWith : Field := { c.field items with arguments := as.texts }

/-- The field with its arguments in the segment after the type: `name:type:a,b:m,n`. -/
def segmentForm : Text :=
  Text.join [':'] ([c.name, c.token, Text.join [','] as.texts] ++
    (itemGroups (items.map Item.text)).map (Text.join [',']))

/-- The field with its arguments in parentheses: `name:type(a,b):m,n`. -/
def inlineForm : Text :=
  Text.join [':'] ([c.name, callText c.token (some (Text.join [','] as.texts))] ++
    (itemGroups (items.map Item.text)).map (Text.join [',']))

theorem isEntry_of_mem_first : ∀ t ∈ (items.map Item.text).take 1, IsEntry t := fun t ht =>
  (Item.isItem_of_mem_map items t (List.mem_of_mem_take ht)).isEntry

theorem isPiece_of_mem_others : ∀ t ∈ (items.map Item.text).tail, IsPiece t := fun t ht =>
  (Item.isItem_of_mem_map items t (List.mem_of_mem_tail ht)).isEntry.isPiece

theorem sealed_inline : ∀ text ∈ some (Text.join [','] as.texts),
    Text.Sealed ('(' :: text ++ [')']) := by
  rintro text ⟨⟩
  exact Text.sealed_parenthesized (isSegment_join as.isEntry).isBalanced

theorem readDraft_segmentForm : readDraft (c.segmentForm as items) =
    .ok ⟨c.name, c.type, as.texts, items.map Item.text⟩ := by
  have hg := forall_mem_itemGroups (Item.isItem_of_mem_map items)
  have hr : ∀ t ∈ Text.join [','] as.texts ::
      (itemGroups (items.map Item.text)).map (Text.join [',']), IsSegment t :=
    List.forall_mem_cons.mpr ⟨isSegment_join as.isEntry, isSegment_of_groups hg⟩
  have hread := readDraft_join c.isWord_name c.name_ne_nil c.isWord_token c.token_ne_nil
    sealed_uncalled hr
  have hsegments := readSegments_arguments c.name as.areArguments_texts as.splitList_join hg
  rw [flatten_itemGroups] at hsegments
  exact hread.trans hsegments

theorem readDraft_inlineForm : readDraft (c.inlineForm as items) =
    .ok ⟨c.name, c.type, as.texts, items.map Item.text⟩ := by
  have hread := c.readDraft_line (sealed_inline c as) (List.forall_mem_nil _)
    (Item.isItem_of_mem_map items)
  rwa [Option.map_some, Option.getD_some, as.splitList_join, List.nil_append] at hread

theorem chunks_inlineForm : chunks (c.inlineForm as items) = [c.inlineForm as items] :=
  c.chunks_line (sealed_inline c as) (List.forall_mem_nil _) (Item.isItem_of_mem_map items)

def argumentLead (front : List Text) : Text :=
  Text.join [':'] [c.name, c.token, Text.join [','] front]

theorem argumentLead_append {front : List Text} (hn : front ≠ []) (a : Text) (more : List Text) :
    c.argumentLead front ++ ',' :: Text.join [':'] (a :: more) =
      Text.join [':'] ([c.name, c.token, Text.join [','] (front ++ [a])] ++ more) := by
  rw [argumentLead, Text.join_append hn (by simp)]
  cases more <;> simp [Text.join]

theorem splitTop_argumentLead {front : List Text} (hf : ∀ a ∈ front, IsEntry a) :
    Text.splitTop ':' (c.argumentLead front) = [c.name, c.token, Text.join [','] front] := by
  refine splitTop_join_segments (by simp) ?_
  simpa using ⟨c.isEntry_name.isSegment, c.isEntry_token.isSegment, isSegment_join hf⟩

theorem continues_argument {front rest : List Text} {a : Text} (hn : front ≠ [])
    (h : as.texts = front ++ a :: rest) : continues (c.argumentLead front) a = true := by
  have hfront : ∀ b ∈ front, IsEntry b := fun b hb => as.isEntry b (by simp [h, hb])
  have ha : IsEntry a := as.isEntry a (by simp [h])
  have hsplit : Text.splitTop ':' a = [a] :=
    Text.splitTop_of_shields (ha.sealed.shields_one (by simp))
  rw [continues, c.splitTop_argumentLead hfront, hsplit]
  rcases as.literal_or_value hn h with hl | ⟨ht, hi⟩
  · simp [ha.trim, hl]
  · have hkeyword : keywordOf c.token = c.token := by
      rw [keywordOf_word c.isWord_token.not_mem_parenthesis, c.isWord_token.trim]
    have htype : ColumnType.ofToken (keywordOf c.token) = .enum := hkeyword.symm ▸ ht
    have hvalues : splitList (Text.join [','] front) = front :=
      splitList_join_pieces fun b hb => (hfront b hb).isPiece
    have hnames : ∀ b ∈ front, namesModifier b = false := fun b hb =>
      as.namesModifier_eq_false b (by simp [h, hb])
    simpa [ha.trim, extendsEnum, htype, hvalues, hi] using .inr hnames

/-- Behind the last argument the first modifier stands where a piece has its type. -/
theorem continues_last {front : List Text} {a : Text} (hn : front ≠ [])
    (h : as.texts = front ++ [a])
    (hfirst : ∀ i ∈ items.head?, i.modifier = .foreign → Text.isLiteral a = true) :
    continues (c.argumentLead front) (Text.join [':'] (a :: (items.map Item.text).take 1)) =
      true := by
  cases items with
  | nil => exact c.continues_argument as hn h
  | cons i rest =>
    have hfront : ∀ b ∈ front, IsEntry b := fun b hb => as.isEntry b (by simp [h, hb])
    have ha : IsEntry a := as.isEntry a (by simp [h])
    have hsplit : Text.splitTop ':' (Text.join [':'] [a, i.text]) = [a, i.text] :=
      splitTop_join_segments (by simp) (by simpa using ⟨ha.isSegment, i.isItem.isEntry.isSegment⟩)
    have hforeign : Text.isLiteral a = true ∨
        ColumnType.ofToken (keywordOf i.text) = .custom (keywordOf i.text) := by
      rw [i.keywordOf_text, i.ofToken_keyword_iff]
      by_cases hm : i.modifier = .foreign
      · exact .inl (hfirst i rfl hm)
      · exact .inr hm
    change continues _ (Text.join [':'] [a, i.text]) = true
    rw [continues, c.splitTop_argumentLead hfront, hsplit]
    simpa [ha.trim, i.isItem.names] using hforeign

/-- The arguments behind some others are taken up one after another. -/
theorem grows_arguments {front between rest : List Text} (hn : front ≠ [])
    (h : as.texts = front ++ between ++ rest) :
    Grows (c.argumentLead front) between (c.argumentLead (front ++ between)) := by
  induction between generalizing front with
  | nil =>
    rw [List.append_nil]
    exact .done _
  | cons a others ih =>
    have ha : as.texts = front ++ a :: (others ++ rest) := by simp [h]
    have hnext : Grows (c.argumentLead (front ++ [a])) others
        (c.argumentLead (front ++ [a] ++ others)) := ih (by simp) (by simp [h])
    have hlead : c.argumentLead front ++ ',' :: a = c.argumentLead (front ++ [a]) :=
      c.argumentLead_append hn a []
    rw [← hlead, List.append_assoc] at hnext
    exact .piece (c.continues_argument as hn ha) hnext

section Chunk

variable (hfirst : ∀ i ∈ items.head?, i.modifier = .foreign →
  as.texts.length = 1 ∨ ∀ a ∈ as.texts.getLast?, Text.isLiteral a = true)

include hfirst

/-- All pieces up to the first modifier are taken up into one chunk. -/
theorem exists_grows_arguments : ∃ piece taken, (∀ p ∈ piece :: taken, IsPiece p) ∧
    Grows piece taken (Text.join [':']
      ([c.name, c.token, Text.join [','] as.texts] ++ (items.map Item.text).take 1)) := by
  obtain ⟨front, a, h⟩ : ∃ front a, as.texts = front ++ [a] :=
    ⟨_, _, (List.dropLast_append_getLast as.ne_nil).symm⟩
  have hentry : ∀ b ∈ front ++ [a], IsEntry b := h ▸ as.isEntry
  have hmore := isEntry_of_mem_first items
  -- The last argument and the first modifier share a piece, which a single argument shares with the
  -- name and the type as well.
  cases front with
  | nil =>
    refine ⟨_, [], ?_, .done _⟩
    simp only [List.forall_mem_cons, List.not_mem_nil, false_implies, implies_true, and_true]
    refine isPiece_join (by simp) (List.forall_mem_append.mpr ⟨?_, hmore⟩)
    simpa [h, Text.join] using ⟨c.isEntry_name, c.isEntry_token, hentry a (by simp)⟩
  | cons first between =>
    have hliteral : ∀ i ∈ items.head?, i.modifier = .foreign → Text.isLiteral a = true := by
      intro i hi hm
      rcases hfirst i hi hm with hl | hl
      · simp [h] at hl
      · exact hl a (by rw [h, List.getLast?_concat]; rfl)
    have hbetween : as.texts = [first] ++ between ++ [a] := by simp [h]
    have hgrown := c.grows_arguments as (List.cons_ne_nil first []) hbetween
    have hlast := Grows.piece (c.continues_last as items (by simp) h hliteral) (.done _)
    rw [c.argumentLead_append (by simp), ← h] at hlast
    refine ⟨_, _, ?_, hgrown.trans hlast⟩
    simp only [List.forall_mem_cons, List.forall_mem_append]
    refine ⟨isPiece_join (by simp) ?_, ?_, isPiece_join (by simp) ?_, by simp⟩
    · simpa [Text.join] using ⟨c.isEntry_name, c.isEntry_token, hentry first (by simp)⟩
    · exact fun b hb => (hentry b (by simp [hb])).isPiece
    · exact List.forall_mem_cons.mpr ⟨hentry a (by simp), hmore⟩

theorem chunks_segmentForm : chunks (c.segmentForm as items) = [c.segmentForm as items] := by
  have hsegments : ∀ t ∈ [c.name, c.token, Text.join [','] as.texts], IsSegment t := by
    simpa using ⟨c.isEntry_name.isSegment, c.isEntry_token.isSegment, isSegment_join as.isEntry⟩
  obtain ⟨piece, taken, hp, hg⟩ := c.exists_grows_arguments as items hfirst
  have hwhole := hg.trans (grows_modifiers hsegments (by simp) (Item.isItem_of_mem_map items))
  refine chunks_of_grows hwhole ?_
  rw [← List.cons_append, List.forall_mem_append]
  exact ⟨hp, isPiece_of_mem_others items⟩

end Chunk

end Stem

/-- Arguments in parentheses and arguments in a segment of their own mean the same. In the segment
a `foreign` behind the last of several arguments would be taken for the type of a field, unless the
argument is a literal. -/
theorem segment_and_inline_arguments_agree (policy : ModifierPolicy) (c : Stem)
    (as : Arguments c.type) (items : List Item)
    (hkey : (c.field items).settings.has .cascade = true → (c.field items).IsForeign)
    (hfirst : ∀ i ∈ items.head?, i.modifier = .foreign →
      as.texts.length = 1 ∨ ∀ a ∈ as.texts.getLast?, Text.isLiteral a = true) :
    parse policy (c.segmentForm as items) = .ok [c.fieldWith as items] ∧
      parse policy (c.inlineForm as items) = .ok [c.fieldWith as items] := by
  constructor
  · exact parse_of_chunks (c.chunks_segmentForm as items hfirst)
      (c.readField_of_readDraft policy (c.readDraft_segmentForm as items) hkey)
  · exact parse_of_chunks (c.chunks_inlineForm as items)
      (c.readField_of_readDraft policy (c.readDraft_inlineForm as items) hkey)

/-- Names and a quoted text with separators in it as the values of an enumeration. -/
theorem segment_and_inline_arguments_agree_status :
    let c : Stem := ⟨"status", "Enum", by decide, by decide⟩
    let as : Arguments c.type := ⟨["draft", "'a:b, c'", "published"], by simp, by decide,
      .inr (.inl ⟨by decide, by decide⟩)⟩
    let default : Item :=
      ⟨.default, "default", some "'draft'", by decide, by decide, by decide⟩
    let items := [default, .bare .nullable (by decide)]
    (((c.field items).settings.has .cascade = true → (c.field items).IsForeign) ∧
        ∀ i ∈ items.head?, i.modifier = .foreign →
          as.texts.length = 1 ∨ ∀ a ∈ as.texts.getLast?, Text.isLiteral a = true) ∧
      c.segmentForm as items = "status:Enum:draft,'a:b, c',published:default('draft'),nullable" ∧
      c.inlineForm as items = "status:Enum(draft,'a:b, c',published):default('draft'),nullable" ∧
      parse .reject (c.segmentForm as items) = .ok [c.fieldWith as items] ∧
      parse .reject (c.inlineForm as items) = .ok [c.fieldWith as items] := by
  intro c as default items
  have hkey : (c.field items).settings.has .cascade = true → (c.field items).IsForeign := by
    decide
  have hfirst : ∀ i ∈ items.head?, i.modifier = .foreign →
      as.texts.length = 1 ∨ ∀ a ∈ as.texts.getLast?, Text.isLiteral a = true := by
    simp [items, default]
  exact ⟨⟨hkey, hfirst⟩, rfl, rfl,
    segment_and_inline_arguments_agree .reject c as items hkey hfirst⟩

end Schema

end Migrations
