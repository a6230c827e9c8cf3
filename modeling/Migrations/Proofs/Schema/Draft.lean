import Migrations.Proofs.Schema.Item
import Migrations.Schema.Parser

namespace Migrations.Schema

open Text (IsWord Place Sealed Shields)

/-- A text without blanks around it that shows no separator. -/
structure IsEntry (t : Text) : Prop where
  sealed : Sealed t
  trim : Text.trim t = t
  ne_nil : t ≠ []

structure IsItem (t : Text) : Prop where
  sealed : Sealed t
  trim : Text.trim t = t
  ne_nil : t ≠ []
  names : namesModifier t = true

instance (t : Text) : Decidable (IsItem t) :=
  decidable_of_iff (Sealed t ∧ Text.trim t = t ∧ t ≠ [] ∧ namesModifier t = true)
    ⟨fun ⟨h1, h2, h3, h4⟩ => ⟨h1, h2, h3, h4⟩, fun ⟨h1, h2, h3, h4⟩ => ⟨h1, h2, h3, h4⟩⟩

theorem IsItem.isEntry {t : Text} (h : IsItem t) : IsEntry t := ⟨h.sealed, h.trim, h.ne_nil⟩

/-- No literal is a modifier. -/
theorem namesModifier_of_isLiteral {t : Text} (ht : Text.trim t = t)
    (h : Text.isLiteral t = true) : namesModifier t = false := by
  cases hm : Modifier.ofKeyword? (keywordOf t) with
  | none => simp [namesModifier, hm]
  | some m =>
    obtain ⟨called, he⟩ := exists_keywordOf_append ht
    rw [he, isLiteral_append_of_ofKeyword? hm called] at h
    cases h

theorem IsItem.isLiteral {t : Text} (h : IsItem t) : Text.isLiteral t = false := by
  by_contra hl
  have hn := namesModifier_of_isLiteral h.trim (by simpa using hl)
  rw [h.names] at hn
  cases hn

theorem isEntry_of_isWord {t : Text} (h : IsWord t) (hn : t ≠ []) : IsEntry t :=
  ⟨h.sealed, h.trim, hn⟩

theorem isEntry_callText {word : Text} {value : Option Text} (hw : IsWord word) (hn : word ≠ [])
    (hv : ∀ text ∈ value, Sealed ('(' :: text ++ [')'])) : IsEntry (callText word value) :=
  ⟨sealed_callText hw hv, trim_callText hw hn, callText_ne_nil hn value⟩

/-- A text that commas may separate from others. -/
structure IsPiece (t : Text) : Prop where
  shields : Shields [','] .top t
  closed : Place.top.after t = .top
  trim : Text.trim t = t
  ne_nil : t ≠ []

theorem IsEntry.isPiece {t : Text} (h : IsEntry t) : IsPiece t :=
  ⟨h.sealed.shields_one (by simp), h.sealed.closed, h.trim, h.ne_nil⟩

/-- What colons separate is one piece. -/
theorem isPiece_join {entries : List Text} (hn : entries ≠ []) (h : ∀ t ∈ entries, IsEntry t) :
    IsPiece (Text.join [':'] entries) := by
  obtain ⟨hs, hc⟩ := Text.scan_join isPlain_colon (by simp) fun t ht =>
    ⟨(h t ht).isPiece.shields, (h t ht).isPiece.closed⟩
  exact ⟨hs, hc, Text.trim_join (by decide) fun t ht => ⟨(h t ht).trim, (h t ht).ne_nil⟩,
    Text.join_ne_nil [':'] hn fun t ht => (h t ht).ne_nil⟩

theorem splitList_join_pieces {pieces : List Text} (h : ∀ t ∈ pieces, IsPiece t) :
    splitList (Text.join [','] pieces) = pieces := by
  refine splitList_join (Text.parts_of_closed fun t ht => ?_) fun t ht => ?_
  · exact ⟨(h t ht).shields, (h t ht).closed⟩
  · exact ⟨(h t ht).trim, (h t ht).ne_nil⟩

/-- A text that colons may separate from others. -/
structure IsSegment (t : Text) : Prop where
  shields : Shields [':', ')'] .top t
  closed : Place.top.after t = .top
  trim : Text.trim t = t

theorem IsEntry.isSegment {t : Text} (h : IsEntry t) : IsSegment t :=
  ⟨h.sealed.shields.mono (by simp), h.sealed.closed, h.trim⟩

theorem IsSegment.isBalanced {t : Text} (h : IsSegment t) : Text.isBalanced t = true :=
  Text.isBalanced_iff.mpr ⟨h.shields.mono (by simp), h.closed⟩

/-- What commas separate is one segment. -/
theorem isSegment_join {entries : List Text} (h : ∀ t ∈ entries, IsEntry t) :
    IsSegment (Text.join [','] entries) := by
  obtain ⟨hs, hc⟩ := Text.scan_join isPlain_comma (by simp) fun t ht =>
    ⟨(h t ht).isSegment.shields, (h t ht).isSegment.closed⟩
  exact ⟨hs, hc, Text.trim_join (by decide) fun t ht => ⟨(h t ht).trim, (h t ht).ne_nil⟩⟩

theorem splitTop_join_segments {segments : List Text} (hn : segments ≠ [])
    (hs : ∀ t ∈ segments, IsSegment t) :
    Text.splitTop ':' (Text.join [':'] segments) = segments := by
  refine Text.splitTop_join (Text.parts_of_closed fun t ht => ?_) hn
  exact ⟨(hs t ht).shields.mono (by simp), (hs t ht).closed⟩

theorem isBalanced_join_segments {segments : List Text} (hs : ∀ t ∈ segments, IsSegment t) :
    Text.isBalanced (Text.join [':'] segments) = true := by
  rw [Text.isBalanced_iff]
  refine Text.scan_join isPlain_colon (by simp) fun t ht => ?_
  exact ⟨(hs t ht).shields.mono (by simp), (hs t ht).closed⟩

def itemGroups (items : List Text) : List (List Text) := if items = [] then [] else [items]

theorem flatten_itemGroups (items : List Text) : (itemGroups items).flatten = items := by
  unfold itemGroups
  split
  · rename_i he
    exact he.symm
  · exact List.append_nil _

theorem forall_mem_itemGroups {items : List Text} (h : ∀ t ∈ items, IsItem t) :
    ∀ g ∈ itemGroups items, g ≠ [] ∧ ∀ t ∈ g, IsItem t := by
  unfold itemGroups
  split
  · simp
  · rename_i hn
    simpa [hn] using h

theorem isSegment_of_groups {gs : List (List Text)} (hg : ∀ g ∈ gs, g ≠ [] ∧ ∀ t ∈ g, IsItem t) :
    ∀ t ∈ gs.map (Text.join [',']), IsSegment t := by
  rw [List.forall_mem_map]
  exact fun g hm => isSegment_join fun t ht => ((hg g hm).2 t ht).isEntry

theorem flatMap_splitList_groups {gs : List (List Text)}
    (hg : ∀ g ∈ gs, g ≠ [] ∧ ∀ t ∈ g, IsItem t) :
    (gs.map (Text.join [','])).flatMap splitList = gs.flatten := by
  have hsplit : ∀ g ∈ gs, splitList (Text.join [','] g) = g := fun g hm =>
    splitList_join_pieces fun t ht => ((hg g hm).2 t ht).isEntry.isPiece
  rw [List.flatMap_map, List.flatMap, List.map_congr_left hsplit, List.map_id']

/-- Segments of modifiers, each with at least one, leave no room for arguments. -/
theorem readSegments_items (name : Text) (type : ColumnType) (inline : List Text)
    {gs : List (List Text)} (hg : ∀ g ∈ gs, g ≠ [] ∧ ∀ t ∈ g, IsItem t) :
    readSegments name type inline (gs.map (Text.join [','])) =
      .ok ⟨name, type, inline, gs.flatten⟩ := by
  have hitems := flatMap_splitList_groups hg
  cases gs with
  | nil => rfl
  | cons g rest =>
    obtain ⟨hn, hi⟩ := hg g (by simp)
    obtain ⟨first, others, rfl⟩ := List.exists_cons_of_ne_nil hn
    have hsplit : splitList (Text.join [','] (first :: others)) = first :: others :=
      splitList_join_pieces fun t ht => (hi t ht).isEntry.isPiece
    have ha : areArguments type (first :: others) = false := by
      simp [areArguments, (hi first (by simp)).names]
    rw [List.map_cons] at hitems ⊢
    rw [readSegments, hsplit, ha, hitems]
    rfl

/-- A segment of arguments in front of segments of modifiers. -/
theorem readSegments_arguments (name : Text) {type : ColumnType} {arguments : List Text}
    (ha : areArguments type arguments = true)
    (hs : splitList (Text.join [','] arguments) = arguments) {gs : List (List Text)}
    (hg : ∀ g ∈ gs, g ≠ [] ∧ ∀ t ∈ g, IsItem t) :
    readSegments name type [] (Text.join [','] arguments :: gs.map (Text.join [','])) =
      .ok ⟨name, type, arguments, gs.flatten⟩ := by
  rw [readSegments, hs, ha, flatMap_splitList_groups hg]
  rfl

/-- A type that is not called has nothing to seal. -/
theorem sealed_uncalled : ∀ text ∈ (none : Option Text), Sealed ('(' :: text ++ [')']) := by
  simp

section Written

variable {name token : Text} {inline : Option Text} (hname : IsWord name) (hname' : name ≠ [])
  (htoken : IsWord token) (htoken' : token ≠ [])
  (hinline : ∀ text ∈ inline, Sealed ('(' :: text ++ [')']))

include hname hname' htoken htoken' hinline

/-- A name and a type, which may be called with its arguments, in front of other segments. -/
theorem readDraft_join {rest : List Text} (hr : ∀ t ∈ rest, IsSegment t) :
    readDraft (Text.join [':'] (name :: callText token inline :: rest)) =
      readSegments name (.ofToken token) ((inline.map splitList).getD []) rest := by
  have hs : ∀ t ∈ name :: callText token inline :: rest, IsSegment t := by
    simp only [List.forall_mem_cons]
    exact ⟨(isEntry_of_isWord hname hname').isSegment,
      (isEntry_callText htoken htoken' hinline).isSegment, hr⟩
  have htrim : (name :: callText token inline :: rest).map Text.trim =
      name :: callText token inline :: rest := by
    rw [List.map_congr_left (g := id) fun t ht => (hs t ht).trim, List.map_id]
  have hcall : splitCall? (callText token inline) = some (token, inline) :=
    splitCall?_callText htoken
  rw [readDraft, splitTop_join_segments (List.cons_ne_nil _ _) hs, htrim]
  simp only [isBalanced_join_segments hs, not_true_eq_false, if_false, hname', hcall, htoken',
    callText_ne_nil htoken' inline]

/-- A name, a type that may be called with its arguments, and segments of modifiers. -/
theorem readDraft_written {gs : List (List Text)} (hg : ∀ g ∈ gs, g ≠ [] ∧ ∀ t ∈ g, IsItem t) :
    readDraft (Text.join [':'] (name :: callText token inline :: gs.map (Text.join [',']))) =
      .ok ⟨name, .ofToken token, (inline.map splitList).getD [], gs.flatten⟩ := by
  rw [readDraft_join hname hname' htoken htoken' hinline (isSegment_of_groups hg)]
  exact readSegments_items name _ _ hg

end Written

/-- What is left to read of a field once its draft is known. -/
theorem readField_ok_iff {policy : ModifierPolicy} {chunk : Text} {d : Draft} {f : Field}
    (hd : readDraft chunk = .ok d) :
    readField policy chunk = .ok f ↔ ∃ settings, applyItems policy .empty d.items = .ok settings ∧
      Field.flaw? ⟨d.name, d.type, d.arguments, settings⟩ = none ∧
      ⟨d.name, d.type, d.arguments, settings⟩ = f := by
  rw [readField, hd]
  cases ha : applyItems policy .empty d.items with
  | error refusal => simp [ha]
  | ok settings =>
    cases hf : Field.flaw? ⟨d.name, d.type, d.arguments, settings⟩ <;> simp [ha, hf]

end Migrations.Schema
