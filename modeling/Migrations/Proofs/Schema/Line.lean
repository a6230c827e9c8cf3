import Migrations.Proofs.Schema.Print
import Migrations.Proofs.Schema.Spelling

namespace Migrations.Schema

open Text (Sealed)

theorem chunks_of_grows {piece whole : Text} {taken : List Text} (h : Grows piece taken whole)
    (hp : ∀ p ∈ piece :: taken, IsPiece p) : chunks whole = [whole] := by
  refine h.chunks (Text.parts_of_closed fun p hm => ?_) fun p hm => ?_
  · exact ⟨(hp p hm).shields, (hp p hm).closed⟩
  · exact ⟨(hp p hm).trim, (hp p hm).ne_nil⟩

theorem parse_ok_iff_of_chunks {policy : ModifierPolicy} {chunk : Text} {fields : List Field}
    (hc : chunks chunk = [chunk]) :
    parse policy chunk = .ok fields ↔ ∃ f, readField policy chunk = .ok f ∧ fields = [f] := by
  rw [parse, hc, readFields_ok_iff]
  simp [List.forall₂_cons_left_iff]

theorem parse_of_chunks {policy : ModifierPolicy} {chunk : Text} {field : Field}
    (hc : chunks chunk = [chunk]) (hf : readField policy chunk = .ok field) :
    parse policy chunk = .ok [field] := (parse_ok_iff_of_chunks hc).mpr ⟨field, hf, rfl⟩

/-- Behind a name and a type, modifiers between commas belong to one chunk. -/
theorem chunks_join {entries items : List Text} (hl : 2 ≤ entries.length)
    (he : ∀ t ∈ entries, IsEntry t) (hi : ∀ t ∈ items, IsItem t) :
    chunks (Text.join [':'] (entries ++ (itemGroups items).map (Text.join [',']))) =
      [Text.join [':'] (entries ++ (itemGroups items).map (Text.join [',']))] := by
  have hfirst : ∀ t ∈ entries ++ items.take 1, IsEntry t :=
    List.forall_mem_append.mpr ⟨he, fun t ht => (hi t (List.mem_of_mem_take ht)).isEntry⟩
  have hothers : ∀ t ∈ items.tail, IsPiece t := fun t ht =>
    (hi t (List.mem_of_mem_tail ht)).isEntry.isPiece
  have hn : entries ≠ [] := List.ne_nil_of_length_pos (by omega)
  refine chunks_of_grows (grows_modifiers (fun t ht => (he t ht).isSegment) hl hi) ?_
  exact List.forall_mem_cons.mpr ⟨isPiece_join (by simp [hn]) hfirst, hothers⟩

def further (items : List Text) : Text :=
  ((itemGroups items).map (Text.join [','])).flatMap (':' :: ·)

theorem further_cases (items : List Text) :
    further items = [] ∨ ∃ back, further items = ':' :: back := by
  by_cases h : items = [] <;> simp [further, itemGroups, h]

namespace Item

theorem isItem_of_mem_map (items : List Item) : ∀ t ∈ items.map text, IsItem t := by
  rw [List.forall_mem_map]
  exact fun i _ => i.isItem

end Item

namespace Stem

variable (c : Stem)

/-- The modifiers of `lead` stand behind a colon each, those of `items` behind one colon. The type
may be called with its arguments. -/
def line (inline : Option Text) (lead items : List Text) : Text :=
  Text.join [':'] (c.name :: callText c.token inline ::
    (lead ++ (itemGroups items).map (Text.join [','])))

theorem line_eq (inline : Option Text) (lead items : List Text) : c.line inline lead items =
    c.name ++ ':' :: callText c.token inline ++ lead.flatMap (':' :: ·) ++ further items := by
  rw [line, Text.join_cons_flatMap]
  simp [further]

section Line

variable {inline : Option Text} {lead items : List Text}
  (hinline : ∀ text ∈ inline, Sealed ('(' :: text ++ [')'])) (hl : ∀ t ∈ lead, IsItem t)
  (hi : ∀ t ∈ items, IsItem t)

include hinline hl hi

theorem readDraft_line : readDraft (c.line inline lead items) =
    .ok ⟨c.name, c.type, (inline.map splitList).getD [], lead ++ items⟩ := by
  have hg : ∀ g ∈ lead.map ([·]) ++ itemGroups items, g ≠ [] ∧ ∀ t ∈ g, IsItem t := by
    rw [List.forall_mem_append, List.forall_mem_map]
    exact ⟨fun t ht => by simpa using hl t ht, forall_mem_itemGroups hi⟩
  have hread := readDraft_written c.isWord_name c.name_ne_nil c.isWord_token c.token_ne_nil
    hinline hg
  have hsingle : (lead.map ([·])).map (Text.join [',']) = lead := by
    rw [List.map_map]
    exact List.map_id lead
  rw [List.map_append, hsingle, List.flatten_append, flatten_itemGroups,
    ← List.flatMap_def, List.flatMap_singleton'] at hread
  exact hread

theorem chunks_line : chunks (c.line inline lead items) = [c.line inline lead items] := by
  have he : ∀ t ∈ c.name :: callText c.token inline :: lead, IsEntry t := by
    simp only [List.forall_mem_cons]
    exact ⟨c.isEntry_name, isEntry_callText c.isWord_token c.token_ne_nil hinline,
      fun t ht => (hl t ht).isEntry⟩
  exact chunks_join (by simp) he hi

end Line

/-- A line is read as its name, type and arguments, with the settings that its modifiers lead to. -/
theorem parse_line (policy : ModifierPolicy) {inline : Option Text}
    (hinline : ∀ text ∈ inline, Sealed ('(' :: text ++ [')'])) (lead items : List Item)
    (hkey : (c.field (lead ++ items)).settings.has .cascade = true →
      (c.field (lead ++ items)).IsForeign) :
    parse policy (c.line inline (lead.map Item.text) (items.map Item.text)) =
      .ok [{ c.field (lead ++ items) with arguments := (inline.map splitList).getD [] }] := by
  have hl := Item.isItem_of_mem_map lead
  have hi := Item.isItem_of_mem_map items
  have hdraft := c.readDraft_line hinline hl hi
  rw [← List.map_append] at hdraft
  exact parse_of_chunks (c.chunks_line hinline hl hi) (c.readField_of_readDraft policy hdraft hkey)

end Stem

end Migrations.Schema
