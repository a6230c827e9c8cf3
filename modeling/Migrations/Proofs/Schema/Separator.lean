import Mathlib.Data.List.Chain
import Migrations.Proofs.Schema.Chunk
import Migrations.Proofs.Schema.Spelling

namespace Migrations.Schema

open Text (Sealed Shields Place)

inductive Separator where
  | comma
  | colon
  deriving DecidableEq

namespace Separator

def mark : Separator → Char
  | comma => ','
  | colon => ':'

def other : Separator → Separator
  | comma => colon
  | colon => comma

theorem isPlain_mark (s : Separator) : Text.IsPlain s.mark := by
  cases s
  · exact isPlain_comma
  · exact isPlain_colon

theorem mark_mem (s : Separator) : s.mark ∈ [',', ':', ')'] := by
  cases s <;> simp [mark]

theorem mark_other_ne (s : Separator) : s.other.mark ≠ s.mark := by
  cases s <;> decide

theorem eq_other_of_ne {s t : Separator} (h : t ≠ s) : t = s.other := by
  cases s <;> cases t <;> simp_all [other]

end Separator

def behind (rest : List (Separator × Text)) : Text := rest.flatMap fun (s, t) => s.mark :: t

def groups (s : Separator) (current : List Text) : List (Separator × Text) → List (List Text)
  | [] => [current]
  | (t, text) :: rest =>
    if t = s then current :: groups s [text] rest else groups s (current ++ [text]) rest

theorem flatten_groups (s : Separator) (current : List Text) (rest : List (Separator × Text)) :
    (groups s current rest).flatten = current ++ rest.map Prod.snd := by
  induction rest generalizing current with
  | nil => simp [groups]
  | cons entry rest ih =>
    unfold groups
    split <;> simp [ih]

theorem ne_nil_of_mem_groups {s : Separator} {current : List Text} (hn : current ≠ [])
    {rest : List (Separator × Text)} : ∀ g ∈ groups s current rest, g ≠ [] := by
  induction rest generalizing current with
  | nil => simpa [groups] using hn
  | cons entry rest ih =>
    unfold groups
    split
    · exact List.forall_mem_cons.mpr ⟨hn, ih (by simp)⟩
    · exact ih (by simp)

theorem exists_groups_eq (s : Separator) (current : List Text) (rest : List (Separator × Text)) :
    ∃ run more, groups s current rest = (current ++ run) :: more := by
  induction rest generalizing current with
  | nil => exact ⟨[], [], by simp [groups]⟩
  | cons entry rest ih =>
    unfold groups
    split
    · exact ⟨[], groups s [entry.2] rest, by simp⟩
    · obtain ⟨run, more, he⟩ := ih (current ++ [entry.2])
      exact ⟨entry.2 :: run, more, by simp [he]⟩

theorem behind_cons (s : Separator) (t : Text) (rest : List (Separator × Text)) :
    behind ((s, t) :: rest) = s.mark :: (t ++ behind rest) := by
  simp [behind]

theorem splitTop_behind {s : Separator} {current : List Text} (hn : current ≠ [])
    {rest : List (Separator × Text)} (hc : ∀ t ∈ current, Sealed t)
    (hr : ∀ entry ∈ rest, Sealed entry.2) :
    Text.splitTop s.mark (Text.join [s.other.mark] current ++ behind rest) =
      (groups s current rest).map (Text.join [s.other.mark]) := by
  have hscan {ts : List Text} (ht : ∀ t ∈ ts, Sealed t) :
      Shields [s.mark] .top (Text.join [s.other.mark] ts) ∧
        Place.top.after (Text.join [s.other.mark] ts) = .top :=
    Text.scan_join s.other.isPlain_mark (by simp [s.mark_other_ne]) fun t hm =>
      ⟨(ht t hm).shields_one s.mark_mem, (ht t hm).closed⟩
  induction rest generalizing current with
  | nil =>
    simp only [behind, List.flatMap_nil, List.append_nil, groups, List.map_cons, List.map_nil]
    exact Text.splitTop_of_shields (hscan hc).1
  | cons entry rest ih =>
    obtain ⟨t, text⟩ := entry
    obtain ⟨ht, hr⟩ := List.forall_mem_cons.mp hr
    rw [behind_cons, groups]
    split
    · rename_i he
      have hi := ih (List.cons_ne_nil text []) (by simpa using ht) hr
      rw [he, Text.splitTop_append (hscan hc).1 (hscan hc).2, List.map_cons, ← hi]
      rfl
    · rename_i he
      have hi := ih (List.append_ne_nil_of_left_ne_nil hn [text])
        (List.forall_mem_append.mpr ⟨hc, by simpa using ht⟩) hr
      rw [← hi, Text.join_append hn (by simp), Separator.eq_other_of_ne he]
      simp [Text.join]

def NoType (t : Text) : Prop := ColumnType.ofToken (keywordOf t) = .custom (keywordOf t)

/-- The items between two commas, which colons separate, have no type in second place. -/
def Follows (g : List Text) : Prop := ∀ t ∈ g[1]?, NoType t

theorem continues_join_iff {chunk : Text} (hc : 2 < (Text.splitTop ':' chunk).length)
    {g : List Text} (hn : g ≠ []) (hg : ∀ t ∈ g, IsItem t) :
    continues chunk (Text.join [':'] g) = true ↔ Follows g := by
  have hs : Text.splitTop ':' (Text.join [':'] g) = g :=
    splitTop_join_segments hn fun t ht => (hg t ht).isEntry.isSegment
  rw [continues, if_neg (by omega), hs]
  cases g with
  | nil => contradiction
  | cons first others =>
    have hf := hg first (by simp)
    cases others with
    | nil => simp [hf.trim, hf.names, Follows]
    | cons second rest =>
      have hm := hg second (by simp)
      simp [hf.trim, hf.isLiteral, hm.names, Follows, NoType]

/-- Groups of items are taken up into one chunk if all of them follow it. -/
theorem length_gather_iff {gs : List (List Text)}
    (hg : ∀ g ∈ gs, g ≠ [] ∧ ∀ t ∈ g, IsItem t) {chunk : Text}
    (hc : 2 < (Text.splitTop ':' chunk).length) :
    (gather chunk (gs.map (Text.join [':']))).length = 1 ↔ ∀ g ∈ gs, Follows g := by
  induction gs generalizing chunk with
  | nil => simp [gather]
  | cons g rest ih =>
    obtain ⟨⟨hn, hi⟩, hr⟩ := List.forall_mem_cons.mp hg
    have hf := continues_join_iff hc hn hi
    rw [List.map_cons, gather, List.forall_mem_cons]
    split
    · rename_i ht
      have hl := Text.length_splitTop_append ':' chunk (',' :: Text.join [':'] g)
      rw [ih hr (by omega)]
      simp [hf.mp ht]
    · rename_i ht
      have hl := List.length_pos_iff.mpr
        (gather_ne_nil (Text.join [':'] g) (rest.map (Text.join [':'])))
      have hnot : ¬Follows g := fun h => ht (hf.mpr h)
      simp only [List.length_cons, hnot, false_and, iff_false]
      omega

/-- No type stands behind a colon right after an item behind a comma. -/
def Keeps (x y : Separator × Text) : Prop := x.1 = .comma → y.1 = .colon → NoType y.2

theorem isChain_cons_colon {t : Text} {rest : List (Separator × Text)} :
    ((.colon, t) :: rest).IsChain Keeps ↔ rest.IsChain Keeps := by
  cases rest <;> simp [Keeps]

/-- The last item that was read, `last`, stands behind a comma if it is the only one of its
group. -/
theorem forall_follows_iff (last : Separator × Text) (current : List Text) (hn : current ≠ [])
    (hl : last.1 = .comma ↔ current.length = 1) (rest : List (Separator × Text)) :
    (∀ g ∈ groups .comma current rest, Follows g) ↔
      Follows current ∧ (last :: rest).IsChain Keeps := by
  induction rest generalizing last current with
  | nil => simp [groups]
  | cons entry rest ih =>
    obtain ⟨s, t⟩ := entry
    cases s with
    | comma =>
      have hi := ih (.comma, t) [t] (by simp) (by simp)
      have hf : Follows [t] := by simp [Follows]
      have hk : Keeps last (.comma, t) := by simp [Keeps]
      simp only [groups, if_true, List.forall_mem_cons, hi, hf, true_and, List.isChain_cons_cons,
        hk]
    | colon =>
      have hi := ih (.colon, t) (current ++ [t]) (by simp) (by simp [hn])
      have hk : Follows (current ++ [t]) ↔ Follows current ∧ Keeps last (.colon, t) := by
        cases current with
        | nil => contradiction
        | cons first others =>
          cases others with
          | nil => simp [Follows, Keeps, hl.mpr rfl]
          | cons second more =>
            have hne : last.1 ≠ .comma := fun he => by simpa using hl.mp he
            simp [Follows, Keeps, hne]
      simp only [groups, reduceCtorEq, if_false, hi, hk, List.isChain_cons_cons, and_assoc]

/-- All groups but the first. -/
theorem forall_tail_follows_iff (current : List Text) (rest : List (Separator × Text)) :
    (∀ g ∈ (groups .comma current rest).tail, Follows g) ↔ rest.IsChain Keeps := by
  induction rest generalizing current with
  | nil => simp [groups]
  | cons entry rest ih =>
    obtain ⟨s, t⟩ := entry
    cases s with
    | comma =>
      rw [groups, if_pos rfl, List.tail_cons,
        forall_follows_iff (.comma, t) [t] (by simp) (by simp)]
      simp [Follows]
    | colon =>
      rw [groups, if_neg (by decide), ih, isChain_cons_colon]

def texts (rest : List (Separator × Item)) : List (Separator × Text) :=
  rest.map fun entry => (entry.1, entry.2.text)

theorem isItem_of_mem_texts {rest : List (Separator × Item)} {t : Text}
    (h : t ∈ (texts rest).map Prod.snd) : IsItem t := by
  rw [texts, List.map_map] at h
  obtain ⟨entry, _, rfl⟩ := List.mem_map.mp h
  exact entry.2.isItem

theorem isChain_texts_iff (rest : List (Separator × Item)) :
    (texts rest).IsChain Keeps ↔
      rest.IsChain fun x y => ¬(x.1 = .comma ∧ y.1 = .colon ∧ y.2.modifier = .foreign) := by
  have hk : ∀ x y : Separator × Item, Keeps (x.1, x.2.text) (y.1, y.2.text) ↔
      ¬(x.1 = .comma ∧ y.1 = .colon ∧ y.2.modifier = .foreign) := by
    intro x y
    simp only [Keeps, NoType, y.2.keywordOf_text, y.2.ofToken_keyword_iff, not_and, ne_eq]
  rw [texts, List.isChain_map]
  simp only [hk]

namespace Stem

variable (c : Stem) (first : Item) (rest : List (Separator × Item))

/-- The first modifier stands behind a colon, each other one behind the separator that is chosen
for it. -/
def write : Text := c.name ++ ':' :: c.token ++ ':' :: first.text ++ behind (texts rest)

theorem write_eq_lead : c.write first rest =
    Text.join [':'] [c.name, c.token, first.text] ++ behind (texts rest) := by
  simp [write, Text.join]

theorem isEntry_of_mem :
    ∀ t ∈ [c.name, c.token, first.text] ++ (texts rest).map Prod.snd, IsEntry t := by
  rw [List.forall_mem_append]
  refine ⟨?_, fun t ht => (isItem_of_mem_texts ht).isEntry⟩
  simpa using ⟨c.isEntry_name, c.isEntry_token, first.isItem.isEntry⟩

theorem sealed_texts : ∀ entry ∈ texts rest, Sealed entry.2 := by
  intro entry hm
  exact (isItem_of_mem_texts (List.mem_map_of_mem hm)).sealed

theorem splitTop_write : Text.splitTop ',' (c.write first rest) =
    (groups .comma [c.name, c.token, first.text] (texts rest)).map (Text.join [':']) := by
  have hs := c.isEntry_of_mem first rest
  rw [write_eq_lead]
  exact splitTop_behind (s := .comma) (by simp)
    (fun t ht => (hs t (List.mem_append_left _ ht)).sealed) (sealed_texts rest)

theorem join_splitTop_write :
    Text.join [','] (Text.splitTop ',' (c.write first rest)) = c.write first rest :=
  Text.join_splitFrom ',' .top _

theorem splitList_write :
    splitList (c.write first rest) = Text.splitTop ',' (c.write first rest) := by
  have hpieces : ∀ piece ∈ Text.splitTop ',' (c.write first rest), IsPiece piece := by
    intro piece hp
    rw [splitTop_write] at hp
    obtain ⟨g, hg, rfl⟩ := List.mem_map.mp hp
    refine isPiece_join (ne_nil_of_mem_groups (by simp) g hg) fun t ht => ?_
    have hm := List.mem_flatten.mpr ⟨g, hg, ht⟩
    rw [flatten_groups] at hm
    exact c.isEntry_of_mem first rest t hm
  have hsplit := splitList_join_pieces hpieces
  rwa [join_splitTop_write] at hsplit

theorem join_segments : Text.join [':'] (c.name :: c.token ::
    (groups .colon [first.text] (texts rest)).map (Text.join [','])) = c.write first rest := by
  have hsplit : Text.splitTop ':' (c.write first rest) = c.name :: c.token ::
      (groups .colon [first.text] (texts rest)).map (Text.join [',']) := by
    have hw : c.write first rest = Text.join [','] [c.name] ++
        behind ((.colon, c.token) :: (.colon, first.text) :: texts rest) := by
      simp [write, behind_cons, Text.join, Separator.mark]
    rw [hw]
    refine splitTop_behind (s := .colon) (by simp) (by simpa using c.isWord_name.sealed) ?_
    simp only [List.forall_mem_cons]
    exact ⟨c.isWord_token.sealed, first.isItem.sealed, sealed_texts rest⟩
  rw [← hsplit]
  exact Text.join_splitFrom ':' .top _

theorem readField_write (policy : ModifierPolicy)
    (hkey : (c.field (first :: rest.map Prod.snd)).settings.has .cascade = true →
      (c.field (first :: rest.map Prod.snd)).IsForeign) :
    readField policy (c.write first rest) = .ok (c.field (first :: rest.map Prod.snd)) := by
  rw [← join_segments]
  refine c.readField_items policy (ne_nil_of_mem_groups (by simp)) ?_ hkey
  simp [flatten_groups, texts]

/-- The field is one chunk as long as no comma is followed by an item, a colon and `foreign`. -/
theorem length_chunks_write_iff :
    (chunks (c.write first rest)).length = 1 ↔ (texts rest).IsChain Keeps := by
  obtain ⟨run, more, hg⟩ := exists_groups_eq .comma [c.name, c.token, first.text] (texts rest)
  have hflat := flatten_groups .comma [c.name, c.token, first.text] (texts rest)
  have htail := forall_tail_follows_iff [c.name, c.token, first.text] (texts rest)
  rw [hg, List.flatten_cons, List.append_assoc, List.append_cancel_left_eq] at hflat
  rw [hg, List.tail_cons] at htail
  have hseg : 2 < (Text.splitTop ':'
      (Text.join [':'] ([c.name, c.token, first.text] ++ run))).length := by
    rw [splitTop_join_segments (by simp) fun t ht => ?_]
    · simp
    · have hm : t ∈ [c.name, c.token, first.text] ++ (texts rest).map Prod.snd := by
        rw [← hflat, ← List.append_assoc]
        exact List.mem_append_left _ ht
      exact (c.isEntry_of_mem first rest t hm).isSegment
  have hmore : ∀ g ∈ more, g ≠ [] ∧ ∀ t ∈ g, IsItem t := by
    intro g hm
    refine ⟨?_, fun t ht => ?_⟩
    · exact ne_nil_of_mem_groups (s := .comma) (by simp) g (hg ▸ List.mem_cons_of_mem _ hm)
    · have htexts : t ∈ (texts rest).map Prod.snd := by
        rw [← hflat]
        exact List.mem_append_right _ (List.mem_flatten.mpr ⟨g, hm, ht⟩)
      exact isItem_of_mem_texts htexts
  rw [chunks, splitList_write, splitTop_write, hg, List.map_cons, ← htail]
  exact length_gather_iff hmore hseg

end Stem

/-- Commas and colons between modifiers are interchangeable: a field has the same meaning with any
of them, unless `foreign` stands behind a colon and right after an item that stands behind a comma.
It is taken for a type there, and what is written is not one field. -/
theorem separators_are_interchangeable (policy : ModifierPolicy) (c : Stem) (first : Item)
    (rest : List (Separator × Item))
    (hkey : (c.field (first :: rest.map Prod.snd)).settings.has .cascade = true →
      (c.field (first :: rest.map Prod.snd)).IsForeign) :
    parse policy (c.write first rest) = .ok [c.field (first :: rest.map Prod.snd)] ↔
      rest.IsChain fun x y => ¬(x.1 = .comma ∧ y.1 = .colon ∧ y.2.modifier = .foreign) := by
  rw [← isChain_texts_iff, ← c.length_chunks_write_iff first rest, parse, readFields_ok_iff]
  constructor
  · intro h
    exact h.length_eq
  · intro h
    obtain ⟨chunk, hc⟩ := List.length_eq_one_iff.mp h
    have hwhole : chunk = c.write first rest := by
      have hj := join_chunks (c.write first rest)
      rwa [hc, c.splitList_write, c.join_splitTop_write] at hj
    rw [hc, hwhole, List.forall₂_cons]
    exact ⟨c.readField_write first rest policy hkey, .nil⟩

theorem separators_are_interchangeable_user_id :
    let c : Stem := ⟨"user_id", "INTEGER", by decide, by decide⟩
    let foreign : Item :=
      ⟨.foreign, "Foreign", some " 'a:b', c ", by decide, by decide, by decide⟩
    let unsigned : Item := .bare .unsigned (by decide)
    let cascade : Item := ⟨.cascade, "cascade", some "True", by decide, by decide, by decide⟩
    let items := [foreign, unsigned, cascade]
    ((c.field items).settings.has .cascade = true → (c.field items).IsForeign) ∧
      parse .reject (c.write foreign [(.comma, unsigned), (.colon, cascade)]) =
        .ok [c.field items] := by
  intro c foreign unsigned cascade items
  have hkey : (c.field items).settings.has .cascade = true → (c.field items).IsForeign :=
    fun _ => .inr rfl
  refine ⟨hkey, (separators_are_interchangeable .reject c foreign
    [(.comma, unsigned), (.colon, cascade)] hkey).mpr ?_⟩
  simp [cascade]

/-- The same modifiers once behind colons, and once with a comma in front of `nullable`, which then
names a column of its own. -/
theorem foreign_begins_field :
    let c : Stem := ⟨"user_id", "integer", by decide, by decide⟩
    let unsigned : Item := .bare .unsigned (by decide)
    let nullable : Item := .bare .nullable (by decide)
    let foreign : Item := .bare .foreign (by decide)
    parse .reject (c.write unsigned [(.colon, nullable), (.colon, foreign)]) =
        .ok [c.field [unsigned, nullable, foreign]] ∧
      c.write unsigned [(.comma, nullable), (.colon, foreign)] =
        "user_id:integer:unsigned,nullable:foreign" ∧
      parse .reject (c.write unsigned [(.comma, nullable), (.colon, foreign)]) =
        .ok [c.field [unsigned], .plain "nullable" .foreignKey] := by
  intro c unsigned nullable foreign
  refine ⟨?_, ?_, ?_⟩
  · decide +kernel
  · rfl
  · decide +kernel

end Migrations.Schema
