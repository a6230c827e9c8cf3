import Migrations.Proofs.Schema.Chunk

namespace Migrations

def Error.withChunk (chunk : Text) : Error → Error
  | malformedField index _ fault => malformedField index chunk fault
  | error => error

namespace Schema

open Text (Place)

def segments (t : Text) : List Text := (Text.splitTop ':' t).map Text.trim

theorem segments_ne_nil (t : Text) : segments t ≠ [] := by
  simp [segments, Text.splitTop_ne_nil]

theorem segments_append_blank {r : Text} (hr : ∀ c ∈ r, Text.isBlank c = true) (t : Text) :
    segments (t ++ r) = segments t := by
  obtain ⟨front, last, ht⟩ := Text.exists_splitTop ':' t
  rw [segments, Text.splitTop_append_blank isPlain_colon (by decide) hr ht, segments, ht]
  simp [Text.trim_append_right hr]

theorem segments_blank_append {l : Text} (hl : ∀ c ∈ l, Text.isBlank c = true) (t : Text) :
    segments (l ++ t) = segments t := by
  obtain ⟨first, rest, ht⟩ := List.exists_cons_of_ne_nil (Text.splitTop_ne_nil ':' t)
  rw [segments, Text.splitTop_blank_append (by decide) hl ht, segments, ht]
  simp [Text.trim_append_left hl]

theorem segments_trim (t : Text) : segments (Text.trim t) = segments t := by
  obtain ⟨l, r, ht, hl, hr⟩ := Text.exists_trim t
  conv_rhs => rw [ht, segments_blank_append hl, segments_append_blank hr]

theorem segments_append_colon {t : Text} (ht : Place.top.after t = .top) (u : Text) :
    segments (t ++ ':' :: u) = segments t ++ segments u := by
  obtain ⟨front, last, hs⟩ := Text.exists_splitTop ':' t
  have hu : Text.splitFrom ':' (Place.top.after t) (':' :: u) = [] :: Text.splitTop ':' u := by
    simp [ht, Text.splitFrom, Text.splitTop]
  rw [segments, Text.splitTop_glue isPlain_colon hs hu, segments, hs, segments]
  simp

/-- A comma joins the last segment in front of it and the first one behind it. -/
theorem segments_append_comma {t u last first : Text} {front rest : List Text}
    (hc : Place.top.after t = .top) (ht : Text.trim t = t) (hu : Text.trim u = u)
    (hs : segments t = front ++ [last]) (hr : segments u = first :: rest) :
    segments (t ++ ',' :: u) = front ++ (last ++ ',' :: first) :: rest := by
  obtain ⟨before, lead, hsplit⟩ := Text.exists_splitTop ':' t
  obtain ⟨next, after, hnext⟩ := List.exists_cons_of_ne_nil (Text.splitTop_ne_nil ':' u)
  have hglue : Text.splitFrom ':' (Place.top.after t) (',' :: u) = (',' :: next) :: after := by
    rw [hc, Text.splitFrom, if_neg (by simp), Text.step_mark isPlain_comma]
    exact congrArg (Text.consHead ',') hnext
  -- The comma keeps blanks beside it, but the trimmed texts have none there.
  have hlead : Text.trim lead = Text.trimLeft lead := by
    have hjoin := Text.join_splitFrom ':' .top t
    rw [← Text.splitTop, hsplit, Text.join_around, List.flatMap_nil, List.append_nil] at hjoin
    exact Text.trim_eq_trimLeft (by rw [hjoin, ht])
  have htail : Text.trim next = Text.trimRight next := by
    have hjoin := Text.join_splitFrom ':' .top u
    rw [← Text.splitTop, hnext, Text.join_cons_flatMap] at hjoin
    exact Text.trim_eq_trimRight (by rw [hjoin, hu])
  rw [segments, hsplit, List.map_append, List.map_singleton] at hs
  obtain ⟨rfl, hl⟩ := List.append_inj' hs rfl
  rw [segments, hnext, List.map_cons, List.cons.injEq] at hr
  obtain ⟨rfl, rfl⟩ := hr
  obtain rfl : Text.trim lead = last := by simpa using hl
  rw [segments, Text.splitTop_glue isPlain_colon hsplit hglue, List.map_append, List.map_cons,
    Text.trim_append_cons (by decide), hlead, htail]

theorem closed_iff_segments {t : Text} :
    Place.top.after t = .top ↔ ∀ s ∈ segments t, Place.top.after s = .top := by
  induction t using Text.splitTop_induction ':' with
  | one t h => simp [segments, Text.splitTop_of_shields h, Text.closed_trim_iff]
  | more first rest h hc ih =>
    rw [segments_append_colon hc, List.forall_mem_append, ← ih, segments,
      Text.splitTop_of_shields h, List.map_singleton, List.forall_mem_singleton,
      Text.closed_trim_iff, Place.after_append, hc, Place.after_cons, Text.step_mark isPlain_colon]
    simp

theorem isBalanced_iff_segments {t : Text} :
    Text.isBalanced t = true ↔ ∀ s ∈ segments t, Text.isBalanced s = true := by
  induction t using Text.splitTop_induction ':' with
  | one t h => simp [segments, Text.splitTop_of_shields h, Text.isBalanced_trim]
  | more first rest h hc ih =>
    rw [segments_append_colon hc, List.forall_mem_append, ← ih, segments,
      Text.splitTop_of_shields h, List.map_singleton, List.forall_mem_singleton,
      Text.isBalanced_trim, Text.isBalanced_iff, Text.isBalanced_iff, Text.isBalanced_iff,
      Text.shields_append, Place.after_append, hc, Text.shields_cons, Place.after_cons,
      Text.step_mark isPlain_colon]
    simp [and_assoc]

theorem extendsEnum_map_trim (parts : List Text) (word : Text) :
    extendsEnum (parts.map Text.trim) word = extendsEnum parts word := by
  match parts with
  | [] | [_] | [_, _] | _ :: _ :: _ :: _ :: _ => rfl
  | [name, type, values] =>
    simp only [List.map_cons, List.map_nil, extendsEnum, keywordOf_trim, splitList_trim]

theorem continues_eq (chunk piece : Text) : continues chunk piece =
    if (segments chunk).length ≤ 2 then false
    else
      match segments piece with
      | [] => false
      | [word] => Text.isLiteral word || namesModifier word || extendsEnum (segments chunk) word
      | first :: second :: _ =>
        Text.isLiteral first ||
          (namesModifier second &&
            ColumnType.ofToken (keywordOf second) = .custom (keywordOf second)) := by
  unfold continues segments
  rcases Text.splitTop ':' piece with _ | ⟨first, _ | ⟨second, rest⟩⟩ <;>
    simp only [List.map_cons, List.map_nil, List.length_map, extendsEnum_map_trim, keywordOf_trim,
      namesModifier]

theorem continues_congr {chunk chunk' piece piece' : Text}
    (hc : segments chunk = segments chunk') (hp : segments piece = segments piece') :
    continues chunk piece = continues chunk' piece' := by
  rw [continues_eq, continues_eq, hc, hp]

theorem readDraft_congr {t u : Text} (h : segments t = segments u) : readDraft t = readDraft u := by
  have hb : Text.isBalanced t = Text.isBalanced u := by
    rw [Bool.eq_iff_iff, isBalanced_iff_segments, h, isBalanced_iff_segments]
  unfold segments at h
  unfold readDraft
  rw [hb, h]

theorem readField_congr (policy : ModifierPolicy) {t u : Text} (h : segments t = segments u) :
    readField policy t = readField policy u := by
  rw [readField, readField, readDraft_congr h]

/-- The trimmed texts are the same but for blanks beside their free colons. -/
structure Alike (t u : Text) : Prop where
  segments : segments t = segments u
  trim : Text.trim t = t
  trim' : Text.trim u = u

theorem Alike.closed {t u : Text} (h : Alike t u) (ht : Place.top.after t = .top) :
    Place.top.after u = .top := by
  rw [closed_iff_segments, ← h.segments]
  exact closed_iff_segments.mp ht

theorem trim_append_comma {t u : Text} (ht : Text.trim t = t) (hu : Text.trim u = u) :
    Text.trim (t ++ ',' :: u) = t ++ ',' :: u := by
  rw [Text.trim_append_cons (by decide), Text.trimLeft_eq_self ht, Text.trimRight_eq_self hu]

theorem Alike.comma {t u t' u' : Text} (h : Alike t u) (h' : Alike t' u')
    (hc : Place.top.after t = .top) : Alike (t ++ ',' :: t') (u ++ ',' :: u') := by
  obtain ⟨front, last, hs⟩ := (List.eq_nil_or_concat _).resolve_left (segments_ne_nil t)
  obtain ⟨first, rest, hr⟩ := List.exists_cons_of_ne_nil (segments_ne_nil t')
  rw [List.concat_eq_append] at hs
  refine ⟨?_, trim_append_comma h.trim h'.trim, trim_append_comma h.trim' h'.trim'⟩
  rw [segments_append_comma hc h.trim h'.trim hs hr, segments_append_comma (h.closed hc) h.trim'
    h'.trim' (h.segments ▸ hs) (h'.segments ▸ hr)]

/-- Pieces that are alike are gathered into chunks that are alike. -/
theorem forall₂_gather {chunk chunk' : Text} {pieces pieces' : List Text}
    (h : Alike chunk chunk') (hs : List.Forall₂ Alike pieces pieces')
    (hc : ∀ t ∈ (chunk :: pieces).dropLast, Place.top.after t = .top) :
    List.Forall₂ Alike (gather chunk pieces) (gather chunk' pieces') := by
  induction hs generalizing chunk chunk' with
  | nil => exact .cons h .nil
  | @cons piece piece' rest rest' hp hr ih =>
    rw [List.dropLast_cons_of_ne_nil (by simp), List.forall_mem_cons] at hc
    rw [gather, gather, ← continues_congr h.segments hp.segments]
    split
    · refine ih (h.comma hp hc.1) ?_
      cases rest with
      | nil => simp
      | cons next others =>
        rw [List.dropLast_cons_of_ne_nil (by simp), List.forall_mem_cons] at hc ⊢
        refine ⟨?_, hc.2.2⟩
        rw [Place.after_append, hc.1, Place.after_cons, Text.step_mark isPlain_comma, hc.2.1]
    · exact .cons h (ih hp hc.2)

theorem forall₂_chunks {s s' : Text} (h : List.Forall₂ Alike (splitList s) (splitList s')) :
    List.Forall₂ Alike (chunks s) (chunks s') := by
  have hclosed := (parts_splitList s).closed
  unfold chunks
  generalize splitList s = pieces at h hclosed ⊢
  generalize splitList s' = pieces' at h ⊢
  cases h with
  | nil => exact .nil
  | cons hp hr => exact forall₂_gather hp hr hclosed

theorem withChunk_toError (refusal : Refusal) (index : Nat) (chunk other : Text) :
    (refusal.toError index chunk).withChunk other = refusal.toError index other := by
  cases refusal <;> rfl

/-- Chunks that are alike have the same fields, or the same error about them. -/
theorem readFields_alike (policy : ModifierPolicy) {wholes wholes' : List Text}
    (h : List.Forall₂ Alike wholes wholes') (index : Nat) :
    (∀ fields, readFields policy index wholes = .ok fields →
        readFields policy index wholes' = .ok fields) ∧
      ∀ e, readFields policy index wholes = .error e →
        ∃ chunk, readFields policy index wholes' = .error (e.withChunk chunk) := by
  induction h generalizing index with
  | nil => simp [readFields]
  | @cons chunk chunk' rest rest' hc hr ih =>
    rw [readFields, readFields, ← readField_congr policy hc.segments]
    cases readField policy chunk with
    | error refusal =>
      simp only [reduceCtorEq, false_implies, implies_true, true_and, Except.error.injEq]
      rintro e rfl
      exact ⟨chunk', by rw [withChunk_toError]⟩
    | ok field =>
      obtain ⟨hok, herror⟩ := ih (index + 1)
      cases hread : readFields policy (index + 1) rest with
      | ok fields => simp [hok fields hread, Except.map]
      | error e =>
        obtain ⟨other, ho⟩ := herror e hread
        simp only [ho, Except.map, reduceCtorEq, false_implies, implies_true, true_and,
          Except.error.injEq]
        rintro e rfl
        exact ⟨other, rfl⟩

/-- Schemas of alike pieces have the same fields, or the same error about a chunk. -/
theorem parse_alike (policy : ModifierPolicy) {s s' : Text}
    (h : List.Forall₂ Alike (splitList s) (splitList s')) :
    (∀ fields, parse policy s = .ok fields → parse policy s' = .ok fields) ∧
      ∀ e, parse policy s = .error e → ∃ chunk, parse policy s' = .error (e.withChunk chunk) :=
  readFields_alike policy (forall₂_chunks h) 1

def IsGap (t : Text) : Prop := ∀ c ∈ t, c = ',' ∨ Text.isBlank c = true

instance (t : Text) : Decidable (IsGap t) := List.decidableBAll _ t

theorem splitList_gap_append {gap : Text} (hg : IsGap gap) (t : Text) :
    splitList (gap ++ t) = splitList t := by
  induction gap with
  | nil => rfl
  | cons c cs ih =>
    obtain ⟨hc, hcs⟩ := List.forall_mem_cons.mp hg
    rw [← ih hcs]
    rcases hc with rfl | hc
    · exact splitList_append (t := []) rfl _
    · exact splitList_blank_append (l := [c]) (by simpa using hc) _

/-- A gap with a comma in it separates as a single comma does. -/
theorem splitList_gap {front gap : Text} (hf : Place.top.after front = .top) (hg : IsGap gap)
    (hm : ',' ∈ gap) (back : Text) :
    splitList (front ++ gap ++ back) = splitList (front ++ ',' :: back) := by
  obtain ⟨blanks, rest, rfl, hn⟩ := List.eq_append_cons_of_mem hm
  have hb : ∀ c ∈ blanks, Text.isBlank c = true := by
    intro c hc
    rcases hg c (by simp [hc]) with rfl | h
    · contradiction
    · exact h
  have hr : IsGap rest := fun c hc => hg c (by simp [hc])
  have hclosed : Place.top.after (front ++ blanks) = .top := by
    rw [Place.after_append, hf, Text.after_blank rfl hb]
  rw [← List.append_assoc, List.append_assoc _ _ back, List.cons_append, splitList_append hclosed,
    splitList_append_blank hb, splitList_gap_append hr, splitList_append hf]

/-- Only the piece around a free colon depends on what stands beside it. -/
theorem splitList_colon {front back last first : Text} {before after : List Text}
    (hf : Place.top.after front = .top) (hs : Text.splitTop ',' front = before ++ [last])
    (ht : Text.splitTop ',' back = first :: after) :
    splitList (front ++ ':' :: back) = (before.map Text.trim).filter (· ≠ []) ++
      Text.trim (last ++ ':' :: first) :: (after.map Text.trim).filter (· ≠ []) := by
  have hcolon : Text.splitFrom ',' (Place.top.after front) (':' :: back) =
      (':' :: first) :: after := by
    rw [hf, Text.splitFrom, if_neg (by simp), Text.step_mark isPlain_colon]
    exact congrArg (Text.consHead ':') ht
  have hn : Text.trim (last ++ ':' :: first) ≠ [] := by
    simp [Text.trim_append_cons (c := ':') (by decide)]
  rw [splitList, Text.splitTop_glue isPlain_comma hs hcolon]
  simp [hn]

theorem forall₂_trimmed (parts : List Text) : List.Forall₂ Alike
    ((parts.map Text.trim).filter (· ≠ [])) ((parts.map Text.trim).filter (· ≠ [])) := by
  refine List.forall₂_same.mpr fun t ht => ?_
  obtain ⟨part, _, rfl⟩ := List.mem_map.mp (List.mem_of_mem_filter ht)
  exact ⟨rfl, Text.trim_trim part, Text.trim_trim part⟩

/-- Blanks beside a free colon leave all pieces alike. -/
theorem forall₂_splitList_colon {front l r : Text} (hf : Place.top.after front = .top)
    (hl : ∀ c ∈ l, Text.isBlank c = true) (hr : ∀ c ∈ r, Text.isBlank c = true) (back : Text) :
    List.Forall₂ Alike (splitList (front ++ ':' :: back))
      (splitList (front ++ l ++ ':' :: (r ++ back))) := by
  obtain ⟨before, last, hs⟩ := Text.exists_splitTop ',' front
  obtain ⟨first, after, ht⟩ := List.exists_cons_of_ne_nil (Text.splitTop_ne_nil ',' back)
  have hclosed {t : Text} (h : Place.top.after t = .top) : Place.top.after (t ++ l) = .top := by
    rw [Place.after_append, h, Text.after_blank rfl hl]
  have hlast : Place.top.after last = .top :=
    Text.closed_of_mem_splitTop isPlain_comma hf last (by simp [hs])
  rw [splitList_colon hf hs ht, splitList_colon (hclosed hf)
    (Text.splitTop_append_blank isPlain_comma (by decide) hl hs)
    (Text.splitTop_blank_append (by decide) hr ht)]
  refine List.rel_append (forall₂_trimmed before) (.cons ?_ (forall₂_trimmed after))
  refine ⟨?_, Text.trim_trim _, Text.trim_trim _⟩
  rw [segments_trim, segments_trim, segments_append_colon hlast,
    segments_append_colon (hclosed hlast), segments_append_blank hl, segments_blank_append hr]

theorem forall₂_trim_back {front : Text} (hf : Place.top.after front = .top) (t : Text) :
    List.Forall₂ Alike (splitList (front ++ ':' :: Text.trim t))
      (splitList (front ++ ':' :: t)) := by
  obtain ⟨l, r, ht, hl, hr⟩ := Text.exists_trim t
  have h := forall₂_splitList_colon hf (l := []) (by simp) hl (Text.trim t)
  rw [List.append_nil] at h
  have he : front ++ ':' :: t = front ++ ':' :: (l ++ Text.trim t) ++ r := by
    conv_lhs => rw [ht]
    simp
  rwa [he, splitList_append_blank hr]

theorem forall₂_trim_front {t : Text} (hc : Place.top.after t = .top) (back : Text) :
    List.Forall₂ Alike (splitList (Text.trim t ++ ':' :: back)) (splitList (t ++ ':' :: back)) := by
  obtain ⟨l, r, ht, hl, hr⟩ := Text.exists_trim t
  have h := forall₂_splitList_colon (Text.closed_trim hc) hr (r := []) (by simp) back
  rw [List.nil_append] at h
  have he : t ++ ':' :: back = l ++ (Text.trim t ++ r ++ ':' :: back) := by
    conv_lhs => rw [ht]
    simp
  rwa [he, splitList_blank_append hl]

/-- Layout does not matter. Any gap with a comma in it may stand for a free comma, which leaves
fields and errors as they are. Blanks beside a free colon leave the fields as they are, and of an
error they change no more than the text of its chunk. -/
theorem layout_does_not_matter (policy : ModifierPolicy) {front : Text}
    (hf : Place.top.after front = .top) (back : Text) :
    (∀ gap, IsGap gap → ',' ∈ gap →
        parse policy (front ++ gap ++ back) = parse policy (front ++ ',' :: back)) ∧
      ∀ l r, (∀ c ∈ l ++ r, Text.isBlank c = true) →
        (∀ fields, parse policy (front ++ ':' :: back) = .ok fields →
            parse policy (front ++ l ++ ':' :: (r ++ back)) = .ok fields) ∧
          ∀ e, parse policy (front ++ ':' :: back) = .error e →
            ∃ chunk, parse policy (front ++ l ++ ':' :: (r ++ back)) =
              .error (e.withChunk chunk) := by
  constructor
  · intro gap hg hm
    rw [parse, parse, chunks, chunks, splitList_gap hf hg hm]
  · intro l r hlr
    obtain ⟨hl, hr⟩ := List.forall_mem_append.mp hlr
    exact parse_alike policy (forall₂_splitList_colon hf hl hr back)

/-- A gap of two lines, and a colon with blanks in front of a modifier that is refused. -/
theorem layout_does_not_matter_kind :
    let front : Text := "kind:enum:a"
    let back : Text := "unique(no), id:uuid"
    let fault : FieldFault := .notBoolean .unique "no"
    (Place.top.after front = .top ∧ IsGap " ,\n," ∧ ',' ∈ (" ,\n," : Text) ∧
        (∀ c ∈ (" " : Text) ++ ("\t " : Text), Text.isBlank c = true) ∧
        parse .reject (front ++ ':' :: back) =
          .error (.malformedField 1 "kind:enum:a:unique(no)" fault)) ∧
      parse .ignore "kind:enum:a ,\n,unique(no), id:uuid" =
        parse .ignore "kind:enum:a,unique(no), id:uuid" ∧
      ∃ chunk, parse .reject "kind:enum:a :\t unique(no), id:uuid" =
        .error (.malformedField 1 chunk fault) := by
  intro front back fault
  have hf : Place.top.after front = .top := by decide
  have hg : IsGap " ,\n," := by decide
  have hb : ∀ c ∈ (" " : Text) ++ ("\t " : Text), Text.isBlank c = true :=
    List.all_eq_true.mp rfl
  have he : parse .reject (front ++ ':' :: back) =
      .error (.malformedField 1 "kind:enum:a:unique(no)" fault) := by decide +kernel
  refine ⟨⟨hf, hg, by decide, hb, he⟩, ?_, ?_⟩
  · exact (layout_does_not_matter .ignore hf back).1 " ,\n," hg (by decide)
  · exact ((layout_does_not_matter .reject hf back).2 " " "\t " hb).2 _ he

end Schema

end Migrations
