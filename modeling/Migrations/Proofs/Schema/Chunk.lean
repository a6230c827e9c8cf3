import Mathlib.Data.List.Forall2
import Migrations.Proofs.Schema.Item
import Migrations.Schema.Parser

namespace Migrations

def Error.atField (index : Nat) : Error → Error
  | malformedField _ chunk fault => malformedField index chunk fault
  | unsupportedModifier _ keyword => unsupportedModifier index keyword
  | error => error

namespace Schema

open Text (Parts Place Shields)

/-- The pieces continue a chunk one after another, and `whole` is what it becomes. -/
inductive Grows : Text → List Text → Text → Prop where
  | done (chunk : Text) : Grows chunk [] chunk
  | piece {chunk piece whole : Text} {rest : List Text} (continued : continues chunk piece = true)
      (more : Grows (chunk ++ ',' :: piece) rest whole) : Grows chunk (piece :: rest) whole

theorem Grows.join {chunk whole : Text} {pieces : List Text} (h : Grows chunk pieces whole) :
    whole = Text.join [','] (chunk :: pieces) := by
  induction h with
  | done chunk => rfl
  | piece _ _ ih => rw [ih, Text.join_glue]

theorem Grows.trans {chunk between whole : Text} {pieces others : List Text}
    (h : Grows chunk pieces between) (ho : Grows between others whole) :
    Grows chunk (pieces ++ others) whole := by
  induction h with
  | done chunk => exact ho
  | piece hc _ ih => exact .piece hc (ih ho)

/-- Pieces that continue a chunk are taken up before any others. -/
theorem Grows.gather {chunk whole : Text} {pieces : List Text} (h : Grows chunk pieces whole)
    (others : List Text) : gather chunk (pieces ++ others) = gather whole others := by
  induction h with
  | done chunk => rfl
  | piece hc _ ih => rw [List.cons_append, Schema.gather, if_pos hc, ih]

theorem gather_cons_of_not {chunk piece : Text} (h : continues chunk piece = false)
    (rest : List Text) : gather chunk (piece :: rest) = chunk :: gather piece rest := by
  simp [gather, h]

theorem gather_ne_nil (chunk : Text) (pieces : List Text) : gather chunk pieces ≠ [] := by
  induction pieces generalizing chunk with
  | nil => simp [gather]
  | cons piece rest ih =>
    unfold gather
    split
    · exact ih _
    · simp

/-- Gathering pieces loses nothing. -/
theorem join_gather (chunk : Text) (pieces : List Text) :
    Text.join [','] (gather chunk pieces) = Text.join [','] (chunk :: pieces) := by
  induction pieces generalizing chunk with
  | nil => rfl
  | cons piece rest ih =>
    unfold gather
    split
    · rw [ih, Text.join_glue]
    · rw [Text.join_cons (gather_ne_nil piece rest), ih, Text.join_cons (List.cons_ne_nil _ _)]

theorem join_chunks (schema : Text) :
    Text.join [','] (chunks schema) = Text.join [','] (splitList schema) := by
  unfold chunks
  split
  · rename_i h
    rw [h]
  · rename_i piece rest h
    rw [join_gather, h]

/-- A chunk grows as long as pieces continue it. -/
theorem exists_grows (chunk : Text) (pieces : List Text) :
    ∃ taken whole, Grows chunk taken whole ∧
      (pieces = taken ∨
        ∃ next rest, pieces = taken ++ next :: rest ∧ continues whole next = false) := by
  induction pieces generalizing chunk with
  | nil => exact ⟨[], chunk, .done chunk, .inl rfl⟩
  | cons piece rest ih =>
    cases hc : continues chunk piece with
    | false => exact ⟨[], chunk, .done chunk, .inr ⟨piece, rest, rfl, hc⟩⟩
    | true =>
      obtain ⟨taken, whole, hg, he⟩ := ih (chunk ++ ',' :: piece)
      refine ⟨piece :: taken, whole, .piece hc hg, ?_⟩
      rcases he with rfl | ⟨next, others, rfl, hn⟩
      · exact .inl rfl
      · exact .inr ⟨next, others, rfl, hn⟩

/-- Induction along the chunks of a schema: the last one takes up all pieces that are left, any
other one those before the first piece that does not continue it. -/
theorem gather_induction {motive : Text → List Text → List Text → Prop}
    (last : ∀ start taken whole, Grows start taken whole → motive start taken [whole])
    (more : ∀ start taken whole next rest, Grows start taken whole →
      continues whole next = false → motive next rest (gather next rest) →
      motive start (taken ++ next :: rest) (whole :: gather next rest))
    (start : Text) (pieces : List Text) : motive start pieces (gather start pieces) := by
  obtain ⟨taken, whole, hg, he⟩ := exists_grows start pieces
  rcases he with rfl | ⟨next, rest, he, hn⟩
  · have h := last start pieces whole hg
    have hw := hg.gather []
    rw [List.append_nil] at hw
    rwa [hw]
  · have hl : rest.length < pieces.length := by simp [he]; omega
    have h := more start taken whole next rest hg hn (gather_induction last more next rest)
    rwa [he, hg.gather, gather_cons_of_not hn]
termination_by pieces.length

/-- Every chunk has grown from neighbouring pieces. -/
theorem exists_grows_of_mem_gather {start : Text} {pieces : List Text} {chunk : Text}
    (h : chunk ∈ gather start pieces) :
    ∃ piece taken, Grows piece taken chunk ∧ (piece :: taken).Sublist (start :: pieces) := by
  revert h
  refine gather_induction (motive := fun start pieces wholes => chunk ∈ wholes →
    ∃ piece taken, Grows piece taken chunk ∧ (piece :: taken).Sublist (start :: pieces)) ?_ ?_
    start pieces
  · intro start taken whole hg h
    rw [List.mem_singleton] at h
    exact ⟨start, taken, h ▸ hg, List.Sublist.refl _⟩
  · intro start taken whole next rest hg _ ih h
    rcases List.mem_cons.mp h with rfl | h
    · exact ⟨start, taken, hg, by simp⟩
    · obtain ⟨piece, pieces, hp, hs⟩ := ih h
      exact ⟨piece, pieces, hp, hs.trans (.cons _ (List.sublist_append_right _ _))⟩

theorem exists_grows_of_mem_chunks {schema chunk : Text} (h : chunk ∈ chunks schema) :
    ∃ piece taken, Grows piece taken chunk ∧ (piece :: taken).Sublist (splitList schema) := by
  unfold chunks at h
  split at h
  · simp at h
  · rename_i piece rest hs
    rw [hs]
    exact exists_grows_of_mem_gather h

/-- A chunk that is continued has a segment after its type. -/
theorem two_lt_of_continues {chunk piece : Text} (h : continues chunk piece = true) :
    2 < (Text.splitTop ':' chunk).length := by
  by_contra hl
  have hs : (Text.splitTop ':' chunk).length ≤ 2 := by omega
  simp [continues, hs] at h

/-- Only what comes after the type of a chunk is changed by the pieces that continue it. -/
theorem Grows.take_splitTop {chunk whole : Text} {pieces : List Text}
    (h : Grows chunk pieces whole) :
    (Text.splitTop ':' whole).take 2 = (Text.splitTop ':' chunk).take 2 := by
  induction h with
  | done chunk => rfl
  | piece hc _ ih => rw [ih, Text.take_splitTop_append ':' _ (two_lt_of_continues hc)]

/-- Each chunk has grown from a piece that does not continue the chunk before it. -/
theorem isChain_gather (start : Text) (pieces : List Text) :
    (gather start pieces).IsChain fun chunk next =>
      ∃ piece taken, Grows piece taken next ∧ continues chunk piece = false := by
  have h : ∃ first taken others, gather start pieces = first :: others ∧ Grows start taken first ∧
      (first :: others).IsChain fun chunk next =>
        ∃ piece taken, Grows piece taken next ∧ continues chunk piece = false := by
    refine gather_induction (motive := fun start _ wholes => ∃ first taken others,
      wholes = first :: others ∧ Grows start taken first ∧
        (first :: others).IsChain fun chunk next =>
          ∃ piece taken, Grows piece taken next ∧ continues chunk piece = false) ?_ ?_ start pieces
    · intro start taken whole hg
      exact ⟨whole, taken, [], rfl, hg, .singleton whole⟩
    · rintro start taken whole next rest hg hn ⟨first, pieces, others, he, hf, hc⟩
      exact ⟨whole, taken, gather next rest, rfl, hg, he ▸ .cons_cons ⟨next, pieces, hf, hn⟩ hc⟩
  obtain ⟨first, taken, others, he, _, hc⟩ := h
  exact he ▸ hc

theorem isChain_chunks (schema : Text) :
    (chunks schema).IsChain fun chunk next =>
      ∃ piece taken, Grows piece taken next ∧ continues chunk piece = false := by
  unfold chunks
  split
  · exact .nil
  · exact isChain_gather _ _

/-- Pieces that form one chunk form it again when it is read on its own. -/
theorem Grows.chunks {piece whole : Text} {taken : List Text} (h : Grows piece taken whole)
    (hp : Parts ',' (piece :: taken))
    (ht : ∀ item ∈ piece :: taken, Text.trim item = item ∧ item ≠ []) :
    chunks whole = [whole] := by
  have hs : splitList whole = piece :: taken := by rw [h.join, splitList_join hp ht]
  have hg := h.gather []
  rw [List.append_nil] at hg
  simp only [Schema.chunks, hs, hg, Schema.gather]

theorem chunks_of_mem_chunks {schema chunk : Text} (h : chunk ∈ chunks schema) :
    chunks chunk = [chunk] := by
  obtain ⟨piece, taken, hg, hs⟩ := exists_grows_of_mem_chunks h
  refine hg.chunks ((parts_splitList schema).sublist hs) fun item hi => ?_
  exact ⟨trim_of_mem_splitList (hs.subset hi), ne_nil_of_mem_splitList (hs.subset hi)⟩

theorem readFields_ok_iff {policy : ModifierPolicy} (index : Nat) {wholes : List Text}
    {fields : List Field} :
    readFields policy index wholes = .ok fields ↔
      List.Forall₂ (fun chunk field => readField policy chunk = .ok field) wholes fields := by
  induction wholes generalizing index fields with
  | nil => cases fields <;> simp [readFields]
  | cons chunk rest ih =>
    cases hf : readField policy chunk with
    | error refusal => cases fields <;> simp [readFields, hf]
    | ok field =>
      cases hr : readFields policy (index + 1) rest with
      | error e => cases fields <;> simp [readFields, hf, hr, Except.map, ← ih (index + 1)]
      | ok others => cases fields <;> simp [readFields, hf, hr, Except.map, ← ih (index + 1)]

/-- The first bad chunk decides, and it is named by its number. -/
theorem readFields_error_iff {policy : ModifierPolicy} {index : Nat} {wholes : List Text}
    {e : Error} :
    readFields policy index wholes = .error e ↔
      ∃ front chunk back refusal, wholes = front ++ chunk :: back ∧
        (∀ before ∈ front, ∃ field, readField policy before = .ok field) ∧
        readField policy chunk = .error refusal ∧
        e = refusal.toError (index + front.length) chunk := by
  induction wholes generalizing index with
  | nil => simp [readFields]
  | cons first rest ih =>
    cases hf : readField policy first with
    | error refusal =>
      constructor
      · intro h
        have he : refusal.toError index first = e := by simpa [readFields, hf] using h
        exact ⟨[], first, rest, refusal, rfl, by simp, hf, by simp [he]⟩
      · rintro ⟨front, chunk, back, refusal', hs, hb, hr, rfl⟩
        cases front with
        | nil =>
          obtain ⟨rfl, rfl⟩ := List.cons.inj hs
          rw [hf] at hr
          cases hr
          simp [readFields, hf]
        | cons before others =>
          obtain ⟨rfl, _⟩ := List.cons.inj hs
          obtain ⟨field, hk⟩ := hb first (by simp)
          rw [hf] at hk
          cases hk
    | ok field =>
      have hstep : readFields policy index (first :: rest) = .error e ↔
          readFields policy (index + 1) rest = .error e := by
        simp only [readFields, hf]
        cases readFields policy (index + 1) rest <;> simp [Except.map]
      rw [hstep, ih]
      constructor
      · rintro ⟨front, chunk, back, refusal, rfl, hb, hr, rfl⟩
        refine ⟨first :: front, chunk, back, refusal, rfl, ?_, hr, ?_⟩
        · intro before hm
          rcases List.mem_cons.mp hm with rfl | hm
          · exact ⟨field, hf⟩
          · exact hb before hm
        · simp only [List.length_cons]
          congr 1
          omega
      · rintro ⟨front, chunk, back, refusal, hs, hb, hr, rfl⟩
        cases front with
        | nil =>
          obtain ⟨rfl, rfl⟩ := List.cons.inj hs
          rw [hf] at hr
          cases hr
        | cons before others =>
          obtain ⟨rfl, rfl⟩ := List.cons.inj hs
          refine ⟨others, chunk, back, refusal, rfl, fun b hm => hb b (by simp [hm]), hr, ?_⟩
          simp only [List.length_cons]
          congr 1
          omega

/-- A chunk that is read as a schema gives its field or its error, numbered as the first. -/
theorem parse_chunk {schema chunk : Text} (policy : ModifierPolicy) (h : chunk ∈ chunks schema) :
    parse policy chunk =
      match readField policy chunk with
      | .ok field => .ok [field]
      | .error refusal => .error (refusal.toError 1 chunk) := by
  rw [parse, chunks_of_mem_chunks h, readFields]
  cases readField policy chunk <;> rfl

theorem parse_chunk_ok_iff {schema chunk : Text} {policy : ModifierPolicy} {field : Field}
    (h : chunk ∈ chunks schema) :
    parse policy chunk = .ok [field] ↔ readField policy chunk = .ok field := by
  rw [parse_chunk policy h]
  cases readField policy chunk <;> simp

theorem exists_parse_chunk_iff {schema chunk : Text} (policy : ModifierPolicy)
    (h : chunk ∈ chunks schema) :
    (∃ fields, parse policy chunk = .ok fields) ↔ ∃ field, readField policy chunk = .ok field := by
  rw [parse_chunk policy h]
  cases readField policy chunk <;> simp

theorem atField_toError (refusal : Refusal) (i j : Nat) (chunk : Text) :
    (refusal.toError i chunk).atField j = refusal.toError j chunk := by
  cases refusal <;> rfl

theorem fieldIndex?_toError (refusal : Refusal) (i : Nat) (chunk : Text) :
    (refusal.toError i chunk).fieldIndex? = some i := by
  cases refusal <;> rfl

theorem forall₂_parse_iff {schema : Text} {policy : ModifierPolicy} {wholes : List Text}
    (h : ∀ chunk ∈ wholes, chunk ∈ chunks schema) (fields : List Field) :
    List.Forall₂ (fun chunk field => parse policy chunk = .ok [field]) wholes fields ↔
      List.Forall₂ (fun chunk field => readField policy chunk = .ok field) wholes fields := by
  induction wholes generalizing fields with
  | nil => simp
  | cons chunk rest ih =>
    have hc := h chunk (by simp)
    have hr := ih fun c hm => h c (by simp [hm])
    cases fields with
    | nil => simp
    | cons field others => simp only [List.forall₂_cons, parse_chunk_ok_iff hc, hr]

theorem exists_forall₂_iff {policy : ModifierPolicy} {wholes : List Text} :
    (∃ fields, List.Forall₂ (fun chunk field => readField policy chunk = .ok field) wholes fields) ↔
      ∀ chunk ∈ wholes, ∃ field, readField policy chunk = .ok field := by
  induction wholes with
  | nil => simp
  | cons chunk rest ih =>
    constructor
    · rintro ⟨fields, h⟩
      cases h with
      | cons hf hr =>
        intro c hm
        rcases List.mem_cons.mp hm with rfl | hm
        · exact ⟨_, hf⟩
        · exact ih.mp ⟨_, hr⟩ c hm
    · intro h
      obtain ⟨field, hf⟩ := h chunk (by simp)
      obtain ⟨fields, hr⟩ := ih.mpr fun c hm => h c (by simp [hm])
      exact ⟨field :: fields, .cons hf hr⟩

/-- A schema is read chunk by chunk. Each chunk is the only chunk of itself. The schema has fields
exactly if each chunk has one, and these are its fields in order. Otherwise its error is that of
the first chunk that has one, renumbered and else unchanged. -/
theorem parse_by_chunks (policy : ModifierPolicy) (schema : Text) :
    (∀ chunk ∈ chunks schema, chunks chunk = [chunk]) ∧
      ((∃ fields, parse policy schema = .ok fields) ↔
        ∀ chunk ∈ chunks schema, ∃ fields, parse policy chunk = .ok fields) ∧
      (∀ fields, parse policy schema = .ok fields ↔
        List.Forall₂ (fun chunk field => parse policy chunk = .ok [field]) (chunks schema)
          fields) ∧
      ∀ e, parse policy schema = .error e ↔
        ∃ front chunk back alone, chunks schema = front ++ chunk :: back ∧
          (∀ before ∈ front, ∃ fields, parse policy before = .ok fields) ∧
          parse policy chunk = .error alone ∧ alone.fieldIndex? = some 1 ∧
          e = alone.atField (front.length + 1) := by
  have hok (fields : List Field) : parse policy schema = .ok fields ↔ List.Forall₂
      (fun chunk field => parse policy chunk = .ok [field]) (chunks schema) fields := by
    rw [forall₂_parse_iff fun _ h => h]
    exact readFields_ok_iff 1
  refine ⟨fun chunk => chunks_of_mem_chunks, ?_, hok, fun e => ?_⟩
  · have hall (chunk : Text) (hm : chunk ∈ chunks schema) := exists_parse_chunk_iff policy hm
    simp only [hok, forall₂_parse_iff fun _ h => h, exists_forall₂_iff]
    exact forall₂_congr fun chunk hm => (hall chunk hm).symm
  · rw [parse, readFields_error_iff]
    constructor
    · rintro ⟨front, chunk, back, refusal, hs, hb, hr, rfl⟩
      have hm : ∀ c ∈ front ++ [chunk], c ∈ chunks schema := by
        intro c hc
        rw [hs]
        rcases List.mem_append.mp hc with hc | hc
        · simp [hc]
        · simp [List.mem_singleton.mp hc]
      refine ⟨front, chunk, back, refusal.toError 1 chunk, hs, ?_, ?_, ?_, ?_⟩
      · exact fun before hc =>
          (exists_parse_chunk_iff policy (hm before (by simp [hc]))).mpr (hb before hc)
      · rw [parse_chunk policy (hm chunk (by simp)), hr]
      · exact fieldIndex?_toError refusal 1 chunk
      · rw [atField_toError, Nat.add_comm]
    · rintro ⟨front, chunk, back, alone, hs, hb, ha, _, rfl⟩
      have hm : chunk ∈ chunks schema := by simp [hs]
      rw [parse_chunk policy hm] at ha
      cases hr : readField policy chunk with
      | ok field => simp [hr] at ha
      | error refusal =>
        rw [hr] at ha
        cases ha
        refine ⟨front, chunk, back, refusal, hs, fun before hc => ?_, hr, ?_⟩
        · have hf : before ∈ chunks schema := by simp [hs, hc]
          exact (exists_parse_chunk_iff policy hf).mp (hb before hc)
        · rw [atField_toError, Nat.add_comm]

end Schema

end Migrations
