import Migrations.Compiled.Json
import Migrations.Proofs.Field.Basic
import Migrations.Proofs.Json.Alike

namespace Migrations

open Json (Alike AlikeMember)

/-- What is written for a value is read as that value, and as no other one. -/
structure Json.Lossless {α : Type} (toJson : α → Json) (ofJson? : Json → Option α) : Prop where
  read_written : ∀ a, ofJson? (toJson a) = some a
  read_alike : ∀ a j, Alike j (toJson a) → ofJson? j = some a
  distinct : ∀ a b, Alike (toJson a) (toJson b) → a = b

theorem Json.lossless_of_alike {α : Type} {toJson : α → Json} {ofJson? : Json → Option α}
    (h : ∀ a j, Alike j (toJson a) → ofJson? j = some a) : Json.Lossless toJson ofJson? := by
  have hw : ∀ a, ofJson? (toJson a) = some a := fun a => h a (toJson a) (.refl _)
  refine ⟨hw, h, fun a b hab => ?_⟩
  have hb : ofJson? (toJson a) = some b := h b (toJson a) hab
  exact Option.some.inj ((hw a).symm.trans hb)

namespace ColumnType

theorem known_or_custom (type : ColumnType) : type ∈ known ∨ ∃ token, type = custom token := by
  cases type with
  | custom token => exact .inr ⟨token, rfl⟩
  | _ => simp [known]

theorem toJson_of_known {type : ColumnType} (h : type ∈ known) :
    type.toJson = .string type.name := by
  cases type with
  | custom token => simp [known] at h
  | _ => rfl

/-- No two known types share a name. -/
theorem ofName?_name : ∀ type ∈ known, ofName? type.name = some type := by
  decide +kernel

theorem read_alike {type : ColumnType} {j : Json} (h : Alike j type.toJson) :
    ofJson? j = some type := by
  rcases type.known_or_custom with hk | ⟨token, rfl⟩
  · rw [toJson_of_known hk] at h
    rw [h.string_eq]
    exact ofName?_name type hk
  · obtain ⟨value, rfl, hv⟩ := h.singleton
    rw [hv.string_eq]
    rfl

end ColumnType

theorem Modifier.ofName?_keyword (m : Modifier) : ofName? m.keyword = some m := by
  cases m <;> decide

theorem Modifier.read_alike {m : Modifier} {j : Json} (h : Alike j m.toJson) :
    ofJson? j = some m := by
  rw [h.string_eq]
  exact ofName?_keyword m

theorem Setting.read_alike {value : Setting} {j : Json} (h : Alike j value.toJson) :
    ofJson? j = some value := by
  cases value with
  | flag =>
    rw [h.string_eq]
    rfl
  | literal text =>
    obtain ⟨written, rfl, hv⟩ := h.singleton
    rw [hv.string_eq]
    rfl

namespace Settings

def memberOf (entry : Modifier × Setting) : Text × Json := (entry.1.keyword, entry.2.toJson)

theorem toJson_eq (s : Settings) : s.toJson = .object (s.toList.map memberOf) := rfl

theorem entryOfJson?_of_alike {member : Text × Json} {entry : Modifier × Setting}
    (h : AlikeMember member (memberOf entry)) : entryOfJson? member = some entry := by
  obtain ⟨m, value⟩ := entry
  cases h with
  | mk _ hv => simp [entryOfJson?, Modifier.ofName?_keyword, Setting.read_alike hv]

theorem mapM_entryOfJson? {members : List (Text × Json)} {entries : List (Modifier × Setting)}
    (h : List.Forall₂ (fun member entry => entryOfJson? member = some entry) members entries) :
    members.mapM entryOfJson? = some entries := by
  induction h with
  | nil => rfl
  | cons hm _ ih => simp [hm, ih]

theorem read_alike {s : Settings} {j : Json} (h : Alike j s.toJson) : ofJson? j = some s := by
  rw [toJson_eq] at h
  cases h with
  | @object members moved _ values order =>
    -- The members are a reordered list of settings, written one by one.
    have hwritten : List.Forall₂ (fun member entry => member = memberOf entry)
        (s.toList.map memberOf) s.toList := by
      rw [List.forall₂_map_left_iff, List.forall₂_same]
      exact fun _ _ => rfl
    obtain ⟨entries, hmoved, hperm⟩ := List.perm_comp_forall₂ order hwritten
    have hread : List.Forall₂ (fun member entry => entryOfJson? member = some entry)
        members entries := by
      have he : moved = entries.map memberOf := by
        rw [← List.forall₂_eq_eq_eq, List.forall₂_map_right_iff]
        exact hmoved
      rw [he, List.forall₂_map_right_iff] at values
      exact values.imp fun _ _ => entryOfJson?_of_alike
    rw [ofJson?, mapM_entryOfJson? hread]
    exact congrArg some (ofList_of_perm hperm)

end Settings

theorem Action.read_alike {a : Action} {j : Json} (h : Alike j a.toJson) :
    ofJson? j = some a := by
  rw [h.string_eq]
  cases a <;> decide

theorem Json.optionalText?_of_alike {value : Option Json} {t : Option Text}
    (h : Option.Rel Alike value (t.map Json.string)) : Json.optionalText? value = some t := by
  cases t with
  | none =>
    cases h
    rfl
  | some t =>
    cases h with
    | some hv =>
      rw [hv.string_eq]
      rfl

theorem Field.read_alike {f : Field} {j : Json} (h : Alike j f.toJson) : ofJson? j = some f := by
  obtain ⟨values, hcolumns, hvalues⟩ :=
    h.columns? (by simp only [List.map]; decide)
      ["name", "type", "arguments", "options"]
  obtain _ | ⟨⟨hname⟩, _ | ⟨⟨htype⟩, _ | ⟨⟨harguments⟩, _ | ⟨⟨hoptions⟩, ⟨⟩⟩⟩⟩⟩ := hvalues
  rw [ofJson?, hcolumns, hname.string_eq, harguments.texts_eq]
  simp [Json.text?, Json.texts?_texts, ColumnType.read_alike htype,
    Settings.read_alike hoptions]

theorem Rendered.read_alike {r : Rendered} {j : Json} (h : Alike j r.toJson) :
    ofJson? j = some r := by
  obtain ⟨values, hcolumns, hvalues⟩ :=
    h.columns? (by simp only [List.map]; decide) ["up", "down"]
  obtain _ | ⟨⟨hup⟩, _ | ⟨⟨hdown⟩, ⟨⟩⟩⟩ := hvalues
  rw [ofJson?, hcolumns, hup.texts_eq, hdown.texts_eq]
  simp [Json.texts?_texts]

theorem Pivot.read_alike {p : Pivot} {j : Json} (h : Alike j p.toJson) :
    ofJson? j = some p := by
  obtain ⟨values, hcolumns, hvalues⟩ :=
    h.columns? (by simp only [List.map]; decide) ["first", "second"]
  obtain _ | ⟨⟨hfirst⟩, _ | ⟨⟨hsecond⟩, ⟨⟩⟩⟩ := hvalues
  rw [ofJson?, hcolumns, hfirst.string_eq, hsecond.string_eq]
  simp [Json.text?]

theorem Reference.read_alike {r : Reference} {j : Json} (h : Alike j r.toJson) :
    ofJson? j = some r := by
  obtain ⟨table, column, onDelete⟩ := r
  obtain ⟨values, hcolumns, hvalues⟩ :=
    h.columns? (by cases onDelete <;> simp only [Json.optionalMember, List.map] <;> decide)
      ["table", "column", "on_delete"]
  obtain _ | ⟨⟨htable⟩, _ | ⟨⟨hcolumn⟩, _ | ⟨honDelete, ⟨⟩⟩⟩⟩ := hvalues
  have hr : Json.optionalText? _ = some onDelete :=
    Json.optionalText?_of_alike (by cases onDelete <;> exact honDelete)
  rw [ofJson?, hcolumns, htable.string_eq, hcolumn.string_eq]
  simp [Json.text?, hr]

theorem Intent.read_alike {i : Intent} {j : Json} (h : Alike j i.toJson) :
    ofJson? j = some i := by
  obtain ⟨name, action, table, related⟩ := i
  obtain ⟨values, hcolumns, hvalues⟩ :=
    h.columns? (by cases related <;> simp only [Json.optionalMember, List.map] <;> decide)
      ["name", "action", "table", "related_table"]
  obtain _ | ⟨⟨hname⟩, _ | ⟨⟨haction⟩, _ | ⟨⟨htable⟩, _ | ⟨hrelated, ⟨⟩⟩⟩⟩⟩ := hvalues
  have hr : Json.optionalText? _ = some related :=
    Json.optionalText?_of_alike (by cases related <;> exact hrelated)
  rw [ofJson?, hcolumns, hname.string_eq, htable.string_eq]
  simp [Json.text?, Action.read_alike haction, hr]

/-- Every value that is ever written is read as itself, and two values that are written alike, up to
the order of members, are equal. -/
theorem structured_output_is_lossless :
    Json.Lossless ColumnType.toJson ColumnType.ofJson? ∧
    Json.Lossless Modifier.toJson Modifier.ofJson? ∧
    Json.Lossless Setting.toJson Setting.ofJson? ∧
    Json.Lossless Settings.toJson Settings.ofJson? ∧
    Json.Lossless Field.toJson Field.ofJson? ∧
    Json.Lossless Reference.toJson Reference.ofJson? ∧
    Json.Lossless Action.toJson Action.ofJson? ∧
    Json.Lossless Intent.toJson Intent.ofJson? ∧
    Json.Lossless Pivot.toJson Pivot.ofJson? ∧
    Json.Lossless Rendered.toJson Rendered.ofJson? := by
  refine ⟨?_, ?_, ?_, ?_, ?_, ?_, ?_, ?_, ?_, ?_⟩
  · exact Json.lossless_of_alike fun _ _ => ColumnType.read_alike
  · exact Json.lossless_of_alike fun _ _ => Modifier.read_alike
  · exact Json.lossless_of_alike fun _ _ => Setting.read_alike
  · exact Json.lossless_of_alike fun _ _ => Settings.read_alike
  · exact Json.lossless_of_alike fun _ _ => Field.read_alike
  · exact Json.lossless_of_alike fun _ _ => Reference.read_alike
  · exact Json.lossless_of_alike fun _ _ => Action.read_alike
  · exact Json.lossless_of_alike fun _ _ => Intent.read_alike
  · exact Json.lossless_of_alike fun _ _ => Pivot.read_alike
  · exact Json.lossless_of_alike fun _ _ => Rendered.read_alike

end Migrations
