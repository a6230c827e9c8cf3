import Mathlib.Data.List.Forall2
import Mathlib.Data.List.Perm.Basic
import Migrations.Json.Basic

namespace Migrations.Json

mutual

/-- The values differ at most in the order in which the members of their objects stand. -/
inductive Alike : Json → Json → Prop where
  | null : Alike .null .null
  | bool (b : Bool) : Alike (.bool b) (.bool b)
  | number (numeral : Text) : Alike (.number numeral) (.number numeral)
  | string (t : Text) : Alike (.string t) (.string t)
  | array {items others : List Json} (values : List.Forall₂ Alike items others) :
    Alike (.array items) (.array others)
  | object {members moved others : List (Text × Json)}
    (values : List.Forall₂ AlikeMember members moved) (order : moved.Perm others) :
    Alike (.object members) (.object others)

inductive AlikeMember : Text × Json → Text × Json → Prop where
  | mk (key : Text) {value other : Json} (h : Alike value other) :
    AlikeMember (key, value) (key, other)

end

theorem Alike.refl (j : Json) : Alike j j := by
  match j with
  | .null => exact .null
  | .bool b => exact .bool b
  | .number numeral => exact .number numeral
  | .string t => exact .string t
  | .array items => exact .array (List.forall₂_same.mpr fun item _ => refl item)
  | .object members =>
    refine .object (List.forall₂_same.mpr ?_) (.refl members)
    rintro ⟨key, value⟩ hm
    exact .mk key (refl value)
termination_by sizeOf j
decreasing_by
  all_goals simp_wf
  · have := List.sizeOf_lt_of_mem ‹item ∈ items›
    omega
  · have := List.sizeOf_lt_of_mem hm
    simp only [Prod.mk.sizeOf_spec] at this
    omega

def member? (key : Text) (members : List (Text × Json)) : Option Json :=
  (members.find? (·.1 = key)).map (·.2)

theorem mem_of_member? {members : List (Text × Json)} {key : Text} {value : Json}
    (h : member? key members = some value) : (key, value) ∈ members := by
  obtain ⟨member, hm, rfl⟩ := Option.map_eq_some_iff.mp h
  have hk : member.1 = key := by simpa using List.find?_some hm
  exact hk ▸ List.mem_of_find?_eq_some hm

theorem member?_eq_some_iff {members : List (Text × Json)} (hn : (members.map Prod.fst).Nodup)
    {key : Text} {value : Json} : member? key members = some value ↔ (key, value) ∈ members := by
  refine ⟨mem_of_member?, fun h => ?_⟩
  induction members with
  | nil => cases h
  | cons member rest ih =>
    obtain ⟨hnot, hrest⟩ := List.nodup_cons.mp hn
    rcases List.mem_cons.mp h with rfl | hm
    · simp [member?]
    · have hne : member.1 ≠ key := by
        rintro rfl
        exact hnot (List.mem_map.mpr ⟨_, hm, rfl⟩)
      have hr := ih hrest hm
      rw [member?] at hr ⊢
      rw [List.find?_cons_of_neg (by simpa using hne), hr]

theorem member?_eq_none_iff {members : List (Text × Json)} {key : Text} :
    member? key members = none ↔ key ∉ members.map Prod.fst := by
  rw [member?, Option.map_eq_none_iff, List.find?_eq_none]
  constructor
  · intro h hk
    obtain ⟨member, hm, he⟩ := List.mem_map.mp hk
    exact h member hm (decide_eq_true he)
  · intro h member hm he
    exact h (List.mem_map.mpr ⟨member, hm, of_decide_eq_true he⟩)

theorem map_fst_of_forall₂ {members others : List (Text × Json)}
    (h : List.Forall₂ AlikeMember members others) :
    members.map Prod.fst = others.map Prod.fst := by
  induction h with
  | nil => rfl
  | cons hm _ ih =>
    cases hm
    simp [ih]

theorem exists_of_mem_forall₂ {members others : List (Text × Json)}
    (h : List.Forall₂ AlikeMember members others) {key : Text} {other : Json}
    (ho : (key, other) ∈ others) : ∃ value, (key, value) ∈ members ∧ Alike value other := by
  induction h with
  | nil => cases ho
  | @cons member _ _ _ hm _ ih =>
    rcases List.mem_cons.mp ho with rfl | ho
    · cases hm with
      | mk _ hv => exact ⟨_, List.mem_cons_self, hv⟩
    · obtain ⟨value, hmem, hv⟩ := ih ho
      exact ⟨value, List.mem_cons_of_mem member hmem, hv⟩

namespace Alike

variable {j : Json}

theorem string_eq {t : Text} (h : Alike j (.string t)) : j = .string t := by
  cases h
  rfl

theorem texts_eq {ts : List Text} (h : Alike j (texts ts)) : j = texts ts := by
  cases h with
  | @array items _ values =>
    rw [List.forall₂_map_right_iff] at values
    rw [texts]
    congr 1
    induction values with
    | nil => rfl
    | cons hv _ ih => rw [hv.string_eq, ih, List.map_cons]

theorem singleton {key : Text} {other : Json} (h : Alike j (.object [(key, other)])) :
    ∃ value, j = .object [(key, value)] ∧ Alike value other := by
  cases h with
  | object values order =>
    rw [List.perm_singleton] at order
    subst order
    cases values with
    | cons hm hr =>
      cases hr
      cases hm with
      | mk _ hv => exact ⟨_, rfl, hv⟩

/-- Members are found by their keys, wherever they stand. -/
theorem columns? {others : List (Text × Json)} (h : Alike j (.object others))
    (hn : (others.map Prod.fst).Nodup) (keys : List Text) :
    ∃ values, j.columns? keys = some values ∧
      List.Forall₂ (Option.Rel Alike) values (keys.map fun key => member? key others) := by
  cases h with
  | @object members moved _ values order =>
    have hperm : (members.map Prod.fst).Perm (others.map Prod.fst) := by
      rw [map_fst_of_forall₂ values]
      exact order.map Prod.fst
    refine ⟨keys.map fun key => member? key members, rfl, ?_⟩
    rw [List.forall₂_map_left_iff, List.forall₂_map_right_iff, List.forall₂_same]
    intro key _
    cases ho : member? key others with
    | none =>
      have hm : member? key members = none := by
        rw [member?_eq_none_iff] at ho ⊢
        rwa [hperm.mem_iff]
      rw [hm]
      exact .none
    | some other =>
      have hmoved : (key, other) ∈ moved := order.mem_iff.mpr (mem_of_member? ho)
      obtain ⟨value, hm, hv⟩ := exists_of_mem_forall₂ values hmoved
      rw [(member?_eq_some_iff (hperm.nodup_iff.mpr hn)).mpr hm]
      exact .some hv

end Alike

end Migrations.Json
