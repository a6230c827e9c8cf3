import Mathlib.Data.List.Nodup
import Migrations.Field.Basic

namespace Migrations

namespace Settings

@[simp] theorem mem_toList {s : Settings} {m : Modifier} {value : Setting} :
    (m, value) ∈ s.toList ↔ s.get? m = some value := by
  simp only [toList, List.mem_filterMap, Option.map_eq_some_iff, Prod.mk.injEq]
  constructor
  · rintro ⟨k, _, v, hv, rfl, rfl⟩
    exact hv
  · intro h
    exact ⟨m, m.mem_all, value, h, rfl, rfl⟩

theorem map_fst_toList (s : Settings) : s.toList.map Prod.fst = Modifier.all.filter s.has := by
  rw [toList, List.map_filterMap, ← List.filterMap_eq_filter]
  congr 1
  funext m
  cases h : s.get? m <;> simp [has, h, Option.guard]

theorem nodup_toList (s : Settings) : (s.toList.map Prod.fst).Nodup := by
  rw [map_fst_toList]
  exact List.Nodup.filter _ (by decide)

/-- Setting different modifiers one after another sets those of the list and leaves the others. -/
theorem get?_foldl_set (t : Settings) {entries : List (Modifier × Setting)}
    (hn : (entries.map Prod.fst).Nodup) (k : Modifier) (value : Setting) :
    (entries.foldl (fun s entry => s.set entry.1 entry.2) t).get? k = some value ↔
      (k, value) ∈ entries ∨ (k ∉ entries.map Prod.fst ∧ t.get? k = some value) := by
  induction entries generalizing t with
  | nil => simp
  | cons entry rest ih =>
    obtain ⟨m, v⟩ := entry
    obtain ⟨hm, hr⟩ := List.nodup_cons.mp hn
    rw [List.foldl_cons, ih _ hr, get?_set]
    by_cases hk : k = m
    · subst hk
      have hnot : (k, value) ∉ rest := fun h => hm (List.mem_map.mpr ⟨_, h, rfl⟩)
      simp_all [eq_comm]
    · simp [hk]

/-- The order in which the settings are listed does not matter. -/
theorem ofList_of_perm {s : Settings} {entries : List (Modifier × Setting)}
    (h : entries.Perm s.toList) : ofList entries = s := by
  apply ext
  intro m
  apply Option.ext
  intro value
  have hn : (entries.map Prod.fst).Nodup := (h.map Prod.fst).nodup_iff.mpr s.nodup_toList
  rw [ofList, get?_foldl_set empty hn m value, h.mem_iff, mem_toList]
  simp

theorem ofList_toList (s : Settings) : ofList s.toList = s := ofList_of_perm (.refl s.toList)

end Settings

namespace Field

theorem flaw?_eq_none_iff {f : Field} :
    f.flaw? = none ↔ Text.isIdentifier f.name = true ∧ f.typeFlaw? = none ∧
      f.settingFlaw? = none ∧ ¬(f.settings.has .cascade = true ∧ ¬f.IsForeign) := by
  have hn : Text.isIdentifier [] = false := rfl
  unfold flaw?
  by_cases he : f.name = []
  · simp [he, hn]
  · by_cases hi : Text.isIdentifier f.name = true <;> simp [he, hi]

/-- Settings without flaws are literals only where a value may stand, and nothing else where one
must. -/
theorem settingFlaw?_eq_none_iff {f : Field} :
    f.settingFlaw? = none ↔ ∀ m value, f.settings.get? m = some value →
      (m.valueRule = .flag → value = .flag) ∧
        (m.valueRule = .literal → ∃ text, value = .literal text) := by
  rw [settingFlaw?, List.findSome?_eq_none_iff]
  constructor
  · intro h m value hm
    have hf := h (m, value) (Settings.mem_toList.mpr hm)
    cases hr : m.valueRule <;> cases value <;> simp_all
  · rintro h ⟨m, value⟩ hm
    obtain ⟨h1, h2⟩ := h m value (Settings.mem_toList.mp hm)
    cases hr : m.valueRule <;> cases value <;> simp_all

end Field

end Migrations
