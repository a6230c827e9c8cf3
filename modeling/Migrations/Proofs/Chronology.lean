import Mathlib.Order.Bounds.Defs
import Migrations.Proofs.Calendar
import Migrations.Proofs.MigrationFile

namespace Migrations.MigrationFile

/-- The file names come in the order of the times, whatever the names of the migrations are. -/
theorem fileName_lt {t u : Timestamp} (ht : t.HasPlainYear) (hu : u.HasPlainYear) (h : t < u)
    (name other : Text) : fileName name t < fileName other u := by
  unfold fileName
  rw [List.append_assoc, List.append_assoc]
  exact Timestamp.stamp_append_lt ht hu h _ _

theorem fileName_inj {name other : Text} {t u : Timestamp}
    (h : fileName name t = fileName other u) : name = other ∧ t = u := by
  have hf := isFileOf_fileName name t
  rw [h] at hf
  obtain rfl := eq_of_isFileOf hf (isFileOf_fileName other u)
  unfold fileName at h
  exact ⟨rfl, Timestamp.stamp_injective (List.append_cancel_right (List.append_cancel_right h))⟩

theorem le_of_fileName_le {t u : Timestamp} (ht : t.HasPlainYear) (hu : u.HasPlainYear)
    {name other : Text} (h : ¬ fileName other u < fileName name t) : t ≤ u := by
  by_contra hn
  exact h (fileName_lt hu ht (not_le.mp hn) other name)

def timesIn (d : Disk) (directory name : Text) : Set Timestamp :=
  {t | d.HasFile directory (fileName name t)}

/-- Every file in a directory that is a migration of the name is named the way the writer does it,
in a plain year. -/
def HasPlainMigrations (d : Disk) (directory name : Text) : Prop :=
  ∀ file, d.HasFile directory file → isFileOf name file = true →
    ∃ t, t.HasPlainYear ∧ file = fileName name t

theorem HasPlainMigrations.hasPlainYear {d : Disk} {directory name : Text}
    (h : HasPlainMigrations d directory name) {t : Timestamp}
    (ht : t ∈ timesIn d directory name) : t.HasPlainYear := by
  obtain ⟨u, hu, he⟩ := h _ ht (isFileOf_fileName name t)
  obtain ⟨-, rfl⟩ := fileName_inj he
  exact hu

/-- The oldest file is found. -/
theorem find?_oldest {d : Disk} {directory name : Text} (h : HasPlainMigrations d directory name)
    (hn : (timesIn d directory name).Nonempty) :
    ∃ t, IsLeast (timesIn d directory name) t ∧
      find? d directory name = some (Path.join directory (fileName name t)) := by
  obtain ⟨u, hu⟩ := hn
  cases hfound : find? d directory name with
  | none =>
    have hno := find?_eq_none_iff.mp hfound _ hu
    rw [isFileOf_fileName] at hno
    cases hno
  | some path =>
    obtain ⟨⟨file, rfl, hfile, hname⟩, hleast⟩ := find?_eq_some_iff.mp hfound
    obtain ⟨t, ht, rfl⟩ := h file hfile hname
    refine ⟨t, ⟨hfile, ?_⟩, rfl⟩
    intro v hv
    -- An older file would be found as well, and its path would be less.
    apply le_of_fileName_le ht (h.hasPlainYear hv)
    intro hlt
    apply hleast _ ⟨_, rfl, hv, isFileOf_fileName name v⟩
    exact (Path.join_lt_join_iff (isAbsolute_of_isFileOf (isFileOf_fileName name v))
      (isAbsolute_of_isFileOf hname) directory).mpr hlt

/-- Sorted files stand in the order in which their migrations were made. -/
theorem times_of_sorted {made : List (Text × Timestamp)} (hp : ∀ m ∈ made, m.2.HasPlainYear)
    (hs : (made.map fun m => Text.bytes (fileName m.1 m.2)).Pairwise (· ≤ ·)) :
    (made.map Prod.snd).Pairwise (· ≤ ·) := by
  rw [List.pairwise_map] at hs ⊢
  apply hs.imp_of_mem
  intro m n hm hn hle
  apply le_of_fileName_le (hp m hm) (hp n hn)
  intro hlt
  exact List.not_lt.mpr hle (Text.bytes_lt_bytes_iff.mpr hlt)

/-- The order of files is the order of time. In the years that are written with four digits, the
file of an earlier migration comes first by its bytes, so that sorted files stand in the order in
which they were made, and the oldest file of a name is found; in all years, migrations of
different names or times have different files. -/
theorem file_order_is_time_order :
    (∀ (name other : Text) (t u : Timestamp), t.HasPlainYear → u.HasPlainYear → t < u →
        Text.bytes (fileName name t) < Text.bytes (fileName other u)) ∧
      (∀ (name other : Text) (t u : Timestamp), fileName name t = fileName other u →
        name = other ∧ t = u) ∧
      (∀ made : List (Text × Timestamp), (∀ m ∈ made, m.2.HasPlainYear) →
        (made.map fun m => Text.bytes (fileName m.1 m.2)).Pairwise (· ≤ ·) →
          (made.map Prod.snd).Pairwise (· ≤ ·)) ∧
      ∀ (d : Disk) (directory name : Text), HasPlainMigrations d directory name →
        (timesIn d directory name).Nonempty →
          ∃ t, IsLeast (timesIn d directory name) t ∧
            find? d directory name = some (Path.join directory (fileName name t)) := by
  refine ⟨?before, fun name other t u => fileName_inj, fun made => times_of_sorted,
    fun d directory name => find?_oldest⟩
  case before =>
    intro name other t u ht hu h
    exact Text.bytes_lt_bytes_iff.mpr (fileName_lt ht hu h name other)

/-- Two migrations of one name and one of another around the turn of a century. -/
theorem file_order_is_time_order_posts :
    let t : Timestamp := ⟨1999, 12, 31, 23, 59, 59, by decide, by decide, by decide, by decide⟩
    let u : Timestamp := ⟨2000, 2, 29, 0, 0, 0, by decide, by decide, by decide, by decide⟩
    let made : List (Text × Timestamp) := [("übersicht", t), ("posts", u)]
    let d : Disk := ⟨[(["db", fileName "posts" u], .file (.text "")),
      (["db", fileName "posts" t], .file (.text "")),
      (["db", fileName "old_posts" t], .file (.text "")),
      (["db", "1970_1_1_000000_posts.php"], .directory)]⟩
    (t.HasPlainYear ∧ u.HasPlainYear ∧ t < u ∧
        Text.bytes (fileName "übersicht" t) < Text.bytes (fileName "posts" u)) ∧
      (fileName "posts" t = fileName "posts" t ∧ ("posts" : Text) = "posts" ∧ t = t) ∧
      ((∀ m ∈ made, m.2.HasPlainYear) ∧
        (made.map fun m => Text.bytes (fileName m.1 m.2)).Pairwise (· ≤ ·) ∧
          (made.map Prod.snd).Pairwise (· ≤ ·)) ∧
      HasPlainMigrations d "db" "posts" ∧ (timesIn d "db" "posts").Nonempty ∧
        ∃ v, IsLeast (timesIn d "db" "posts") v ∧
          find? d "db" "posts" = some (Path.join "db" (fileName "posts" v)) ∧
            Path.join "db" (fileName "posts" v) = "db/1999_12_31_235959_posts.php" := by
  intro t u made d
  obtain ⟨hbefore, hinj, hsorted, holdest⟩ := file_order_is_time_order
  have ht : t.HasPlainYear := by decide
  have hu : u.HasPlainYear := by decide
  have hlt : t < u := by decide +kernel
  have hmade : ∀ m ∈ made, m.2.HasPlainYear := by decide
  have hbytes : (made.map fun m => Text.bytes (fileName m.1 m.2)).Pairwise (· ≤ ·) := by
    decide +kernel
  have hplain : HasPlainMigrations d "db" "posts" := by
    intro file hf hn
    have hfiles : d.filesAt "db" =
        [fileName "posts" u, fileName "posts" t, fileName "old_posts" t] := by decide +kernel
    have hother : isFileOf "posts" (fileName "old_posts" t) = false := by decide +kernel
    have hm := Disk.mem_filesAt.mpr hf
    simp only [hfiles, List.mem_cons, List.not_mem_nil, or_false] at hm
    rcases hm with rfl | rfl | rfl
    · exact ⟨u, hu, rfl⟩
    · exact ⟨t, ht, rfl⟩
    · rw [hother] at hn
      cases hn
  have hfile : d.HasFile "db" (fileName "posts" u) := ⟨["db"], by decide, by decide +kernel⟩
  have hsome : (timesIn d "db" "posts").Nonempty := ⟨u, hfile⟩
  obtain ⟨v, hv, hfind⟩ := holdest d "db" "posts" hplain hsome
  have hpath : find? d "db" "posts" = some "db/1999_12_31_235959_posts.php" := by decide +kernel
  exact ⟨⟨ht, hu, hlt, hbefore _ _ t u ht hu hlt⟩, ⟨rfl, hinj _ _ t t rfl⟩,
    ⟨hmade, hbytes, hsorted made hmade hbytes⟩, hplain, hsome, v, hv, hfind,
    Option.some.inj (hfind.symm.trans hpath)⟩

end Migrations.MigrationFile
