import Migrations.MigrationFile
import Migrations.Proofs.Disk
import Migrations.Proofs.Path
import Migrations.Proofs.Timestamp

namespace Migrations

namespace Text

theorem least?_eq_none_iff {ts : List Text} : least? ts = none ↔ ts = [] := by
  cases ts with
  | nil => simp [least?]
  | cons t rest =>
    rw [least?]
    split
    · simp
    · split <;> simp

theorem mem_of_least? {ts : List Text} {t : Text} (h : least? ts = some t) : t ∈ ts := by
  induction ts generalizing t with
  | nil => cases h
  | cons first rest ih =>
    rw [least?] at h
    split at h
    · cases h
      exact List.mem_cons_self
    · rename_i u hu
      split at h
      · exact List.mem_cons_of_mem _ (ih (hu.trans h))
      · cases h
        exact List.mem_cons_self

theorem not_lt_of_least? {ts : List Text} {t : Text} (h : least? ts = some t) :
    ∀ u ∈ ts, ¬ u < t := by
  induction ts generalizing t with
  | nil => cases h
  | cons first rest ih =>
    rw [least?] at h
    split at h
    · rename_i hn
      cases h
      simp [least?_eq_none_iff.mp hn]
    · rename_i least hl
      split at h
      · rename_i hlt
        cases h
        exact List.forall_mem_cons.mpr ⟨List.lt_asymm hlt, ih hl⟩
      · rename_i hge
        cases h
        refine List.forall_mem_cons.mpr ⟨List.lt_irrefl first, fun u hu hlt => hge ?_⟩
        exact List.lt_of_le_of_lt (List.not_lt.mp (ih hl u hu)) hlt

theorem least?_eq_some_iff {ts : List Text} {t : Text} :
    least? ts = some t ↔ t ∈ ts ∧ ∀ u ∈ ts, ¬ u < t := by
  constructor
  · intro h
    exact ⟨mem_of_least? h, not_lt_of_least? h⟩
  · rintro ⟨hm, hl⟩
    cases hs : least? ts with
    | none => simp [least?_eq_none_iff.mp hs] at hm
    | some u =>
      have htu := List.not_lt.mp (hl u (mem_of_least? hs))
      have hut := List.not_lt.mp (not_lt_of_least? hs t hm)
      rw [List.le_antisymm hut htu]

end Text

namespace Path

/-- Relative paths below the same directory keep their order. -/
theorem join_lt_join_iff {one other : Text} (h : isAbsolute one = false)
    (ho : isAbsolute other = false) (directory : Text) :
    join directory one < join directory other ↔ one < other := by
  obtain ⟨lead, hl⟩ : ∃ lead, ∀ tail, isAbsolute tail = false →
      join directory tail = lead ++ tail := by
    by_cases hd : directory = []
    · subst hd
      exact ⟨[], fun tail _ => join_nil tail⟩
    · exact ⟨_, fun tail ht => join_relative hd ht⟩
  rw [hl one h, hl other ho]
  constructor
  · intro hlt
    by_contra hn
    exact List.not_lt.mpr (List.append_left_le (List.not_lt.mp hn)) hlt
  · exact List.append_left_lt

end Path

namespace MigrationFile

/-- A file is a migration of a name if a stamp stands in front of the name. -/
theorem isFileOf_iff {name file : Text} :
    isFileOf name file = true ↔
      ∃ stamp, Timestamp.isStamp stamp = true ∧ file = stamp ++ '_' :: name ++ ending := by
  have hu : ("_" : Text) = ['_'] := rfl
  simp only [isFileOf, isNamed, Option.any_eq_true, Option.bind_eq_some_iff,
    Text.dropSuffix?_eq_some_iff, hu]
  constructor
  · rintro ⟨stem, rfl, stamp, ⟨front, rfl, rfl⟩, hs⟩
    exact ⟨stamp, hs, by simp⟩
  · rintro ⟨stamp, hs, rfl⟩
    exact ⟨_, rfl, stamp, ⟨stamp ++ ['_'], by simp, rfl⟩, hs⟩

theorem isFileOf_fileName (name : Text) (t : Timestamp) :
    isFileOf name (fileName name t) = true :=
  isFileOf_iff.mpr ⟨t.stamp, t.isStamp_stamp, rfl⟩

/-- A stamp that goes on after an underscore has too many of them. -/
theorem eq_nil_of_isStamp {stamp left name other : Text} (hs : Timestamp.isStamp stamp = true)
    (ht : Timestamp.isStamp (stamp ++ left) = true) (h : '_' :: name = left ++ '_' :: other) :
    left = [] := by
  cases left with
  | nil => rfl
  | cons c rest =>
    obtain rfl := (List.cons.inj h).1
    obtain ⟨front, hf, hn, _⟩ := Timestamp.consumes_of_isStamp hs
    obtain ⟨whole, hw, hm, _⟩ := Timestamp.consumes_of_isStamp ht
    rw [List.append_nil] at hf hw
    subst hf hw
    rw [List.count_append, List.count_cons_self] at hm
    omega

/-- No file is a migration of two names. -/
theorem eq_of_isFileOf {name other file : Text} (h : isFileOf name file = true)
    (ho : isFileOf other file = true) : name = other := by
  obtain ⟨s, hs, rfl⟩ := isFileOf_iff.mp h
  obtain ⟨t, ht, he⟩ := isFileOf_iff.mp ho
  rcases List.append_eq_append_iff.mp (List.append_cancel_right he) with
    ⟨left, rfl, hn⟩ | ⟨left, rfl, hn⟩
  · obtain rfl := eq_nil_of_isStamp hs ht hn
    exact (List.cons.inj hn).2
  · obtain rfl := eq_nil_of_isStamp ht hs hn
    exact (List.cons.inj hn).2.symm

theorem underscore_mem_of_isFileOf {name file : Text} (h : isFileOf name file = true) :
    '_' ∈ file := by
  obtain ⟨s, _, rfl⟩ := isFileOf_iff.mp h
  simp

theorem separator_not_mem_of_isStamp {stamp : Text} (h : Timestamp.isStamp stamp = true) :
    Path.separator ∉ stamp := by
  obtain ⟨front, hf, _, hc⟩ := Timestamp.consumes_of_isStamp h
  rw [List.append_nil] at hf
  subst hf
  intro hm
  have hl := hc _ hm
  unfold Timestamp.IsLoose at hl
  revert hl
  decide

/-- What is found in a directory as a migration is an entry of it, as long as the name of the
migration leads nowhere else. -/
theorem isName_of_isFileOf {name file : Text} (hn : Path.separator ∉ name)
    (h : isFileOf name file = true) : Path.IsName file := by
  obtain ⟨s, hs, rfl⟩ := isFileOf_iff.mp h
  refine Path.isName_of_isSuffixOf ?_ (List.suffix_append _ _) (by decide)
  simp only [List.mem_append, List.mem_cons, not_or]
  exact ⟨⟨separator_not_mem_of_isStamp hs, by decide, hn⟩, by decide⟩

/-- No path to a migration leads out of its directory at the start. -/
theorem isAbsolute_of_isFileOf {name file : Text} (h : isFileOf name file = true) :
    Path.isAbsolute file = false := by
  obtain ⟨s, hs, rfl⟩ := isFileOf_iff.mp h
  cases s with
  | nil => rfl
  | cons c cs =>
    rw [List.cons_append, List.cons_append, Path.isAbsolute, List.head?_cons,
      beq_eq_false_iff_ne]
    intro he
    exact separator_not_mem_of_isStamp hs (Option.some.inj he ▸ List.mem_cons_self)

theorem isName_fileName {name : Text} (h : Path.separator ∉ name) (t : Timestamp) :
    Path.IsName (fileName name t) :=
  isName_of_isFileOf h (isFileOf_fileName name t)

/-- What is found is a file of the directory that is a migration of the name. -/
theorem exists_of_find? {d : Disk} {directory name path : Text}
    (h : find? d directory name = some path) :
    ∃ file, path = Path.join directory file ∧ isFileOf name file = true ∧
      d.HasFile directory file := by
  obtain ⟨file, hf, rfl⟩ := Option.map_eq_some_iff.mp h
  obtain ⟨hm, hn⟩ := List.mem_filter.mp (Text.mem_of_least? hf)
  exact ⟨file, rfl, hn, Disk.mem_filesAt.mp hm⟩

/-- No file is found exactly when no file of the directory is one of the name. -/
theorem find?_eq_none_iff {d : Disk} {directory name : Text} :
    find? d directory name = none ↔
      ∀ file, d.HasFile directory file → isFileOf name file = false := by
  rw [find?, Option.map_eq_none_iff, Text.least?_eq_none_iff, List.filter_eq_nil_iff]
  simp only [Disk.mem_filesAt, Bool.not_eq_true]

theorem isFileOf_append_ending (stem name : Text) :
    isFileOf name (stem ++ ending) = isNamed stem name := by
  rw [isFileOf, Text.dropSuffix?_append, Option.any_some]

def IsMatch (d : Disk) (directory name path : Text) : Prop :=
  ∃ file, path = Path.join directory file ∧
    d.HasFile directory file ∧ isFileOf name file = true

theorem find?_eq_none_iff_isMatch {d : Disk} {directory name : Text} :
    find? d directory name = none ↔ ∀ path, ¬ IsMatch d directory name path := by
  rw [find?_eq_none_iff]
  constructor
  · rintro h path ⟨file, -, hf, hn⟩
    rw [h file hf] at hn
    cases hn
  · intro h file hf
    by_contra hn
    exact h _ ⟨file, rfl, hf, by simpa using hn⟩

/-- The least path is found, whichever way the files are listed. -/
theorem find?_eq_some_iff {d : Disk} {directory name path : Text} :
    find? d directory name = some path ↔
      IsMatch d directory name path ∧ ∀ other, IsMatch d directory name other → ¬ other < path := by
  simp only [find?, Option.map_eq_some_iff, Text.least?_eq_some_iff, List.mem_filter,
    Disk.mem_filesAt]
  constructor
  · rintro ⟨file, ⟨⟨hf, hn⟩, hl⟩, rfl⟩
    refine ⟨⟨file, rfl, hf, hn⟩, ?_⟩
    rintro _ ⟨other, rfl, ho, hm⟩ hlt
    exact hl other ⟨ho, hm⟩ ((Path.join_lt_join_iff (isAbsolute_of_isFileOf hm)
      (isAbsolute_of_isFileOf hn) directory).mp hlt)
  · rintro ⟨⟨file, rfl, hf, hn⟩, hl⟩
    refine ⟨file, ⟨⟨hf, hn⟩, ?_⟩, rfl⟩
    rintro other ⟨ho, hm⟩ hlt
    exact hl _ ⟨other, rfl, ho, hm⟩ ((Path.join_lt_join_iff (isAbsolute_of_isFileOf hm)
      (isAbsolute_of_isFileOf hn) directory).mpr hlt)

/-- The finder recognizes what the writer names. The file of a migration, made at any time, is one
of its own name only, no stem of a file is a migration of two names, and in a directory the least
path of a migration of the name is found, or nothing if there is none. -/
theorem finder_recognizes_names :
    (∀ (name : Text) (t : Timestamp), ∃ stem,
        Text.dropSuffix? (fileName name t) ending = some stem ∧
          ∀ other, isNamed stem other = true ↔ other = name) ∧
      (∀ stem name other : Text, isNamed stem name = true → isNamed stem other = true →
        name = other) ∧
      ∀ (d : Disk) (directory name : Text),
        (find? d directory name = none ↔ ∀ path, ¬ IsMatch d directory name path) ∧
          ∀ path, find? d directory name = some path ↔
            IsMatch d directory name path ∧
              ∀ other, IsMatch d directory name other → ¬ other < path := by
  have hunique : ∀ stem name other : Text, isNamed stem name = true →
      isNamed stem other = true → name = other := by
    intro stem name other h ho
    rw [← isFileOf_append_ending] at h ho
    exact eq_of_isFileOf h ho
  refine ⟨fun name t => ?written, hunique, fun d directory name => ?found⟩
  case written =>
    refine ⟨t.stamp ++ '_' :: name, Text.dropSuffix?_append _ _, fun other => ?_⟩
    have hself : isNamed (t.stamp ++ '_' :: name) name = true := by
      rw [← isFileOf_append_ending]
      exact isFileOf_fileName name t
    constructor
    · intro h
      exact hunique _ other name h hself
    · rintro rfl
      exact hself
  case found => exact ⟨find?_eq_none_iff_isMatch, fun path => find?_eq_some_iff⟩

/-- A name that ends in another one with a stamp in front of it, in a year of five digits. -/
theorem finder_recognizes_names_backup :
    let name : Text := "2024_01_31_120000_posts"
    let t : Timestamp := ⟨12024, 2, 29, 23, 59, 59, by decide, by decide, by decide, by decide⟩
    let stem : Text := "+12024_02_29_235959_2024_01_31_120000_posts"
    let d : Disk := ⟨[(["db", fileName name t], .file (.text "")),
      (["db", "2024_1_1_000000_posts.php"], .file (.text "")),
      (["db", "2023_12_31_000000_posts.php"], .file (.text "")),
      (["db", "2022_12_31_000000_posts.php"], .directory)]⟩
    Text.dropSuffix? (fileName name t) ending = some stem ∧
      (∀ other, isNamed stem other = true ↔ other = name) ∧
      (isNamed stem name = true ∧ ∀ other, isNamed stem other = true → name = other) ∧
      find? d "db/" "posts" = some "db/2023_12_31_000000_posts.php" ∧
      IsMatch d "db/" "posts" "db/2023_12_31_000000_posts.php" ∧
      ∀ other, IsMatch d "db/" "posts" other → ¬ other < "db/2023_12_31_000000_posts.php" := by
  intro name t stem d
  obtain ⟨hwritten, hunique, hfound⟩ := finder_recognizes_names
  obtain ⟨written, hw, hnamed⟩ := hwritten name t
  have hs : Text.dropSuffix? (fileName name t) ending = some stem := by decide +kernel
  obtain rfl : written = stem := Option.some.inj (hw.symm.trans hs)
  have hself : isNamed stem name = true := by decide +kernel
  have hp : find? d "db/" "posts" = some "db/2023_12_31_000000_posts.php" := by decide +kernel
  exact ⟨hs, hnamed, ⟨hself, fun other ho => hunique _ _ _ hself ho⟩, hp,
    ((hfound d "db/" "posts").2 _).mp hp⟩

end MigrationFile

end Migrations
