import Migrations.Project.Writing
import Migrations.Proofs.Project.Generation
import Migrations.Proofs.Project.Staging

namespace Migrations.Project

open Text (IsLetter)

@[simp] theorem result_withNotices (o : Outcome) (notices : List Notice) :
    (o.withNotices notices).result = o.result := rfl

@[simp] theorem disk_withNotices (o : Outcome) (notices : List Notice) :
    (o.withNotices notices).disk = o.disk := rfl

/-- Each move puts one file into its place and leaves the others where they are. -/
theorem placeFiles_ok {d : Disk} {written paths : List Text} {files : List (Text × Text)}
    {staged : List Staged} (hw : List.Forall₂ (Waits d) files staged)
    (hp : (staged.map Staged.place).Nodup) (ht : (files.map (Path.location ·.1)).Nodup)
    (hd : ∀ s ∈ staged, s.place ∉ files.map (Path.location ·.1))
    (h : (placeFiles d written staged).result = .ok paths) :
    paths = written ++ files.map (·.1) ∧
      (∀ file ∈ files,
        (placeFiles d written staged).disk.file? (Path.location file.1) = some (.text file.2)) ∧
      ∀ place ∉ files.map (Path.location ·.1), (placeFiles d written staged).disk.file? place =
        if place ∈ staged.map Staged.place then none else d.file? place := by
  induction staged generalizing d written files with
  | nil =>
    cases hw
    cases h
    simp [placeFiles]
  | cons s staged ih =>
    obtain _ | ⟨⟨htarget, hcontent⟩, hw⟩ := hw
    rename_i file files
    rw [placeFiles] at h ⊢
    cases hm : d.moveFile s.place s.target with
    | error fault => simp [hm] at h
    | ok moved =>
      simp only [hm, result_withNotices, disk_withNotices] at h ⊢
      obtain ⟨content, hc, hf⟩ := Disk.file?_moveFile hm
      obtain rfl := Option.some.inj (hcontent.symm.trans hc)
      rw [htarget] at hf
      obtain ⟨hps, hp⟩ := List.nodup_cons.mp hp
      obtain ⟨htf, ht⟩ := List.nodup_cons.mp ht
      obtain ⟨hds, hd⟩ := List.forall_mem_cons.mp hd
      simp only [List.map_cons, List.mem_cons, not_or] at hds hd
      have hmoved : List.Forall₂ (Waits moved) files staged :=
        forall₂_waits_moveFile hw hm hps fun r hr => htarget ▸ (hd r hr).1
      obtain ⟨h1, h2, h3⟩ := ih hmoved hp ht (fun r hr => (hd r hr).2) h
      refine ⟨by simp [h1, htarget], ?_, ?_⟩
      · refine List.forall_mem_cons.mpr ⟨?_, h2⟩
        have hn : Path.location file.1 ∉ staged.map Staged.place := by
          intro hm
          obtain ⟨r, hr, he⟩ := List.mem_map.mp hm
          exact (hd r hr).1 he
        rw [h3 _ htf, if_neg hn, hf, if_pos rfl]
      · intro place hplace
        simp only [List.map_cons, List.mem_cons, not_or] at hplace
        rw [h3 place hplace.2, hf, if_neg hplace.1, List.map_cons]
        by_cases hs : place = s.place
        · simp [hs]
        · simp [hs]

structure Apart (files : List (Text × Text)) : Prop where
  nodup : (files.map (Path.location ·.1)).Nodup
  notTemporary : ∀ file ∈ files, ¬ IsTemporary (Path.location file.1)

/-- No file waits in the place that another one goes to. -/
theorem Staging.place_not_mem {before after : Disk} {files : List (Text × Text)}
    {staged : List Staged} (h : Staging before after files staged) (ha : Apart files) :
    ∀ s ∈ staged, s.place ∉ files.map (Path.location ·.1) := by
  intro s hs hm
  obtain ⟨file, hf, he⟩ := List.mem_map.mp hm
  exact ha.notTemporary file hf (he ▸ h.isTemporary s hs)

/-- A write fails before a file has changed, or all of its files are staged and then moved. -/
theorem writeFiles_cases (names : TemporaryNames) (base : Text) (files : List GeneratedFile)
    (d : Disk) :
    (files ≠ [] ∧ (∃ e, (writeFiles base files d names).result = .error e) ∧
      ∀ place, (writeFiles base files d names).disk.file? place = d.file? place) ∨
    ∃ after staged, stageFiles names d (targets base files) = (after, staged, none) ∧
      Staging d after (targets base files) staged ∧
      writeFiles base files d names = placeFiles after [] staged := by
  unfold writeFiles
  rcases hs : stageFiles names d (targets base files) with ⟨after, staged, fault⟩
  cases fault with
  | some e =>
    have hn : files ≠ [] := by
      rintro rfl
      cases hs
    exact .inl ⟨hn, ⟨e, rfl⟩, (staging_take_of_stageFiles hs).1.file?_discard⟩
  | none => exact .inr ⟨after, staged, rfl, staging_of_stageFiles hs, rfl⟩

theorem writeFiles_ok {names : TemporaryNames} {base : Text} {files : List GeneratedFile}
    {d : Disk} {paths : List Text} (ha : Apart (targets base files))
    (h : (writeFiles base files d names).result = .ok paths) :
    paths = (targets base files).map (·.1) ∧
      (∀ file ∈ targets base files,
        (writeFiles base files d names).disk.file? (Path.location file.1) = some (.text file.2)) ∧
      ∀ place ∉ (targets base files).map (Path.location ·.1),
        (writeFiles base files d names).disk.file? place = d.file? place := by
  rcases writeFiles_cases names base files d with
    ⟨-, ⟨e, he⟩, -⟩ | ⟨after, staged, -, hst, hplaced⟩
  · rw [h] at he
    cases he
  · rw [hplaced] at h ⊢
    obtain ⟨h1, h2, h3⟩ := placeFiles_ok hst.waits hst.nodup ha.nodup (hst.place_not_mem ha) h
    refine ⟨h1, h2, fun place hp => ?_⟩
    rw [h3 place hp]
    split
    · rename_i hm
      obtain ⟨s, hs, rfl⟩ := List.mem_map.mp hm
      exact (hst.isFree s hs).symm
    · rename_i hm
      exact hst.frame place hm

/-- A generated file goes to a name of its own in the directory of its kind. The name tells the
kind, too. -/
theorem IsPlaced.join_eq {config : Config} {name : Text} {file : GeneratedFile}
    (h : IsPlaced config name file) (hn : Path.separator ∉ name) (base : Text) :
    ∃ last, Path.join base file.path =
        Path.join (Path.join base (directoryFor config file.kind)) last ∧
      Path.IsName last ∧ (".php" : Text) <:+ last ∧ ('_' ∈ last ↔ file.kind = .migration) := by
  cases h with
  | migration t content =>
    have hl := MigrationFile.isName_fileName hn t
    refine ⟨_, Path.join_join hl.isAbsolute base _, hl, List.suffix_append _ _, ?_⟩
    simp [MigrationFile.underscore_mem_of_isFileOf (MigrationFile.isFileOf_fileName name t)]
  | model className content hc =>
    have hm : ∀ c, ¬ IsLetter c → c ∉ ('.' :: FileKind.model.extension : Text) →
        c ∉ className ++ '.' :: FileKind.model.extension := by
      intro c h1 h2 hmem
      exact (List.mem_append.mp hmem).elim (fun hm => h1 (hc c hm)) h2
    have hs : (".php" : Text) <:+ className ++ '.' :: FileKind.model.extension :=
      List.suffix_append _ _
    have hl := Path.isName_of_isSuffixOf (hm _ (by decide) (by decide)) hs (by decide)
    refine ⟨_, Path.join_join hl.isAbsolute base _, hl, hs, ?_⟩
    simpa using hm '_' (by decide) (by decide)

theorem IsPlaced.namesDirectory {config : Config} {name : Text} {file : GeneratedFile}
    (h : IsPlaced config name file) (hn : Path.separator ∉ name) (base : Text) :
    Path.namesDirectory (Path.join base file.path) = false := by
  obtain ⟨last, hj, hl, -⟩ := h.join_eq hn base
  rw [hj]
  exact Path.namesDirectory_join hl _

/-- The directory of a generated file is that of its kind. -/
theorem IsPlaced.isSameWay {config : Config} {name : Text} {file : GeneratedFile}
    (h : IsPlaced config name file) (hn : Path.separator ∉ name) (base : Text) :
    Path.IsSameWay (directoryOf (Path.join base file.path))
      (Path.join base (directoryFor config file.kind)) := by
  obtain ⟨last, hj, hl, -⟩ := h.join_eq hn base
  obtain ⟨parent, hp, hs⟩ :=
    Path.exists_parent hl (Path.join base (directoryFor config file.kind))
  rw [hj, directoryOf, hp, Option.getD_some]
  exact hs

theorem apart_of_isGenerated {config : Config} {p : Project} (h : IsGenerated config p)
    (base : Text) (keep : GeneratedFile → Bool) : Apart (targets base (p.files.filter keep)) := by
  have hj : ∀ file ∈ p.files.filter keep, _ := fun file hf =>
    (h.isPlaced file (List.mem_filter.mp hf).1).join_eq h.name base
  constructor
  · have hk : ((p.files.filter keep).map GeneratedFile.kind).Nodup :=
      h.kinds.sublist (List.filter_sublist.map GeneratedFile.kind)
    rw [List.Nodup, List.pairwise_map] at hk
    rw [targets, List.map_map, List.Nodup, List.pairwise_map]
    refine hk.imp_of_mem fun {f g} hf hg hne he => hne ?_
    obtain ⟨lf, hef, hlf, _, hkf⟩ := hj f hf
    obtain ⟨lg, heg, hlg, _, hkg⟩ := hj g hg
    simp only [Function.comp_apply, hef, heg, Path.location_join hlf, Path.location_join hlg] at he
    obtain rfl := List.singleton_inj.mp (List.append_inj_right' he rfl)
    have hiff := hkf.symm.trans hkg
    cases hf : f.kind <;> cases hg : g.kind <;> simp_all
  · intro target ht
    obtain ⟨file, hf, rfl⟩ := List.mem_map.mp ht
    obtain ⟨last, he, hl, hs, _⟩ := hj file hf
    intro htmp
    rw [he, Path.location_join hl] at htmp
    exact htmp.ne_of_isSuffixOf hs rfl

def replaced? (config : Config) (base : Text) (p : Project) (d : Disk) : Option Location :=
  if config.overwrite then
    (MigrationFile.find? d (Path.join base config.migrationsDir) p.name).map Path.location
  else none

/-- What stands in the directories of a configuration can be found before they are made. They lie
below the base, which goes up from nothing that is missing, and an empty path leads nowhere. -/
structure IsShown (config : Config) (base : Text) (d : Disk) : Prop where
  isBelow : ∀ kind, Path.IsBelow (directoryFor config kind)
  isGrounded : d.IsGrounded base
  ne_nil : Path.join base config.migrationsDir ≠ []

/-- What writing a project does to the files of a disk. A file that is left out is a model that was
found on the disk. -/
structure Written (config : Config) (base : Text) (p : Project) (before after : Disk)
    (paths : List Text) : Prop where
  inOrder : paths.Sublist (p.files.map fun file => Path.join base file.path)
  hasMigration : ∃ file ∈ p.files, file.kind = .migration ∧ Path.join base file.path ∈ paths
  leftOut : ∀ file ∈ p.files, Path.join base file.path ∉ paths ↔
    file.kind = .model ∧ ∃ place entry,
      before.locate (Path.join base file.path) = .ok place ∧ before.get? place = some entry
  placed : ∀ file ∈ p.files, Path.join base file.path ∈ paths →
    after.file? (Path.location (Path.join base file.path)) = some (.text file.content)
  frame : ∀ place ∉ paths.map Path.location, after.file? place =
    if replaced? config base p before = some place then none else before.file? place
  found : IsShown config base before → ∀ file ∈ p.files,
    before.locate (Path.join base file.path) = .ok (Path.location (Path.join base file.path))
  isNew : IsShown config base before → config.overwrite = false →
    ∀ path ∈ paths, before.isFile (Path.location path) = false

theorem result_dropReplaced (existing : Option Text) (o : Outcome) :
    (dropReplaced existing o).result = o.result := by
  unfold dropReplaced
  split
  · split <;> rfl
  · rfl

/-- Where the paths of the written files are equal to that of the old migration exactly if they name
the same place, the old migration stays exactly if it was written anew. -/
theorem file?_dropReplaced {o : Outcome} {paths : List Text} (h : o.result = .ok paths)
    {existing : Option Text}
    (he : ∀ path, existing = some path → Path.location path ∈ paths.map Path.location →
      path ∈ paths) (place : Location) :
    (dropReplaced existing o).disk.file? place =
      if place ∉ paths.map Path.location ∧ existing.map Path.location = some place then none
      else o.disk.file? place := by
  cases existing with
  | none => simp [dropReplaced, h]
  | some path =>
    simp only [dropReplaced, h, List.contains_iff_mem, Option.map_some, Option.some.injEq]
    by_cases hm : Path.components path ∈ paths.map Path.components
    · obtain ⟨other, ho, hc⟩ := List.mem_map.mp hm
      rw [if_pos hm, if_neg]
      rintro ⟨hn, rfl⟩
      exact hn (List.mem_map.mpr ⟨other, ho, Path.location_eq_of_components_eq hc⟩)
    · have hl : Path.location path ∉ paths.map Path.location := fun hl =>
        hm (List.mem_map_of_mem (he path rfl hl))
      rw [if_neg hm, Disk.file?_erase]
      by_cases hp : place = Path.location path
      · subst hp
        rw [if_pos rfl, if_pos ⟨hl, rfl⟩]
      · rw [if_neg hp, if_neg fun hc => hp hc.2.symm]

theorem isKept_eq_true_iff {base : Text} {d : Disk} {file : GeneratedFile} :
    isKept base d file = true ↔ file.kind = .model ∧ ∃ place entry,
      d.locate (Path.join base file.path) = .ok place ∧ d.get? place = some entry := by
  rw [isKept, Bool.and_eq_true, decide_eq_true_eq, Disk.reaches_iff]

/-- The files of a generated project go to different places. -/
theorem mem_paths_iff {config : Config} {base : Text} {p : Project} (hg : IsGenerated config p)
    {keep : GeneratedFile → Bool} {file : GeneratedFile} (hf : file ∈ p.files) :
    Path.join base file.path ∈
        (p.files.filter keep).map (fun file => Path.join base file.path) ↔ keep file = true := by
  constructor
  · intro hm
    obtain ⟨other, ho, he⟩ := List.mem_map.mp hm
    obtain ⟨hof, hk⟩ := List.mem_filter.mp ho
    have hn := (apart_of_isGenerated hg base fun _ => true).nodup
    rw [targets, List.map_map, List.filter_true] at hn
    have hsame : other = file := by
      apply List.inj_on_of_nodup_map hn hof hf
      simp only [Function.comp_apply, he]
    rwa [hsame] at hk
  · intro hk
    exact List.mem_map.mpr ⟨file, List.mem_filter.mpr ⟨hf, hk⟩, rfl⟩

/-- A write that succeeds has found no migration, or may replace it. -/
theorem write_eq {names : TemporaryNames} {config : Config} {base : Text} {p : Project} {d : Disk}
    {paths : List Text} (h : (p.write config base d names).result = .ok paths) :
    let existing := MigrationFile.find? d (Path.join base config.migrationsDir) p.name
    let fresh := p.files.filter fun file => !isKept base d file
    (config.overwrite = false → existing = none) ∧
      (writeFiles base fresh d names).result = .ok paths ∧
      (p.write config base d names).disk =
        (dropReplaced existing (writeFiles base fresh d names)).disk := by
  unfold write at h ⊢
  dsimp only at h ⊢
  split at h
  · cases h
  · rename_i hn
    rw [result_withNotices, result_dropReplaced] at h
    refine ⟨fun ho => ?_, h, rfl⟩
    cases he : MigrationFile.find? d (Path.join base config.migrationsDir) p.name with
    | none => rfl
    | some path => exact (hn path he ho).elim

/-- All files that are written have been staged. -/
theorem exists_staging {names : TemporaryNames} {base : Text} {files : List GeneratedFile}
    {d : Disk} {paths : List Text} (h : (writeFiles base files d names).result = .ok paths) :
    ∃ after staged, Staging d after (targets base files) staged := by
  rcases writeFiles_cases names base files d with ⟨-, ⟨e, he⟩, -⟩ | ⟨after, staged, -, hs, -⟩
  · rw [h] at he
    cases he
  · exact ⟨after, staged, hs⟩

/-- A file that is written was staged, so its directory was not one that goes up from something
missing, unless it was made for the file. -/
theorem follow_of_write {names : TemporaryNames} {config : Config} {base : Text} {p : Project}
    {d : Disk} {paths : List Text} (hg : IsGenerated config p)
    (h : (p.write config base d names).result = .ok paths) {file : GeneratedFile}
    (hf : file ∈ p.files) (hk : isKept base d file = false)
    (hd : d.IsGrounded (Path.join base (directoryFor config file.kind))) :
    d.follow (Path.join base (directoryFor config file.kind)) =
        .ok (Path.location (Path.join base (directoryFor config file.kind))) ∧
      d.locate (Path.join base file.path) = .ok (Path.location (Path.join base file.path)) := by
  obtain ⟨after, staged, hs⟩ := exists_staging (write_eq h).2.1
  have hplaced := hg.isPlaced file hf
  have hway := hplaced.isSameWay hg.name base
  have hground := hd.of_isSameWay hway.symm
  have hm : (Path.join base file.path, file.content) ∈
      targets base (p.files.filter fun file => !isKept base d file) :=
    List.mem_map.mpr ⟨file, List.mem_filter.mpr ⟨hf, by simp [hk]⟩, rfl⟩
  obtain ⟨hfollow, hfile⟩ := hground.follow hs.keeps (hs.paves hm)
  refine ⟨?_, hs.locate hm (hplaced.namesDirectory hg.name base) hground⟩
  rw [← hway.location_eq]
  exact Disk.follow_of_isSameWay hway hfollow hfile

theorem isKept_of_migration {base : Text} {d : Disk} {file : GeneratedFile}
    (h : file.kind = .migration) : isKept base d file = false := by
  simp [isKept, h]

/-- After a write that succeeds, the directory of migrations was one that could be looked up, unless
it goes up from something missing. -/
theorem locate_of_write {names : TemporaryNames} {config : Config} {base : Text} {p : Project}
    {d : Disk} {paths : List Text} (hg : IsGenerated config p)
    (hl : d.locate (Path.join base config.migrationsDir) ≠ .error .notFound)
    (h : (p.write config base d names).result = .ok paths) :
    d.locate (Path.join base config.migrationsDir) =
      .ok (Path.location (Path.join base config.migrationsDir)) := by
  obtain ⟨file, hf, hk⟩ := hg.hasMigration
  unfold Disk.locate at hl ⊢
  split at hl
  · exact (hl rfl).elim
  · rename_i hne
    rw [if_neg hne]
    have hd : directoryFor config file.kind = config.migrationsDir := by rw [hk, directoryFor]
    have hfollow := follow_of_write hg h hf (isKept_of_migration hk)
    rw [hd] at hfollow
    exact (hfollow hl).1

theorem IsShown.congr {config other : Config} {base : Text} {d : Disk}
    (h : IsShown config base d) (hm : config.migrationsDir = other.migrationsDir)
    (ho : config.modelsDir = other.modelsDir) : IsShown other base d := by
  refine ⟨fun kind => ?_, h.isGrounded, hm ▸ h.ne_nil⟩
  have hb := h.isBelow kind
  cases kind <;> simp_all [directoryFor]

theorem IsShown.isGrounded_directory {config : Config} {base : Text} {d : Disk}
    (h : IsShown config base d) (kind : FileKind) :
    d.IsGrounded (Path.join base (directoryFor config kind)) :=
  (Disk.isGrounded_join_iff (h.isBelow kind) base).mpr h.isGrounded

theorem IsShown.locate_ne_notFound {config : Config} {base : Text} {d : Disk}
    (h : IsShown config base d) :
    d.locate (Path.join base config.migrationsDir) ≠ .error .notFound := by
  rw [Disk.locate, if_neg h.ne_nil]
  exact h.isGrounded_directory .migration

/-- No file stands in the place of a file that is written, if no migration of its name exists. -/
theorem isFile_eq_false {names : TemporaryNames} {config : Config} {base : Text} {p : Project}
    {d : Disk} {paths : List Text} (hg : IsGenerated config p) (hs : IsShown config base d)
    (h : (p.write config base d names).result = .ok paths)
    (he : MigrationFile.find? d (Path.join base config.migrationsDir) p.name = none)
    {file : GeneratedFile} (hf : file ∈ p.files) (hk : isKept base d file = false) :
    d.isFile (Path.location (Path.join base file.path)) = false := by
  cases hm : file.kind with
  | migration =>
    cases hg.isPlaced file hf with
    | migration t content =>
      have hl := MigrationFile.isName_fileName hg.name t
      rw [Path.join_join hl.isAbsolute, Path.location_join hl]
      by_contra hc
      have hlocate := locate_of_write hg hs.locate_ne_notFound h
      have hn := MigrationFile.find?_eq_none_iff.mp he _
        ((Disk.hasFile_iff hlocate).mpr (by simpa using hc))
      rw [MigrationFile.isFileOf_fileName] at hn
      cases hn
    | model => cases hm
  | model =>
    have hl := (follow_of_write hg h hf hk (hs.isGrounded_directory file.kind)).2
    have hr : d.reaches (Path.join base file.path) = false := by simpa [isKept, hm] using hk
    rw [Disk.isFile, Disk.file?, Disk.get?_of_not_reaches hr hl]
    rfl

/-- A written path in the place of the old migration is that of the new one, and is equal to it. -/
theorem mem_of_location_mem {config : Config} {base : Text} {p : Project} {d : Disk}
    (hg : IsGenerated config p) {keep : GeneratedFile → Bool} {path : Text}
    (h : MigrationFile.find? d (Path.join base config.migrationsDir) p.name = some path)
    (hl : Path.location path ∈
      ((p.files.filter keep).map fun file => Path.join base file.path).map Path.location) :
    path ∈ (p.files.filter keep).map fun file => Path.join base file.path := by
  obtain ⟨found, rfl, hn, -⟩ := MigrationFile.exists_of_find? h
  rw [List.map_map] at hl
  obtain ⟨file, hf, he⟩ := List.mem_map.mp hl
  refine List.mem_map.mpr ⟨file, hf, ?_⟩
  obtain ⟨last, hj, hlast, -, hk⟩ :=
    (hg.isPlaced file (List.mem_filter.mp hf).1).join_eq hg.name base
  rw [Function.comp_apply, hj, Path.location_join hlast,
    Path.location_join (MigrationFile.isName_of_isFileOf hg.name hn)] at he
  obtain rfl := List.singleton_inj.mp (List.append_inj_right' he rfl)
  rw [hj, hk.mp (MigrationFile.underscore_mem_of_isFileOf hn), directoryFor]

theorem written_of_isGenerated {names : TemporaryNames} {config : Config} {base : Text}
    {p : Project} {d : Disk} {paths : List Text} (hg : IsGenerated config p)
    (h : (p.write config base d names).result = .ok paths) :
    Written config base p d (p.write config base d names).disk paths := by
  have ha := apart_of_isGenerated hg base fun file => !isKept base d file
  obtain ⟨he, hw, hd⟩ := write_eq h
  obtain ⟨h1, h2, h3⟩ := writeFiles_ok ha hw
  have hp : paths = (p.files.filter fun file => !isKept base d file).map
      fun file => Path.join base file.path := by
    rw [h1, targets, List.map_map]
    rfl
  have hl : paths.map Path.location = (targets base (p.files.filter fun file =>
      !isKept base d file)).map (Path.location ·.1) := by
    rw [h1, List.map_map]
    rfl
  have hmem : ∀ file ∈ p.files, Path.join base file.path ∈ paths ↔ isKept base d file = false := by
    intro file hf
    rw [hp, mem_paths_iff hg hf, Bool.not_eq_true']
  have hold : ∀ path, MigrationFile.find? d (Path.join base config.migrationsDir) p.name =
      some path → Path.location path ∈ paths.map Path.location → path ∈ paths := by
    intro path hfind hm
    rw [hp] at hm ⊢
    exact mem_of_location_mem hg hfind hm
  rw [hd]
  constructor
  case inOrder =>
    rw [hp]
    exact List.filter_sublist.map _
  case hasMigration =>
    obtain ⟨file, hf, hk⟩ := hg.hasMigration
    exact ⟨file, hf, hk, (hmem file hf).mpr (isKept_of_migration hk)⟩
  case leftOut =>
    intro file hf
    rw [hmem file hf, Bool.not_eq_false, isKept_eq_true_iff]
  case placed =>
    intro file hf hk
    have hm : (Path.join base file.path, file.content) ∈
        targets base (p.files.filter fun file => !isKept base d file) := by
      refine List.mem_map.mpr ⟨file, List.mem_filter.mpr ⟨hf, ?_⟩, rfl⟩
      rw [(hmem file hf).mp hk, Bool.not_false]
    rw [file?_dropReplaced hw hold, if_neg, h2 _ hm]
    rintro ⟨hn, _⟩
    exact hn (hl ▸ List.mem_map.mpr ⟨_, hm, rfl⟩)
  case frame =>
    intro place hn
    rw [file?_dropReplaced hw hold, h3 place (hl ▸ hn)]
    cases ho : config.overwrite with
    | false => simp [replaced?, ho, he ho]
    | true => simp [replaced?, ho, hn]
  case found =>
    intro hs file hf
    cases hk : isKept base d file with
    | false => exact (follow_of_write hg h hf hk (hs.isGrounded_directory file.kind)).2
    | true =>
      obtain ⟨-, place, -, hlocate, -⟩ := isKept_eq_true_iff.mp hk
      rw [hlocate, Disk.locate_eq_location hlocate]
  case isNew =>
    intro hs ho path hm
    rw [hp] at hm
    obtain ⟨file, hf, rfl⟩ := List.mem_map.mp hm
    obtain ⟨hf, hk⟩ := List.mem_filter.mp hf
    exact isFile_eq_false hg hs h (he ho) hf (by simpa using hk)

/-- A generated project that is written adds its files and takes away the migration that it
replaces. No other file changes. Without leave to replace none is overwritten, unless the base goes
up from something missing. -/
theorem written_of_write {names : TemporaryNames} {config : Config} {base : Text} {p : Project}
    {d : Disk} {paths : List Text}
    (hg : (∃ name schema t, ofMigration config name schema t = .ok p) ∨
      ∃ first second t, ofPivot config first second t = .ok p)
    (h : (p.write config base d names).result = .ok paths) :
    Written config base p d (p.write config base d names).disk paths := by
  rcases hg with ⟨name, schema, t, hp⟩ | ⟨first, second, t, hp⟩
  · exact written_of_isGenerated (isGenerated_ofMigration hp) h
  · exact written_of_isGenerated (isGenerated_ofPivot hp) h

/-- A new table with a model, whose migration was made before. -/
theorem written_of_write_posts :
    let config : Config := { generateModel := true, overwrite := true }
    let t : Timestamp := ⟨2024, 1, 31, 12, 0, 0, by decide, by decide, by decide, by decide⟩
    let before : Disk := ⟨[
      (["app", "database", "migrations", "2023_01_31_120000_create_posts_table.php"],
        .file (.text "<?php")),
      (["app", "database", "migrations"], .directory), (["app", "database"], .directory),
      (["app"], .directory)]⟩
    IsShown config "app" before ∧ ∃ p paths,
      ofMigration config "create_posts_table" [] t = .ok p ∧
      (p.write config "app" before .standard).result = .ok paths ∧
      Written config "app" p before (p.write config "app" before .standard).disk paths := by
  intro config t before
  have hs : IsShown config "app" before :=
    ⟨fun kind => by cases kind <;> decide, Disk.isGrounded_of_above_not_mem (by decide), by decide⟩
  have hk : ((ofMigration config "create_posts_table" [] t).bind fun p =>
      (p.write config "app" before .standard).result).isOk = true := by decide +kernel
  cases hp : ofMigration config "create_posts_table" [] t with
  | error e =>
    rw [hp] at hk
    cases hk
  | ok p =>
    cases hw : (p.write config "app" before .standard).result with
    | error e =>
      rw [hp, Except.bind, hw] at hk
      cases hk
    | ok paths => exact ⟨hs, p, paths, rfl, hw, written_of_write (.inl ⟨_, _, _, hp⟩) hw⟩

/-- A base that goes up from a missing directory hides what is below it. The directory is made on
the way to the first file, and the model that stands there is replaced. -/
theorem write_replaces_hidden_model :
    let config : Config := { generateModel := true }
    let t : Timestamp := ⟨2024, 1, 31, 12, 0, 0, by decide, by decide, by decide, by decide⟩
    let model : Location := ["app", "Models", "Post.php"]
    let before : Disk := ⟨[
      (model, .file (.text "<?php")), (["app", "Models"], .directory), (["app"], .directory)]⟩
    before.IsTree ∧ (∀ kind, Path.IsBelow (directoryFor config kind)) ∧ ∃ p,
      ofMigration config "create_posts_table" [] t = .ok p ∧
      (p.write config "missing/.." before .standard).result = .ok
        ["missing/../database/migrations/2024_01_31_120000_create_posts_table.php",
          "missing/../app/Models/Post.php"] ∧
      Path.location "missing/../app/Models/Post.php" = model ∧ before.isFile model = true ∧
      (p.write config "missing/.." before .standard).disk.file? model ≠ before.file? model := by
  intro config t model before
  have hw : (ofMigration config "create_posts_table" [] t).map
      (fun p =>
        let o := p.write config "missing/.." before .standard
        (o.result, decide (o.disk.file? model = before.file? model))) =
      .ok (.ok ["missing/../database/migrations/2024_01_31_120000_create_posts_table.php",
        "missing/../app/Models/Post.php"], false) := by
    decide +kernel
  refine ⟨by decide, fun kind => by cases kind <;> decide, ?_⟩
  cases hp : ofMigration config "create_posts_table" [] t with
  | error e =>
    rw [hp] at hw
    cases hw
  | ok p =>
    rw [hp] at hw
    obtain ⟨hr, hm⟩ := Prod.mk.inj (Except.ok.inj hw)
    exact ⟨p, rfl, hr, by decide, by decide, of_decide_eq_false hm⟩

end Migrations.Project
