import Migrations.Proofs.Project.Failure

namespace Migrations

/-- No two files of a directory are migrations of one name. -/
def Disk.HasUniqueMigrations (d : Disk) (directory : Location) : Prop :=
  ∀ name file other, d.isFile (directory ++ [file]) = true →
    d.isFile (directory ++ [other]) = true → MigrationFile.isFileOf name file = true →
      MigrationFile.isFileOf name other = true → file = other

theorem Disk.HasUniqueMigrations.mono {d d' : Disk} {directory : Location}
    (h : d.HasUniqueMigrations directory)
    (hs : ∀ place, d'.isFile place = true → d.isFile place = true) :
    d'.HasUniqueMigrations directory :=
  fun name file other hf ho => h name file other (hs _ hf) (hs _ ho)

namespace Project

inductive Request where
  | migration (name schema : Text)
  | pivot (first second : Text)
  deriving DecidableEq, Repr

namespace Request

def project (r : Request) (config : Config) (t : Timestamp) : Except Error Project :=
  match r with
  | migration name schema => ofMigration config name schema t
  | pivot first second => ofPivot config first second t

def name : Request → Text
  | migration name _ => Name.snake (Text.trim name)
  | pivot first second => (Pivot.ofTables first second).name

theorem isGenerated {r : Request} {config : Config} {t : Timestamp} {p : Project}
    (h : r.project config t = .ok p) : IsGenerated config p := by
  cases r with
  | migration name schema =>
    simp only [project] at h
    exact isGenerated_ofMigration h
  | pivot first second =>
    simp only [project] at h
    exact isGenerated_ofPivot h

theorem name_of_project {r : Request} {config : Config} {t : Timestamp} {p : Project}
    (h : r.project config t = .ok p) : p.name = r.name := by
  cases r with
  | migration name schema =>
    simp only [project] at h
    exact name_ofMigration h
  | pivot first second =>
    simp only [project] at h
    exact name_ofPivot h

end Request

theorem isFile_of_write_error {names : TemporaryNames} {config : Config} {base : Text}
    {p : Project} {d : Disk} {e : Error} (h : (p.write config base d names).result = .error e)
    {place : Location} (hf : (p.write config base d names).disk.isFile place = true) :
    d.isFile place = true := by
  rcases write_error h with hsame | ⟨hw, hdisk⟩
  · rwa [hsame] at hf
  · obtain ⟨k, _, hafter⟩ := file?_writeFiles_error hw
    rw [hdisk, Disk.isFile, hafter] at hf
    split at hf
    · cases hf
    · exact hf

/-- A file that was written and is a migration of some name is the migration of the project. -/
theorem exists_migration_of_isFileOf {config : Config} {base : Text} {p : Project}
    (hg : IsGenerated config p) {directory : Location} {name file : Text} {g : GeneratedFile}
    (hm : g ∈ p.files) (he : directory ++ [file] = Path.location (Path.join base g.path))
    (hn : MigrationFile.isFileOf name file = true) : name = p.name ∧ g.kind = .migration := by
  cases hg.isPlaced g hm with
  | migration t content =>
    have hl := MigrationFile.isName_fileName hg.name t
    rw [Path.join_join hl.isAbsolute, Path.location_join hl] at he
    obtain rfl := List.singleton_inj.mp (List.append_inj_right' he rfl)
    exact ⟨MigrationFile.eq_of_isFileOf hn (MigrationFile.isFileOf_fileName p.name t), rfl⟩
  | model className content hc =>
    obtain ⟨last, hj, hl, _, hk⟩ := (hg.isPlaced _ hm).join_eq hg.name base
    rw [hj, Path.location_join hl] at he
    obtain rfl := List.singleton_inj.mp (List.append_inj_right' he rfl)
    cases hk.mp (MigrationFile.underscore_mem_of_isFileOf hn)

/-- The only migration of the project's name is the one that is replaced. -/
theorem replaced?_of_isFile {names : TemporaryNames} {config : Config} {base : Text} {p : Project}
    {d : Disk} {paths : List Text} (hg : IsGenerated config p)
    (hl : d.locate (Path.join base config.migrationsDir) ≠ .error .notFound)
    (hd : d.HasUniqueMigrations (Path.location (Path.join base config.migrationsDir)))
    (h : (p.write config base d names).result = .ok paths) {file : Text}
    (hf : d.isFile (Path.location (Path.join base config.migrationsDir) ++ [file]) = true)
    (hn : MigrationFile.isFileOf p.name file = true) :
    replaced? config base p d =
      some (Path.location (Path.join base config.migrationsDir) ++ [file]) := by
  obtain ⟨hnone, _⟩ := write_eq h
  have hlocate := locate_of_write hg hl h
  cases hfind : MigrationFile.find? d (Path.join base config.migrationsDir) p.name with
  | none =>
    have hc := MigrationFile.find?_eq_none_iff.mp hfind file ((Disk.hasFile_iff hlocate).mpr hf)
    rw [hn] at hc
    cases hc
  | some path =>
    obtain ⟨found, rfl, hfn, hff⟩ := MigrationFile.exists_of_find? hfind
    obtain rfl := hd p.name found file ((Disk.hasFile_iff hlocate).mp hff) hf hfn hn
    have ho : config.overwrite = true := by
      by_contra hc
      rw [hnone (by simpa using hc)] at hfind
      cases hfind
    rw [replaced?, if_pos ho, hfind, Option.map_some,
      Path.location_join (MigrationFile.isName_of_isFileOf hg.name hfn)]

/-- A migration after a write is the one that was written, or one of another name from before. -/
theorem Written.migration_cases {names : TemporaryNames} {config : Config} {base : Text}
    {p : Project} {d : Disk} {paths : List Text} (hg : IsGenerated config p)
    (hl : d.locate (Path.join base config.migrationsDir) ≠ .error .notFound)
    (hd : d.HasUniqueMigrations (Path.location (Path.join base config.migrationsDir)))
    (h : (p.write config base d names).result = .ok paths) {name file : Text}
    (hf : (p.write config base d names).disk.isFile
      (Path.location (Path.join base config.migrationsDir) ++ [file]) = true)
    (hn : MigrationFile.isFileOf name file = true) :
    (name = p.name ∧ ∃ g ∈ p.files, g.kind = .migration ∧
      Path.location (Path.join base config.migrationsDir) ++ [file] =
        Path.location (Path.join base g.path)) ∨
    (name ≠ p.name ∧
      d.isFile (Path.location (Path.join base config.migrationsDir) ++ [file]) = true) := by
  have hw := written_of_isGenerated hg h
  by_cases hm : Path.location (Path.join base config.migrationsDir) ++ [file] ∈
      paths.map Path.location
  · obtain ⟨path, hpath, he⟩ := List.mem_map.mp hm
    obtain ⟨g, hgp, rfl⟩ := List.mem_map.mp (hw.inOrder.subset hpath)
    obtain ⟨hname, hkind⟩ := exists_migration_of_isFileOf hg hgp he.symm hn
    exact .inl ⟨hname, g, hgp, hkind, he.symm⟩
  · rw [Disk.isFile, hw.frame _ hm] at hf
    split at hf
    · cases hf
    · rename_i hr
      refine .inr ⟨?_, hf⟩
      rintro rfl
      exact hr (replaced?_of_isFile hg hl hd h hf hn)

theorem hasUniqueMigrations_write {names : TemporaryNames} {config : Config} {base : Text}
    {p : Project} {d : Disk} (hg : IsGenerated config p)
    (hl : d.locate (Path.join base config.migrationsDir) ≠ .error .notFound)
    (hd : d.HasUniqueMigrations (Path.location (Path.join base config.migrationsDir))) :
    (p.write config base d names).disk.HasUniqueMigrations
      (Path.location (Path.join base config.migrationsDir)) := by
  cases hr : (p.write config base d names).result with
  | error e => exact hd.mono fun _ => isFile_of_write_error hr
  | ok paths =>
    intro name file other hf ho hnf hno
    rcases Written.migration_cases hg hl hd hr hf hnf with ⟨hn, f, hfm, hfk, hfe⟩ | ⟨hn, hfd⟩
    · rcases Written.migration_cases hg hl hd hr ho hno with ⟨_, g, hgm, hgk, hge⟩ | ⟨hne, _⟩
      · obtain rfl := hg.eq_of_kind hfm hgm (hfk.trans hgk.symm)
        exact List.singleton_inj.mp (List.append_inj_right' (hfe.trans hge.symm) rfl)
      · exact (hne hn).elim
    · rcases Written.migration_cases hg hl hd hr ho hno with ⟨he, _⟩ | ⟨_, hod⟩
      · exact (hn he).elim
      · exact hd name file other hfd hod hnf hno

/-- Without leave to replace it, a migration of the name is in the way. -/
theorem write_of_isFileOf {names : TemporaryNames} {config : Config} {base : Text} {p : Project}
    {d : Disk} (hn : Path.separator ∉ p.name) (ho : config.overwrite = false)
    {directory : Location} (hl : d.locate (Path.join base config.migrationsDir) = .ok directory)
    {file : Text} (hf : d.isFile (directory ++ [file]) = true)
    (h : MigrationFile.isFileOf p.name file = true) :
    ∃ path found, (p.write config base d names).result = .error (.migrationExists path) ∧
      Path.location path = directory ++ [found] ∧
      MigrationFile.isFileOf p.name found = true := by
  cases hfind : MigrationFile.find? d (Path.join base config.migrationsDir) p.name with
  | none =>
    have hc := MigrationFile.find?_eq_none_iff.mp hfind file ((Disk.hasFile_iff hl).mpr hf)
    rw [h] at hc
    cases hc
  | some path =>
    obtain ⟨found, rfl, hfn, _⟩ := MigrationFile.exists_of_find? hfind
    refine ⟨Path.join (Path.join base config.migrationsDir) found, found, ?_, ?_, hfn⟩
    · simp only [write, hfind, ho]
    · rw [Path.location_join (MigrationFile.isName_of_isFileOf hn hfn),
        Disk.locate_eq_location hl]

/-- One project that is generated with a configuration, and written with one that agrees with it on
where migrations go. -/
structure Attempt where
  request : Request
  time : Timestamp
  generator : Config
  writer : Config
  sameDirectory : generator.migrationsDir = writer.migrationsDir
  base : Text
  names : TemporaryNames

namespace Attempt

def path (a : Attempt) : Text := Path.join a.base a.writer.migrationsDir

def run (a : Attempt) (d : Disk) : Outcome :=
  match a.request.project a.generator a.time with
  | .error e => ⟨.error e, d, []⟩
  | .ok p => p.write a.writer a.base d a.names

/-- A project does not depend on whether it may replace another one, nor does writing it depend on
where its model goes. -/
theorem isGenerated {a : Attempt} {p : Project}
    (h : a.request.project a.generator a.time = .ok p) :
    IsGenerated { a.writer with modelsDir := a.generator.modelsDir } p :=
  (Request.isGenerated h).congr a.sameDirectory rfl

theorem hasUniqueMigrations_run (a : Attempt) {d : Disk}
    (hl : d.locate a.path ≠ .error .notFound)
    (hd : d.HasUniqueMigrations (Path.location a.path)) :
    (a.run d).disk.HasUniqueMigrations (Path.location a.path) := by
  unfold run
  cases hp : a.request.project a.generator a.time with
  | error e => exact hd
  | ok p =>
    change (p.write { a.writer with modelsDir := a.generator.modelsDir } a.base d
      a.names).disk.HasUniqueMigrations (Path.location a.path)
    exact hasUniqueMigrations_write (isGenerated hp) hl hd

end Attempt

def history (d : Disk) (attempts : List Attempt) : Disk :=
  attempts.foldl (fun d a => (a.run d).disk) d

/-- Every attempt is about the directory, and can look it up when it is made. -/
def AreAbout (directory : Location) (d : Disk) : List Attempt → Prop
  | [] => True
  | a :: rest => Path.location a.path = directory ∧ d.locate a.path ≠ .error .notFound ∧
      AreAbout directory (a.run d).disk rest

theorem AreAbout.take {directory : Location} {d : Disk} {attempts : List Attempt}
    (h : AreAbout directory d attempts) (k : Nat) : AreAbout directory d (attempts.take k) := by
  induction k generalizing d attempts with
  | zero => trivial
  | succ k ih =>
    cases attempts with
    | nil => trivial
    | cons a rest => exact ⟨h.1, h.2.1, ih h.2.2⟩

/-- A directory that is reached without going up can be looked up on every disk. -/
theorem areAbout_of_above_not_mem {directory : Location} {attempts : List Attempt}
    (h : ∀ a ∈ attempts, Path.location a.path = directory ∧ a.path ≠ [] ∧
      Path.above ∉ Path.parts a.path) (d : Disk) : AreAbout directory d attempts := by
  induction attempts generalizing d with
  | nil => trivial
  | cons a rest ih =>
    obtain ⟨⟨hp, hn, ha⟩, hrest⟩ := List.forall_mem_cons.mp h
    refine ⟨hp, ?_, ih hrest _⟩
    rw [Disk.locate, if_neg hn]
    exact Disk.isGrounded_of_above_not_mem ha

theorem hasUniqueMigrations_history {directory : Location} {d : Disk} {attempts : List Attempt}
    (h : AreAbout directory d attempts) (hd : d.HasUniqueMigrations directory) :
    (history d attempts).HasUniqueMigrations directory := by
  induction attempts generalizing d with
  | nil => exact hd
  | cons a rest ih =>
    obtain ⟨rfl, hl, hrest⟩ := h
    exact ih hrest (a.hasUniqueMigrations_run hl hd)

/-- However often projects are written to a directory that can be looked up, each name has at most
one migration there. A name that has one is refused unless the migration may be replaced, whatever
its spelling and its time. -/
theorem one_migration_per_name {directory : Location} {d : Disk} {attempts : List Attempt}
    (h : AreAbout directory d attempts) (hd : d.HasUniqueMigrations directory) :
    (∀ k, (history d (attempts.take k)).HasUniqueMigrations directory) ∧
      ∀ a ∈ attempts, a.writer.overwrite = false → ∀ now : Disk, ∀ p file,
        now.locate a.path = .ok directory →
        a.request.project a.generator a.time = .ok p →
        now.isFile (directory ++ [file]) = true →
        MigrationFile.isFileOf a.request.name file = true →
        ∃ path found, (a.run now).result = .error (.migrationExists path) ∧
          Path.location path = directory ++ [found] ∧
          MigrationFile.isFileOf a.request.name found = true := by
  constructor
  · intro k
    exact hasUniqueMigrations_history (h.take k) hd
  · intro a hm ho now p file hl hp hf hn
    rw [← Request.name_of_project hp] at hn ⊢
    have hs := (Attempt.isGenerated hp).name
    simp only [Attempt.run, hp]
    exact write_of_isFileOf hs ho hl hf hn

/-- A migration is replaced under another spelling of its name, which without leave to replace it
would have been refused. -/
theorem one_migration_per_name_posts :
    let directory : Location := ["app", "database", "migrations"]
    let posts : Text := "2023_01_31_120000_create_posts_table.php"
    let views : Text := "2023_02_01_120000_add_views_to_posts_table.php"
    let before : Disk := ⟨[
      (directory ++ [posts], .file (.text "<?php")), (directory ++ [views], .file (.text "<?php")),
      (directory, .directory), (["app", "database"], .directory), (["app"], .directory)]⟩
    let t : Timestamp := ⟨2024, 1, 31, 12, 0, 0, by decide, by decide, by decide, by decide⟩
    let replacing : Attempt := ⟨.migration "create posts table" "title:string", t,
      { generateModel := true }, { overwrite := true }, rfl, "app", .standard⟩
    let refused : Attempt := ⟨.migration "CreatePostsTable" [], t, {}, {}, rfl, "app", .standard⟩
    (history before [replacing, refused]).HasUniqueMigrations directory ∧
      ∃ path, (refused.run before).result = .error (.migrationExists path) := by
  intro directory posts views before t replacing refused
  have ha : AreAbout directory before [replacing, refused] :=
    areAbout_of_above_not_mem (by decide) before
  have hposts : MigrationFile.isFileOf "create_posts_table" posts = true := by decide
  have hviews : MigrationFile.isFileOf "add_views_to_posts_table" views = true := by decide
  have hne : ("create_posts_table" : Text) ≠ "add_views_to_posts_table" := by decide
  have hfiles : ∀ file, before.isFile (directory ++ [file]) = true →
      file = posts ∨ file = views := by
    intro file hf
    have hm : before.filesIn directory = [posts, views] := by decide
    rw [← Disk.mem_filesIn, hm] at hf
    simpa using hf
  have hd : before.HasUniqueMigrations directory := by
    intro name file other hf ho hnf hno
    rcases hfiles file hf with rfl | rfl
    · rcases hfiles other ho with rfl | rfl
      · rfl
      · exact (hne ((MigrationFile.eq_of_isFileOf hposts hnf).trans
          (MigrationFile.eq_of_isFileOf hno hviews))).elim
    · rcases hfiles other ho with rfl | rfl
      · exact (hne ((MigrationFile.eq_of_isFileOf hposts hno).trans
          (MigrationFile.eq_of_isFileOf hnf hviews))).elim
      · rfl
  obtain ⟨hunique, hrefused⟩ := one_migration_per_name ha hd
  refine ⟨hunique 2, ?_⟩
  have hk : (refused.request.project refused.generator refused.time).isOk = true := by
    decide +kernel
  cases hp : refused.request.project refused.generator refused.time with
  | error e =>
    rw [hp] at hk
    cases hk
  | ok p =>
    obtain ⟨path, _, hr, _⟩ :=
      hrefused refused (by simp) rfl before p posts (by decide) hp (by decide) (by decide +kernel)
    exact ⟨path, hr⟩

/-- Where the base goes up from a missing directory, the migration of the name is not found, and a
second one is written. -/
theorem run_writes_second_migration :
    let directory : Location := ["database", "migrations"]
    let posts : Text := "2023_01_31_120000_create_posts_table.php"
    let before : Disk := ⟨[
      (directory ++ [posts], .file (.text "<?php")), (directory, .directory),
      (["database"], .directory)]⟩
    let t : Timestamp := ⟨2024, 1, 31, 12, 0, 0, by decide, by decide, by decide, by decide⟩
    let a : Attempt :=
      ⟨.migration "create_posts_table" [], t, {}, {}, rfl, "missing/..", .standard⟩
    before.IsTree ∧ before.HasUniqueMigrations directory ∧ Path.location a.path = directory ∧
      a.writer.overwrite = false ∧ MigrationFile.isFileOf a.request.name posts = true ∧
      (a.run before).result = .ok
        ["missing/../database/migrations/2024_01_31_120000_create_posts_table.php"] ∧
      ¬ (a.run before).disk.HasUniqueMigrations directory := by
  intro directory posts before t a
  have hd : before.HasUniqueMigrations directory := by
    intro name file other hf ho _ _
    have hm : before.filesIn directory = [posts] := by decide
    rw [← Disk.mem_filesIn, hm, List.mem_singleton] at hf ho
    rw [hf, ho]
  have hr : (a.run before).result =
        .ok ["missing/../database/migrations/2024_01_31_120000_create_posts_table.php"] ∧
      (a.run before).disk.isFile (directory ++ [posts]) = true ∧
      (a.run before).disk.isFile
        (directory ++ [("2024_01_31_120000_create_posts_table.php" : Text)]) = true := by
    decide +kernel
  have hn : MigrationFile.isFileOf "create_posts_table" posts = true ∧
      MigrationFile.isFileOf "create_posts_table"
        "2024_01_31_120000_create_posts_table.php" = true := by
    decide +kernel
  refine ⟨by decide, hd, by decide, rfl, by decide +kernel, hr.1, fun hu => ?_⟩
  have he := hu "create_posts_table" _ _ hr.2.1 hr.2.2 hn.1 hn.2
  exact absurd he (by decide)

end Project

end Migrations
