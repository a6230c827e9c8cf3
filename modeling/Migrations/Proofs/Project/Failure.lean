import Migrations.Proofs.Project.Writing

namespace Migrations.Project

/-- The path leads to a place in a directory, where a file can be put or taken away. -/
def Admits (d : Disk) (path : Text) : Prop :=
  Path.namesDirectory path = false ∧ d.Paves (directoryOf path)

theorem Admits.mono {d d' : Disk} {path : Text} (h : Admits d path)
    (hd : ∀ place, d.isDirectory place = true → d'.isDirectory place = true) : Admits d' path :=
  ⟨h.1, h.2.mono hd⟩

theorem Admits.locate {d : Disk} {path : Text} (h : Admits d path) :
    d.locate path = .ok (Path.location path) :=
  (Disk.locate_of_paves h.1 (parent?_eq_directoryOf h.1) h.2).1

theorem file?_takeBack {d : Disk} {paths : List Text} (h : ∀ path ∈ paths, Admits d path)
    (place : Location) :
    (takeBack d paths).1.file? place =
      if place ∈ paths.map Path.location then none else d.file? place := by
  induction paths generalizing d with
  | nil => rfl
  | cons path rest ih =>
    obtain ⟨hpath, hrest⟩ := List.forall_mem_cons.mp h
    rw [takeBack, List.map_cons]
    cases hd : d.removeFile path with
    | ok removed =>
      obtain ⟨hfile, rfl⟩ := Disk.removeFile_ok hd
      dsimp only
      rw [ih fun p hp => (hrest p hp).mono fun _ => Disk.isDirectory_erase hfile, Disk.file?_erase]
      by_cases hr : place ∈ rest.map Path.location <;> simp [hr]
    | error fault =>
      dsimp only
      rw [ih hrest]
      by_cases hr : place ∈ rest.map Path.location
      · simp [hr]
      · by_cases hp : place = Path.location path
        · subst hp
          simp [Disk.file?_of_removeFile_error hpath.locate hd]
        · simp [hr, hp]

/-- Before each move, a file that differs from the one before has been moved already or waits. -/
theorem file?_placeFiles_error {before d : Disk} {written : List Text} {staged : List Staged}
    {e : Error} (hfree : ∀ s ∈ staged, before.file? s.place = none)
    (hd : ∀ place ∉ written.map Path.location, place ∉ staged.map Staged.place →
      d.file? place = before.file? place)
    (hw : ∀ path ∈ written, Admits d path)
    (hpaved : ∀ s ∈ staged, d.Paves (directoryOf s.target))
    (h : (placeFiles d written staged).result = .error e) :
    ∃ k < staged.length, ∀ place, (placeFiles d written staged).disk.file? place =
      if place ∈ (written ++ (staged.take k).map Staged.target).map Path.location then none
      else before.file? place := by
  induction staged generalizing d written with
  | nil => cases h
  | cons s rest ih =>
    obtain ⟨hs, hrest⟩ := List.forall_mem_cons.mp hfree
    obtain ⟨hps, hprest⟩ := List.forall_mem_cons.mp hpaved
    rw [placeFiles] at h ⊢
    cases hm : d.moveFile s.place s.target with
    | error fault =>
      refine ⟨0, Nat.zero_lt_succ _, fun place => ?_⟩
      dsimp only
      rw [file?_discard, file?_takeBack hw, List.take_zero, List.map_nil, List.append_nil]
      by_cases hp : place ∈ written.map Path.location
      · simp [hp]
      · rw [if_neg hp, if_neg hp]
        split
        · rename_i hmem
          obtain ⟨r, hr, rfl⟩ := List.mem_map.mp hmem
          exact (hfree r hr).symm
        · rename_i hmem
          exact hd place hp hmem
    | ok moved =>
      simp only [hm, result_withNotices, disk_withNotices] at h ⊢
      obtain ⟨-, -, hname, -⟩ := Disk.moveFile_ok hm
      obtain ⟨content, _, hf⟩ := Disk.file?_moveFile hm
      have hdirs : ∀ place, d.isDirectory place = true → moved.isDirectory place = true :=
        fun _ => Disk.isDirectory_moveFile hm
      have hnext : ∀ place ∉ (written ++ [s.target]).map Path.location,
          place ∉ rest.map Staged.place → moved.file? place = before.file? place := by
        intro place hp hr
        rw [List.map_append, List.mem_append, not_or] at hp
        rw [hf, if_neg (by simpa using hp.2)]
        split
        · rename_i he
          rw [he, hs]
        · rename_i he
          exact hd place hp.1 (by simpa [he] using hr)
      have hwritten : ∀ path ∈ written ++ [s.target], Admits moved path := by
        intro path hp
        rcases List.mem_append.mp hp with hp | hp
        · exact (hw path hp).mono hdirs
        · rw [List.mem_singleton.mp hp]
          exact ⟨hname, hps.mono hdirs⟩
      obtain ⟨k, hk, hafter⟩ := ih hrest hnext hwritten
        (fun r hr => (hprest r hr).mono hdirs) h
      refine ⟨k + 1, Nat.succ_lt_succ hk, fun place => ?_⟩
      rw [hafter place, List.append_assoc, List.singleton_append]
      rfl

theorem targets_take (base : Text) (files : List GeneratedFile) (k : Nat) :
    (targets base files).take k = targets base (files.take k) := by
  rw [targets, targets, List.map_take]

/-- A failed write has moved some of the files, and has taken them back. -/
theorem file?_writeFiles_error {names : TemporaryNames} {base : Text}
    {files : List GeneratedFile} {d : Disk} {e : Error}
    (h : (writeFiles base files d names).result = .error e) :
    ∃ k < files.length, ∀ place, (writeFiles base files d names).disk.file? place =
      if place ∈ (targets base (files.take k)).map (Path.location ·.1) then none
      else d.file? place := by
  rcases writeFiles_cases names base files d with
    ⟨hn, -, hsame⟩ | ⟨after, staged, -, hst, hplaced⟩
  · exact ⟨0, List.length_pos_iff.mpr hn, hsame⟩
  · rw [hplaced] at h ⊢
    have hlen : staged.length = files.length := by
      rw [← hst.waits.length_eq, targets, List.length_map]
    have hd : ∀ place ∉ ([] : List Text).map Path.location, place ∉ staged.map Staged.place →
        after.file? place = d.file? place := fun place _ hp => hst.frame place hp
    obtain ⟨k, hk, hafter⟩ :=
      file?_placeFiles_error hst.isFree hd (List.forall_mem_nil _) hst.paved h
    refine ⟨k, hlen ▸ hk, fun place => ?_⟩
    rw [hafter place, List.nil_append, List.map_take, map_target_of_waits hst.waits,
      ← List.map_take, List.map_map, targets_take]
    rfl

/-- A failed write adds no file. It keeps all files exactly if those it had moved before it failed
did not replace any. -/
theorem unchanged_iff_of_writeFiles_error {names : TemporaryNames} {base : Text}
    {files : List GeneratedFile} {d : Disk} {e : Error}
    (h : (writeFiles base files d names).result = .error e) :
    ∃ k < files.length,
      (∀ place, (writeFiles base files d names).disk.file? place =
        if place ∈ (targets base (files.take k)).map (Path.location ·.1) then none
        else d.file? place) ∧
      ((∀ place, (writeFiles base files d names).disk.file? place = d.file? place) ↔
        ∀ file ∈ files.take k, d.file? (Path.location (Path.join base file.path)) = none) := by
  obtain ⟨k, hk, hafter⟩ := file?_writeFiles_error h
  refine ⟨k, hk, hafter, ?_, ?_⟩
  · intro hsame file hf
    have hm : Path.location (Path.join base file.path) ∈
        (targets base (files.take k)).map (Path.location ·.1) := by
      rw [targets, List.map_map]
      exact List.mem_map_of_mem hf
    rw [← hsame, hafter, if_pos hm]
  · intro hnone place
    rw [hafter]
    split
    · rename_i hm
      rw [targets, List.map_map] at hm
      obtain ⟨file, hf, rfl⟩ := List.mem_map.mp hm
      exact (hnone file hf).symm
    · rfl

/-- A model cannot be moved to where a directory stands, so the migration that was moved before it
is taken back. -/
theorem unchanged_iff_of_writeFiles_error_posts :
    let before : Disk := ⟨[
      (["app", "migrations"], .directory), (["app", "Post.php"], .directory),
      (["app"], .directory)]⟩
    let files : List GeneratedFile :=
      [⟨"migrations/1_posts.php", "new", .migration⟩, ⟨"Post.php", "model", .model⟩]
    (writeFiles "app" files before .standard).result =
        .error (.fileUnwritten "app/Post.php" .isDirectory) ∧
      ∃ k < files.length,
        (∀ place, (writeFiles "app" files before .standard).disk.file? place =
          if place ∈ (targets "app" (files.take k)).map (Path.location ·.1) then none
          else before.file? place) ∧
        ((∀ place, (writeFiles "app" files before .standard).disk.file? place =
            before.file? place) ↔
          ∀ file ∈ files.take k,
            before.file? (Path.location (Path.join "app" file.path)) = none) := by
  intro before files
  have h : (writeFiles "app" files before .standard).result =
      .error (.fileUnwritten "app/Post.php" .isDirectory) := by
    decide
  exact ⟨h, unchanged_iff_of_writeFiles_error h⟩

/-- The migration that was moved had replaced an older one, which is gone after it was taken
back. -/
theorem writeFiles_loses_file :
    let before : Disk := ⟨[
      (["app", "migrations", "1_posts.php"], .file (.text "old")),
      (["app", "migrations"], .directory), (["app", "Post.php"], .directory),
      (["app"], .directory)]⟩
    let files : List GeneratedFile :=
      [⟨"migrations/1_posts.php", "new", .migration⟩, ⟨"Post.php", "model", .model⟩]
    before.IsTree ∧ ((targets "app" files).map (Path.location ·.1)).Nodup ∧
      (writeFiles "app" files before .standard).result =
        .error (.fileUnwritten "app/Post.php" .isDirectory) ∧
      before.file? ["app", "migrations", "1_posts.php"] = some (.text "old") ∧
      (writeFiles "app" files before .standard).disk.file?
        ["app", "migrations", "1_posts.php"] = none := by
  decide

/-- Files can be moved to places where no directory stands. -/
theorem exists_placeFiles {d : Disk} {written : List Text} {files : List (Text × Text)}
    {staged : List Staged} (hw : List.Forall₂ (Waits d) files staged)
    (hp : (staged.map Staged.place).Nodup)
    (hd : ∀ s ∈ staged, s.place ∉ files.map (Path.location ·.1))
    (hn : ∀ file ∈ files, Admits d file.1)
    (hc : ∀ file ∈ files, d.isDirectory (Path.location file.1) = false) :
    ∃ paths, (placeFiles d written staged).result = .ok paths := by
  induction staged generalizing d written files with
  | nil => exact ⟨written, rfl⟩
  | cons s staged ih =>
    obtain _ | ⟨⟨htarget, hcontent⟩, hw⟩ := hw
    rename_i file files
    obtain ⟨hnf, hn⟩ := List.forall_mem_cons.mp hn
    obtain ⟨hcf, hc⟩ := List.forall_mem_cons.mp hc
    obtain ⟨hps, hp⟩ := List.nodup_cons.mp hp
    obtain ⟨-, hd⟩ := List.forall_mem_cons.mp hd
    simp only [List.map_cons, List.mem_cons, not_or] at hd
    rw [← htarget] at hnf hcf
    obtain ⟨moved, hm⟩ :=
      Disk.exists_moveFile hcontent hnf.1 (parent?_eq_directoryOf hnf.1) hnf.2 hcf
    obtain ⟨content, _, -, -, hg⟩ := Disk.moveFile_ok hm
    rw [htarget] at hg
    have hadmits : ∀ file ∈ files, Admits moved file.1 := fun file hf =>
      (hn file hf).mono fun _ => Disk.isDirectory_moveFile hm
    have hmoved : List.Forall₂ (Waits moved) files staged :=
      forall₂_waits_moveFile hw hm hps fun r hr => htarget ▸ (hd r hr).1
    have hclear : ∀ g ∈ files, moved.isDirectory (Path.location g.1) = false := by
      intro g hmem
      have hdir := hc g hmem
      rw [Disk.isDirectory, decide_eq_false_iff_not] at hdir ⊢
      rw [hg]
      split
      · simp
      · split
        · simp
        · exact hdir
    obtain ⟨paths, hr⟩ :=
      ih hmoved hp (fun r hr => (hd r hr).2) hadmits hclear
    exact ⟨paths, by rw [placeFiles, hm]; exact hr⟩

/-- Where no directory comes to stand in the way, a write fails before a file is moved. -/
theorem file?_writeFiles_of_clear {names : TemporaryNames} {base : Text}
    {files : List GeneratedFile} {d : Disk} {e : Error} (ha : Apart (targets base files))
    (hn : ∀ file ∈ targets base files, Path.namesDirectory file.1 = false)
    (hc : ∀ {staging : Disk} {staged : List Staged},
      stageFiles names d (targets base files) = (staging, staged, none) →
        ∀ file ∈ targets base files, staging.isDirectory (Path.location file.1) = false)
    (h : (writeFiles base files d names).result = .error e) (place : Location) :
    (writeFiles base files d names).disk.file? place = d.file? place := by
  rcases writeFiles_cases names base files d with
    ⟨-, -, hsame⟩ | ⟨after, staged, hs, hst, hplaced⟩
  · exact hsame place
  · have hadmits : ∀ file ∈ targets base files, Admits after file.1 := fun file hf =>
      ⟨hn file hf, hst.paves hf⟩
    obtain ⟨paths, hr⟩ : ∃ paths, (placeFiles after [] staged).result = .ok paths :=
      exists_placeFiles hst.waits hst.nodup (hst.place_not_mem ha) hadmits (hc hs)
    rw [← hplaced, h] at hr
    cases hr

theorem location_directoryOf {config : Config} {name : Text} {file : GeneratedFile}
    (h : IsPlaced config name file) (hn : Path.separator ∉ name) (base : Text) :
    ∃ last, Path.location (directoryOf (Path.join base file.path)) =
        Path.location (Path.join base (directoryFor config file.kind)) ∧
      Path.location (Path.join base file.path) =
        Path.location (Path.join base (directoryFor config file.kind)) ++ [last] := by
  obtain ⟨last, hj, hl, -⟩ := h.join_eq hn base
  exact ⟨last, (h.isSameWay hn base).location_eq, by rw [hj, Path.location_join hl]⟩

/-- A model that is written finds nothing in its place, if its path leads there. -/
theorem get?_of_not_isKept {base : Text} {d : Disk} {file : GeneratedFile}
    (hl : d.locate (Path.join base file.path) = .ok (Path.location (Path.join base file.path)))
    (hm : file.kind = .model) (hk : isKept base d file = false) :
    d.get? (Path.location (Path.join base file.path)) = none := by
  apply Disk.get?_of_not_reaches ?_ hl
  simpa [isKept, hm] using hk

/-- The files that are written, on a disk where their paths lead to their places. -/
structure AreFresh (config : Config) (base : Text) (p : Project) (d : Disk)
    (fresh : List GeneratedFile) : Prop where
  mem : ∀ file ∈ fresh, file ∈ p.files
  isKept : ∀ file ∈ fresh, isKept base d file = false
  isGrounded : ∀ file ∈ fresh, d.IsGrounded (directoryOf (Path.join base file.path))
  locate : ∀ file ∈ fresh,
    d.locate (Path.join base file.path) = .ok (Path.location (Path.join base file.path))

/-- Of the files that are written, only the migration can stand already. -/
theorem AreFresh.kind_of_isFile {config : Config} {base : Text} {p : Project} {d : Disk}
    {fresh : List GeneratedFile} (h : AreFresh config base p d fresh) {f : GeneratedFile}
    (hf : f ∈ fresh) (hfile : d.isFile (Path.location (Path.join base f.path)) = true) :
    f.kind = .migration := by
  cases hkind : f.kind with
  | migration => rfl
  | model =>
    obtain ⟨content, hc⟩ := Disk.isFile_iff.mp hfile
    rw [get?_of_not_isKept (h.locate f hf) hkind (h.isKept f hf)] at hc
    cases hc

/-- Where the migration itself stands already, a file that is written is the migration, or a model
where nothing stands yet. -/
theorem AreFresh.isFile_or_get? {config : Config} {base : Text} {p : Project} {d : Disk}
    {fresh : List GeneratedFile} (h : AreFresh config base p d fresh) (hg : IsGenerated config p)
    {f g : GeneratedFile} (hf : f ∈ fresh)
    (hfile : d.isFile (Path.location (Path.join base f.path)) = true) (hgf : g ∈ fresh) :
    d.isFile (Path.location (Path.join base g.path)) = true ∨
      g.kind = .model ∧ d.get? (Path.location (Path.join base g.path)) = none := by
  have hfk := h.kind_of_isFile hf hfile
  cases hkind : g.kind with
  | migration =>
    obtain rfl := hg.eq_of_kind (h.mem g hgf) (h.mem f hf) (hkind.trans hfk.symm)
    exact .inl hfile
  | model => exact .inr ⟨rfl, get?_of_not_isKept (h.locate g hgf) hkind (h.isKept g hgf)⟩

theorem AreFresh.not_isDirectory {config : Config} {base : Text} {p : Project} {d : Disk}
    {fresh : List GeneratedFile} (h : AreFresh config base p d fresh) (hg : IsGenerated config p)
    {f g : GeneratedFile} (hf : f ∈ fresh)
    (hfile : d.isFile (Path.location (Path.join base f.path)) = true) (hgf : g ∈ fresh) :
    d.isDirectory (Path.location (Path.join base g.path)) = false := by
  rw [Disk.isDirectory_eq_false_iff]
  rcases h.isFile_or_get? hg hf hfile hgf with hold | ⟨-, hnone⟩
  · obtain ⟨old, hget⟩ := Disk.isFile_iff.mp hold
    simp [hget]
  · simp [hnone]

/-- Where the migration itself stands already, its directory does, too. Then only the directory of
the models can be missing, which is no way to a file that is written. -/
theorem AreFresh.isDirectory_eq_false {names : TemporaryNames} {config : Config} {base : Text}
    {p : Project} {d staging : Disk} {staged : List Staged} {fault : Option Error}
    {fresh : List GeneratedFile} (h : AreFresh config base p d fresh) (hd : d.IsTree)
    (hg : IsGenerated config p)
    (hs : stageFiles names d (targets base fresh) = (staging, staged, fault))
    {f : GeneratedFile} (hf : f ∈ fresh)
    (hfile : d.isFile (Path.location (Path.join base f.path)) = true)
    {g : GeneratedFile} (hgf : g ∈ fresh) :
    staging.isDirectory (Path.location (Path.join base g.path)) = false := by
  have hkind := h.kind_of_isFile hf hfile
  obtain ⟨content, hcontent⟩ := Disk.isFile_iff.mp hfile
  have hground : ∀ target ∈ targets base fresh, d.IsGrounded (directoryOf target.1) := by
    intro target ht
    obtain ⟨file, hm, rfl⟩ := List.mem_map.mp ht
    exact h.isGrounded file hm
  by_contra hdir
  rw [Bool.not_eq_false] at hdir
  rcases isDirectory_of_stageFiles hground hs hdir with hold | ⟨hnone, target, ht, hprefix⟩
  · rw [h.not_isDirectory hg hf hfile hgf] at hold
    cases hold
  · rcases h.isFile_or_get? hg hf hfile hgf with hc | ⟨hmodel, _⟩
    · obtain ⟨old, hget⟩ := Disk.isFile_iff.mp hc
      rw [hget] at hnone
      cases hnone
    · obtain ⟨file, hm, rfl⟩ := List.mem_map.mp ht
      obtain ⟨_, hdirectory, _⟩ := location_directoryOf (hg.isPlaced file (h.mem file hm))
        hg.name base
      obtain ⟨_, _, hplace⟩ := location_directoryOf (hg.isPlaced g (h.mem g hgf)) hg.name base
      rw [hdirectory] at hprefix
      cases hk : file.kind with
      | migration =>
        obtain ⟨_, _, hfplace⟩ := location_directoryOf (hg.isPlaced f (h.mem f hf)) hg.name base
        rw [hk, ← hkind] at hprefix
        have habove := hd.isDirectory_of_isPrefix
          (by rw [← hfplace, hcontent]; exact Option.some_ne_none _) hprefix
        rw [Disk.isDirectory, hnone] at habove
        cases habove
      | model =>
        rw [hk, hplace, hmodel] at hprefix
        have hlen := hprefix.length_le
        rw [List.length_append, List.length_singleton] at hlen
        omega

theorem dropReplaced_error {o : Outcome} {e : Error} (h : o.result = .error e)
    (existing : Option Text) : dropReplaced existing o = o := by
  unfold dropReplaced
  rw [h]

/-- A write that fails has found a migration that it may not replace, or writing its files has
failed. -/
theorem write_error {names : TemporaryNames} {config : Config} {base : Text} {p : Project}
    {d : Disk} {e : Error} (h : (p.write config base d names).result = .error e) :
    let fresh := p.files.filter fun file => !isKept base d file
    (p.write config base d names).disk = d ∨
      (writeFiles base fresh d names).result = .error e ∧
        (p.write config base d names).disk = (writeFiles base fresh d names).disk := by
  unfold write at h ⊢
  dsimp only at h ⊢
  split at h
  · exact .inl rfl
  · rw [result_withNotices, result_dropReplaced] at h
    refine .inr ⟨h, ?_⟩
    rw [disk_withNotices, dropReplaced_error h]

/-- Once all files are staged, their paths lead to their places. -/
theorem IsShown.areFresh {config : Config} {base : Text} {p : Project}
    {d staging : Disk} {staged : List Staged} (hs : IsShown config base d)
    (hg : IsGenerated config p)
    (hst : Staging d staging (targets base (p.files.filter fun file => !isKept base d file))
      staged) :
    AreFresh config base p d (p.files.filter fun file => !isKept base d file) := by
  have hmem : ∀ file ∈ p.files.filter fun file => !isKept base d file,
      file ∈ p.files ∧ isKept base d file = false := by
    intro file hf
    simpa using hf
  have hground : ∀ file ∈ p.files.filter fun file => !isKept base d file,
      d.IsGrounded (directoryOf (Path.join base file.path)) := fun file hf =>
    (hs.isGrounded_directory file.kind).of_isSameWay
      ((hg.isPlaced file (hmem file hf).1).isSameWay hg.name base).symm
  refine ⟨fun file hf => (hmem file hf).1, fun file hf => (hmem file hf).2, hground,
    fun file hf => ?_⟩
  have ht : (Path.join base file.path, file.content) ∈
      targets base (p.files.filter fun file => !isKept base d file) :=
    List.mem_map.mpr ⟨file, hf, rfl⟩
  exact hst.locate ht ((hg.isPlaced file (hmem file hf).1).namesDirectory hg.name base)
    (hground file hf)

/-- A generated project that cannot be written leaves all files as they were, as long as its
directories could be looked up. -/
theorem file?_write_error {names : TemporaryNames} {config : Config} {base : Text} {p : Project}
    {d : Disk} {e : Error} (hd : d.IsTree) (hg : IsGenerated config p)
    (hshown : IsShown config base d) (h : (p.write config base d names).result = .error e)
    (place : Location) : (p.write config base d names).disk.file? place = d.file? place := by
  rcases write_error h with hsame | ⟨hw, hdisk⟩
  · rw [hsame]
  · rw [hdisk]
    have hfresh : ∀ {staging : Disk} {staged : List Staged}, stageFiles names d
        (targets base (p.files.filter fun file => !isKept base d file)) =
          (staging, staged, none) →
        AreFresh config base p d (p.files.filter fun file => !isKept base d file) := fun hs =>
      hshown.areFresh hg (staging_of_stageFiles hs)
    have ha := apart_of_isGenerated hg base fun file => !isKept base d file
    have hmem : ∀ file ∈ p.files.filter fun file => !isKept base d file, file ∈ p.files :=
      fun file hf => (List.mem_filter.mp hf).1
    generalize (p.files.filter fun file => !isKept base d file) = fresh at hw hfresh ha hmem ⊢
    by_cases hex : ∃ f ∈ fresh, d.isFile (Path.location (Path.join base f.path)) = true
    · obtain ⟨f, hf, hfile⟩ := hex
      apply file?_writeFiles_of_clear ha ?_ ?_ hw
      · intro target ht
        obtain ⟨file, hm, rfl⟩ := List.mem_map.mp ht
        exact (hg.isPlaced file (hmem file hm)).namesDirectory hg.name base
      · intro staging staged hs target ht
        obtain ⟨file, hm, rfl⟩ := List.mem_map.mp ht
        exact (hfresh hs).isDirectory_eq_false hd hg hs hf hfile hm
    · obtain ⟨k, _, hafter⟩ := file?_writeFiles_error hw
      rw [hafter]
      split
      · rename_i hp
        rw [targets, List.map_map] at hp
        obtain ⟨file, hf, rfl⟩ := List.mem_map.mp hp
        have hn : ¬ d.isFile (Path.location (Path.join base file.path)) = true := fun hfile =>
          hex ⟨file, List.mem_of_mem_take hf, hfile⟩
        exact (Option.not_isSome_iff_eq_none.mp hn).symm
      · rfl

end Migrations.Project
