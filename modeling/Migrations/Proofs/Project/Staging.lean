import Mathlib.Data.List.Forall2
import Migrations.Project.Staging
import Migrations.Proofs.Disk

namespace Migrations

def IsTemporary (place : Location) : Prop :=
  ∃ directory : Location, ∃ rest : Text, place = directory ++ [".tmp" ++ rest] ∧
    ∀ c ∈ rest, c.isAlphanum = true

/-- A temporary file has no extension. -/
theorem IsTemporary.ne_of_isSuffixOf {place directory : Location} {name : Text}
    (h : IsTemporary place) (hn : (".php" : Text) <:+ name) : place ≠ directory ++ [name] := by
  obtain ⟨other, rest, rfl, hr⟩ := h
  intro he
  obtain ⟨front, hf⟩ := (List.singleton_inj.mp (List.append_inj_right' he rfl)) ▸ hn
  have hd : (".php" : Text) = ['.', 'p', 'h', 'p'] := rfl
  have ht : (".tmp" : Text) ++ rest = '.' :: ('t' :: 'm' :: 'p' :: rest) := rfl
  rw [hd, ht] at hf
  cases front with
  | nil => simp at hf
  | cons c cs =>
    -- The dot of the ending would stand behind the first one.
    have hm : '.' ∈ 't' :: 'm' :: 'p' :: rest := by
      rw [← (List.cons.inj hf).2]
      simp
    have hn : '.' ∉ rest := fun hm => absurd (hr _ hm) (by decide)
    simp [hn] at hm

namespace Project

/-- What waits in a place is the content for its target. -/
def Waits (d : Disk) (file : Text × Text) (s : Staged) : Prop :=
  s.target = file.1 ∧ d.file? s.place = some (.text file.2)

theorem forall₂_waits_congr {d d' : Disk} {files : List (Text × Text)} {staged : List Staged}
    (h : List.Forall₂ (Waits d) files staged)
    (hs : ∀ s ∈ staged, d'.file? s.place = d.file? s.place) :
    List.Forall₂ (Waits d') files staged := by
  induction h with
  | nil => exact .nil
  | cons hw _ ih =>
    obtain ⟨h1, h2⟩ := List.forall_mem_cons.mp hs
    exact .cons ⟨hw.1, h1.trans hw.2⟩ (ih h2)

/-- Moving a file leaves those that wait in other places. -/
theorem forall₂_waits_moveFile {d moved : Disk} {source : Location} {path : Text}
    {files : List (Text × Text)} {staged : List Staged} (hw : List.Forall₂ (Waits d) files staged)
    (hm : d.moveFile source path = .ok moved) (hs : source ∉ staged.map Staged.place)
    (hp : ∀ s ∈ staged, s.place ≠ Path.location path) :
    List.Forall₂ (Waits moved) files staged := by
  obtain ⟨_, _, hf⟩ := Disk.file?_moveFile hm
  refine forall₂_waits_congr hw fun s hr => ?_
  have hne : s.place ≠ source := fun he => hs (he ▸ List.mem_map_of_mem hr)
  rw [hf, if_neg (hp s hr), if_neg hne]

theorem map_target_of_waits {d : Disk} {files : List (Text × Text)} {staged : List Staged}
    (h : List.Forall₂ (Waits d) files staged) :
    staged.map Staged.target = files.map (·.1) := by
  induction h with
  | nil => rfl
  | cons hw _ ih => rw [List.map_cons, List.map_cons, hw.1, ih]

/-- A file is staged by making its directory and putting it there under a free name. -/
theorem exists_of_stage {names : TemporaryNames} {d d' : Disk} {path content : Text} {s : Staged}
    (h : stage names d path content = .ok (d', s)) :
    s.target = path ∧ IsTemporary s.place ∧ ∃ made,
      d.makeDirectories (Path.parts (directoryOf path)) (Path.start (directoryOf path)) =
        .ok made ∧
      made.get? s.place = none ∧ d' = made.put s.place (.file (.text content)) := by
  unfold stage at h
  dsimp only at h
  split at h
  · cases h
  · rename_i made hm
    cases h
    obtain ⟨rest, hc, hr⟩ := names.form made (Path.location (directoryOf path))
    exact ⟨rfl, ⟨_, rest, by rw [hc], hr⟩, made, hm, names.isFree _ _, rfl⟩

theorem file?_stage {names : TemporaryNames} {d d' : Disk} {path content : Text} {s : Staged}
    (h : stage names d path content = .ok (d', s)) :
    d.file? s.place = none ∧ ∀ other, d'.file? other =
      if other = s.place then some (.text content) else d.file? other := by
  obtain ⟨-, -, made, hm, hfree, rfl⟩ := exists_of_stage h
  have hnone : made.file? s.place = none := by rw [Disk.file?, hfree]
  refine ⟨by rw [← Disk.file?_makeDirectories hm, hnone], fun other => ?_⟩
  rw [Disk.file?_put _ (Disk.isAnchor_of_missing hfree), Disk.file?_makeDirectories hm]

theorem keeps_stage {names : TemporaryNames} {d d' : Disk} {path content : Text} {s : Staged}
    (h : stage names d path content = .ok (d', s)) : d.Keeps d' := by
  obtain ⟨-, -, made, hm, hfree, rfl⟩ := exists_of_stage h
  exact (Disk.keeps_makeDirectories hm).trans (Disk.keeps_put hfree _)

theorem paves_stage {names : TemporaryNames} {d d' : Disk} {path content : Text} {s : Staged}
    (h : stage names d path content = .ok (d', s)) : d'.Paves (directoryOf path) := by
  obtain ⟨-, -, made, hm, hfree, rfl⟩ := exists_of_stage h
  have hp : made.Paves (directoryOf path) :=
    Disk.isPaved_makeDirectories (Disk.isDirectory_start d _) hm
  exact hp.mono fun _ => (Disk.keeps_put hfree _).isDirectory

/-- The disk `after` is `before` with the files waiting. -/
structure Staging (before after : Disk) (files : List (Text × Text)) (staged : List Staged) :
    Prop where
  waits : List.Forall₂ (Waits after) files staged
  isTemporary : ∀ s ∈ staged, IsTemporary s.place
  isFree : ∀ s ∈ staged, before.file? s.place = none
  nodup : (staged.map Staged.place).Nodup
  keeps : before.Keeps after
  paved : ∀ s ∈ staged, after.Paves (directoryOf s.target)
  frame : ∀ place ∉ staged.map Staged.place, after.file? place = before.file? place

/-- The files that were staged wait, also if one after them cannot be staged. -/
theorem staging_take_of_stageFiles {names : TemporaryNames} {d d' : Disk}
    {files : List (Text × Text)} {staged : List Staged} {fault : Option Error}
    (h : stageFiles names d files = (d', staged, fault)) :
    Staging d d' (files.take staged.length) staged ∧
      (fault = none → staged.length = files.length) := by
  induction files generalizing d d' staged with
  | nil =>
    cases h
    exact ⟨⟨.nil, by simp, by simp, by simp, .refl _, by simp, fun _ _ => rfl⟩, fun _ => rfl⟩
  | cons file rest ih =>
    obtain ⟨path, content⟩ := file
    rw [stageFiles] at h
    split at h
    · cases h
      exact ⟨⟨.nil, by simp, by simp, by simp, .refl _, by simp, fun _ _ => rfl⟩, nofun⟩
    · rename_i made s hs
      rcases hq : stageFiles names made rest with ⟨after, others, fault'⟩
      simp only [hq] at h
      cases h
      obtain ⟨hr, hl⟩ := ih hq
      obtain ⟨ht, htmp, -⟩ := exists_of_stage hs
      obtain ⟨hfree, hd⟩ := file?_stage hs
      have hk : made.file? s.place = some (.text content) := by rw [hd, if_pos rfl]
      have hne : ∀ r ∈ others, r.place ≠ s.place := by
        intro r hm hp
        have hn := hr.isFree r hm
        rw [hp, hk] at hn
        cases hn
      have hnot : s.place ∉ others.map Staged.place := by
        intro hm
        obtain ⟨r, hm, hp⟩ := List.mem_map.mp hm
        exact hne r hm hp
      refine ⟨⟨.cons ⟨ht, ?_⟩ hr.waits, ?_, ?_, List.nodup_cons.mpr ⟨hnot, hr.nodup⟩,
        (keeps_stage hs).trans hr.keeps, ?_, ?_⟩, fun hn => congrArg (· + 1) (hl hn)⟩
      · rw [hr.frame _ hnot, hk]
      · exact List.forall_mem_cons.mpr ⟨htmp, hr.isTemporary⟩
      · refine List.forall_mem_cons.mpr ⟨hfree, fun r hm => ?_⟩
        have hn := hr.isFree r hm
        rwa [hd, if_neg (hne r hm)] at hn
      · refine List.forall_mem_cons.mpr ⟨?_, hr.paved⟩
        rw [ht]
        exact (paves_stage hs).mono fun _ => hr.keeps.isDirectory
      · intro place hp
        obtain ⟨hps, hpr⟩ := not_or.mp (List.mem_cons.not.mp hp)
        rw [hr.frame place hpr, hd, if_neg hps]

theorem staging_of_stageFiles {names : TemporaryNames} {d d' : Disk} {files : List (Text × Text)}
    {staged : List Staged} (h : stageFiles names d files = (d', staged, none)) :
    Staging d d' files staged := by
  obtain ⟨hs, hl⟩ := staging_take_of_stageFiles h
  rwa [hl rfl, List.take_length] at hs

theorem file?_discard (d : Disk) (staged : List Staged) (place : Location) :
    (discard d staged).file? place =
      if place ∈ staged.map Staged.place then none else d.file? place := by
  induction staged generalizing d with
  | nil => rfl
  | cons s rest ih =>
    have hd := ih (d.erase s.place)
    rw [Disk.file?_erase] at hd
    rw [discard, List.foldl_cons, ← discard, hd, List.map_cons]
    by_cases hr : place ∈ rest.map Staged.place
    · simp [hr]
    · by_cases hs : place = s.place <;> simp [hr, hs]

/-- When the staged files are discarded, no file has changed. -/
theorem Staging.file?_discard {before after : Disk} {files : List (Text × Text)}
    {staged : List Staged} (h : Staging before after files staged) (place : Location) :
    (discard after staged).file? place = before.file? place := by
  rw [Project.file?_discard]
  split
  · rename_i hm
    obtain ⟨s, hs, rfl⟩ := List.mem_map.mp hm
    exact (h.isFree s hs).symm
  · rename_i hm
    exact h.frame place hm

theorem Staging.paves {before after : Disk} {files : List (Text × Text)} {staged : List Staged}
    (h : Staging before after files staged) {file : Text × Text} (hf : file ∈ files) :
    after.Paves (directoryOf file.1) := by
  have hm : file.1 ∈ staged.map Staged.target := by
    rw [map_target_of_waits h.waits]
    exact List.mem_map_of_mem hf
  obtain ⟨s, hs, ht⟩ := List.mem_map.mp hm
  exact ht ▸ h.paved s hs

theorem parent?_eq_directoryOf {path : Text} (h : Path.namesDirectory path = false) :
    Path.parent? path = some (directoryOf path) := by
  obtain ⟨base, name, hname, rfl⟩ := Path.exists_join_of_namesDirectory h
  obtain ⟨parent, hp, -⟩ := Path.exists_parent hname base
  rw [directoryOf, hp, Option.getD_some]

/-- When a file is staged, its path leads to its place, also before if it was grounded then. -/
theorem Staging.locate {before after : Disk} {files : List (Text × Text)} {staged : List Staged}
    (h : Staging before after files staged) {file : Text × Text} (hf : file ∈ files)
    (hn : Path.namesDirectory file.1 = false) (hg : before.IsGrounded (directoryOf file.1)) :
    before.locate file.1 = .ok (Path.location file.1) := by
  obtain ⟨hfollow, hfile⟩ := hg.follow h.keeps (h.paves hf)
  exact (Disk.locate_of_follow hn (parent?_eq_directoryOf hn) hfollow hfile).1

theorem follow_of_stage {names : TemporaryNames} {d d' : Disk} {path content : Text} {s : Staged}
    (hg : d.IsGrounded (directoryOf path)) (h : stage names d path content = .ok (d', s)) :
    d.follow (directoryOf path) = .ok (Path.location (directoryOf path)) :=
  (hg.follow (keeps_stage h) (paves_stage h)).1

theorem get?_stage {names : TemporaryNames} {d d' : Disk} {path content : Text} {s : Staged}
    (hg : d.IsGrounded (directoryOf path)) (h : stage names d path content = .ok (d', s))
    (other : Location) :
    d'.get? other = some (.file (.text content)) ∨ d'.get? other = d.get? other ∨
      d.get? other = none ∧ other <+: Path.location (directoryOf path) := by
  have hf := follow_of_stage hg h
  obtain ⟨-, -, made, hm, hfree, rfl⟩ := exists_of_stage h
  rw [Disk.get?_put _ (Disk.isAnchor_of_missing hfree)]
  split
  · exact .inl rfl
  · exact .inr (Disk.get?_makeDirectories_of_walk hm hf other)

/-- Staging makes directories on the way to the files, and nowhere else. -/
theorem isDirectory_of_stageFiles {names : TemporaryNames} {d d' : Disk}
    {files : List (Text × Text)} {staged : List Staged} {fault : Option Error}
    (hg : ∀ file ∈ files, d.IsGrounded (directoryOf file.1))
    (h : stageFiles names d files = (d', staged, fault)) {place : Location}
    (hd : d'.isDirectory place = true) :
    d.isDirectory place = true ∨ d.get? place = none ∧
      ∃ file ∈ files, place <+: Path.location (directoryOf file.1) := by
  induction files generalizing d d' staged with
  | nil =>
    cases h
    exact .inl hd
  | cons file rest ih =>
    obtain ⟨path, content⟩ := file
    obtain ⟨hfirst, hrest⟩ := List.forall_mem_cons.mp hg
    rw [stageFiles] at h
    split at h
    · cases h
      exact .inl hd
    · rename_i made s hs
      rcases hq : stageFiles names made rest with ⟨after, others, fault'⟩
      simp only [hq] at h
      cases h
      have hmade := get?_stage hfirst hs place
      rcases ih (fun file hf => (hrest file hf).mono (keeps_stage hs)) hq hd with
        hd | ⟨hn, file, hf, hp⟩
      · rw [Disk.isDirectory_iff] at hd
        rw [hd] at hmade
        rcases hmade with he | he | ⟨hn, hp⟩
        · cases he
        · exact .inl (Disk.isDirectory_iff.mpr he.symm)
        · exact .inr ⟨hn, _, List.mem_cons_self, hp⟩
      · rw [hn] at hmade
        refine .inr ⟨?_, file, List.mem_cons_of_mem _ hf, hp⟩
        rcases hmade with he | he | ⟨hn, _⟩
        · cases he
        · exact he.symm
        · exact hn

end Project

end Migrations
