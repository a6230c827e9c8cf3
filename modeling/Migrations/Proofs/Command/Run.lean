import Migrations.Command.Run
import Migrations.Proofs.Project.Failure

namespace Migrations

namespace Command

def isPreview : Command → Bool
  | make _ _ _ _ _ dryRun | pivot _ _ _ dryRun => dryRun
  | inspect .. => true

theorem file?_emit {names : TemporaryNames} {config : Config} {p : Project} {d : Disk}
    (hd : d.IsTree) (hg : Project.IsGenerated config p) {color dryRun : Bool} {root : Text}
    (h : dryRun = true ∨ (emit color config p root dryRun d names).exitCode ≠ 0 ∧
      Project.IsShown config root d) (place : Location) :
    (emit color config p root dryRun d names).disk.file? place = d.file? place := by
  unfold emit at h ⊢
  cases dryRun with
  | true => rfl
  | false =>
    dsimp only at h ⊢
    cases hr : (p.write config root d names).result with
    | ok paths =>
      rw [hr] at h
      rcases h with h | ⟨h, -⟩
      · cases h
      · exact (h rfl).elim
    | error e =>
      rcases h with h | ⟨-, hs⟩
      · cases h
      · exact Project.file?_write_error hd hg hs hr place

theorem file?_explain (color : Bool) (config : Config) (name schema : Text) (json : Bool)
    (d : Disk) (place : Location) :
    (explain color config name schema json d).disk.file? place = d.file? place := by
  unfold explain
  split <;> rfl

theorem file?_perform {names : TemporaryNames} {d : Disk} (hd : d.IsTree) (c : Command)
    {color : Bool} {config : Config} {now : Timestamp}
    (h : c.isPreview = true ∨ (perform c color config now d names).exitCode ≠ 0 ∧
      Project.IsShown config c.root d) (place : Location) :
    (perform c color config now d names).disk.file? place = d.file? place := by
  cases c with
  | make name schema model root force dryRun =>
    simp only [perform] at h ⊢
    split at h
    · rfl
    · rename_i p hp
      refine file?_emit hd (Project.isGenerated_ofMigration hp) ?_ place
      exact h.imp_right fun hs => ⟨hs.1, hs.2.congr rfl rfl⟩
  | pivot first second root dryRun =>
    simp only [perform] at h ⊢
    split at h
    · rfl
    · rename_i p hp
      exact file?_emit hd (Project.isGenerated_ofPivot hp) h place
  | inspect name schema json => exact file?_explain color config name (schema.getD []) json d place

end Command

/-- The directories of the configuration that an invocation reads can be looked up. -/
def Invocation.IsShown (i : Invocation) (d : Disk) : Prop :=
  ∀ config, Command.configFor i i.command.root d = .ok config →
    Project.IsShown config i.command.root d

/-- A run that only shows something keeps every file and adds none, and so does one that fails, as
long as its directories could be looked up. -/
theorem Invocation.file?_run {names : TemporaryNames} {d : Disk} (hd : d.IsTree) (i : Invocation)
    {color : Bool} {now : Timestamp}
    (h : i.command.isPreview = true ∨ (i.run color now d names).exitCode ≠ 0 ∧ i.IsShown d)
    (place : Location) : (i.run color now d names).disk.file? place = d.file? place := by
  unfold run at h ⊢
  split at h
  · rfl
  · rename_i config hc
    exact Command.file?_perform hd i.command (h.imp_right fun hs => ⟨hs.1, hs.2 config hc⟩) place

/-- The migrations go to a directory of the name that the model should have. The migration is moved
before the model cannot be, and is taken back. -/
theorem Invocation.file?_run_posts :
    let before : Disk := ⟨[
      (["schemaforge.toml"], .file (.text "migrations_dir = \"app/Models/Post.php\"")),
      (["app", "Models", "User.php"], .file (.text "<?php")), (["app", "Models"], .directory),
      (["app"], .directory)]⟩
    let i : Invocation :=
      ⟨.make "create_posts_table" none true "." false false, none, false, false, false⟩
    let now : Timestamp := ⟨2024, 1, 31, 12, 0, 0, by decide, by decide, by decide, by decide⟩
    before.IsTree ∧ i.IsShown before ∧
      (i.run false now before .standard).failure =
        some (.bare (.fileUnwritten "./app/Models/Post.php" .isDirectory)) ∧
      ∀ place, (i.run false now before .standard).disk.file? place = before.file? place := by
  intro before i now
  have hd : before.IsTree := by decide
  have hc : Command.configFor i "." before = .ok { migrationsDir := "app/Models/Post.php" } := by
    decide +kernel
  have hs : i.IsShown before := by
    intro config h
    obtain rfl := Except.ok.inj (hc.symm.trans h)
    exact ⟨fun kind => by cases kind <;> decide, Disk.isGrounded_of_above_not_mem (by decide),
      by decide⟩
  have hf : (i.run false now before .standard).failure =
      some (.bare (.fileUnwritten "./app/Models/Post.php" .isDirectory)) := by
    decide +kernel
  refine ⟨hd, hs, hf, Invocation.file?_run hd i (.inr ⟨?_, hs⟩)⟩
  rw [Command.Run.exitCode, hf]
  exact Nat.one_ne_zero

/-- Where the root goes up from a missing directory, an old migration made at the same time is not
found. It is replaced before the model cannot be moved, and is not put back. -/
theorem Invocation.run_loses_migration :
    let migration : Location :=
      ["database", "migrations", "2024_01_31_120000_create_posts_table.php"]
    let before : Disk := ⟨[
      (migration, .file (.text "<?php")), (["database", "migrations"], .directory),
      (["database"], .directory), (["app", "Models", "Post.php"], .directory),
      (["app", "Models"], .directory), (["app"], .directory)]⟩
    let i : Invocation :=
      ⟨.make "create_posts_table" none true "missing/.." false false, none, false, false, false⟩
    let now : Timestamp := ⟨2024, 1, 31, 12, 0, 0, by decide, by decide, by decide, by decide⟩
    before.IsTree ∧ Command.configFor i i.command.root before = .ok {} ∧
      (i.run false now before .standard).failure =
        some (.bare (.fileUnwritten "missing/../app/Models/Post.php" .isDirectory)) ∧
      before.isFile migration = true ∧
      (i.run false now before .standard).disk.file? migration = none := by
  intro migration before i now
  have hr : (i.run false now before .standard).failure =
      some (.bare (.fileUnwritten "missing/../app/Models/Post.php" .isDirectory)) ∧
      (i.run false now before .standard).disk.file? migration = none := by
    decide +kernel
  exact ⟨by decide, by decide +kernel, hr.1, by decide, hr.2⟩

end Migrations
