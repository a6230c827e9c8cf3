import Mathlib.Data.List.Nodup
import Migrations.Project.Generation
import Migrations.Proofs.Intent.Parser
import Migrations.Proofs.MigrationFile

namespace Migrations

open Text (IsLetter)

theorem Intent.separator_not_mem_name {fallback : VerbFallback} {name : Text} {i : Intent}
    (h : parse fallback name = .ok i) : Path.separator ∉ i.name := by
  intro hm
  rw [name_of_parse h] at hm
  have hl := Name.isLetter_of_mem_snake hm
  revert hl
  decide

theorem Compiled.intent_of_compile {config : Config} {name schema : Text} {c : Compiled}
    (h : compile config name schema = .ok c) :
    Intent.parse config.verbFallback name = .ok c.intent := by
  unfold compile at h
  split at h
  · cases h
  · rename_i intent hi
    split at h
    · cases h
    · obtain rfl := Except.ok.inj h
      exact hi

/-- A join table without flaws has two different identifiers as its sides. -/
theorem Pivot.flaw?_eq_none_iff {p : Pivot} :
    p.flaw? = none ↔ Text.isIdentifier p.first = true ∧ Text.isIdentifier p.second = true ∧
      p.first ≠ p.second := by
  unfold flaw?
  by_cases hf : Text.isIdentifier p.first = true
  · by_cases hs : Text.isIdentifier p.second = true <;> simp [hf, hs]
  · simp [hf]

theorem Pivot.separator_not_mem_name {p : Pivot} (h : p.flaw? = none) :
    Path.separator ∉ p.name := by
  have hw : ∀ {t : Text}, Text.isIdentifier t = true → Path.separator ∉ t := by
    intro t ht hm
    have hc := Text.isWord_of_isIdentifier ht _ hm
    revert hc
    decide
  obtain ⟨hf, hs, -⟩ := flaw?_eq_none_iff.mp h
  unfold name table
  simp only [List.mem_append, List.mem_cons, not_or]
  exact ⟨⟨by decide, hw hf, by decide, hw hs⟩, by decide⟩

theorem exists_of_map_ok {ε α β : Type} {f : α → β} {x : Except ε α} {b : β}
    (h : x.map f = .ok b) : ∃ a, x = .ok a ∧ f a = b := by
  cases x with
  | error e => cases h
  | ok a => exact ⟨a, rfl, Except.ok.inj h⟩

namespace Project

def directoryFor (config : Config) : FileKind → Text
  | .migration => config.migrationsDir
  | .model => config.modelsDir

/-- The file stands where the configuration puts files of its kind. -/
inductive IsPlaced (config : Config) (name : Text) : GeneratedFile → Prop where
  | migration (t : Timestamp) (content : Text) : IsPlaced config name
      ⟨Path.join config.migrationsDir (MigrationFile.fileName name t), content, .migration⟩
  | model (className content : Text) (h : ∀ c ∈ className, IsLetter c) : IsPlaced config name
      ⟨Path.join config.modelsDir (className ++ '.' :: FileKind.model.extension), content, .model⟩

/-- All files are placed, and there is no second one of a kind. -/
structure IsGenerated (config : Config) (p : Project) : Prop where
  name : Path.separator ∉ p.name
  isPlaced : ∀ file ∈ p.files, IsPlaced config p.name file
  hasMigration : ∃ file ∈ p.files, file.kind = .migration
  kinds : (p.files.map GeneratedFile.kind).Nodup

theorem isPlaced_migrationFile {config : Config} {name className : Text} {rendered : Rendered}
    {t : Timestamp} {file : GeneratedFile}
    (h : migrationFile config name className rendered t = .ok file) :
    IsPlaced config name file ∧ file.kind = .migration := by
  unfold migrationFile at h
  obtain ⟨content, _, rfl⟩ := exists_of_map_ok h
  exact ⟨.migration t content, rfl⟩

theorem isPlaced_modelFile {config : Config} {intent : Intent} {file : GeneratedFile}
    (name : Text) (h : modelFile config intent = .ok file) :
    IsPlaced config name file ∧ file.kind = .model := by
  unfold modelFile at h
  obtain ⟨content, _, rfl⟩ := exists_of_map_ok h
  exact ⟨.model intent.modelName content fun c hc => Name.isLetter_of_mem_pascal hc, rfl⟩

theorem isGenerated_single {config : Config} {name : Text} {file : GeneratedFile}
    {warnings : List Text} (hn : Path.separator ∉ name)
    (hf : IsPlaced config name file ∧ file.kind = .migration) :
    IsGenerated config ⟨name, [file], warnings⟩ :=
  ⟨hn, fun other ho => by rw [List.mem_singleton.mp ho]; exact hf.1, ⟨file, by simp, hf.2⟩,
    by simp⟩

theorem addModel_cases {config : Config} {intent : Intent} {p q : Project}
    (h : addModel config intent p = .ok q) :
    q = p ∨ (∃ file, modelFile config intent = .ok file ∧ q = p.addFile file) ∨
      q = p.addWarning (noModelWarning intent.name) := by
  unfold addModel at h
  split at h
  · exact .inl (Except.ok.inj h).symm
  · split at h
    · obtain ⟨file, hf, rfl⟩ := exists_of_map_ok h
      exact .inr (.inl ⟨file, hf, rfl⟩)
    · exact .inr (.inr (Except.ok.inj h).symm)

theorem isGenerated_addModel {config : Config} {intent : Intent} {file : GeneratedFile}
    {warnings : List Text} {p : Project} (hn : Path.separator ∉ intent.name)
    (hf : IsPlaced config intent.name file ∧ file.kind = .migration)
    (h : addModel config intent ⟨intent.name, [file], warnings⟩ = .ok p) :
    IsGenerated config p := by
  rcases addModel_cases h with rfl | ⟨model, hm, rfl⟩ | rfl
  · exact isGenerated_single hn hf
  · obtain ⟨hp, hkm⟩ := isPlaced_modelFile intent.name hm
    exact ⟨hn, by simp [addFile, hf.1, hp], ⟨file, by simp [addFile], hf.2⟩,
      by simp [addFile, hf.2, hkm]⟩
  · exact isGenerated_single hn hf

theorem ofMigration_ok_iff {config : Config} {name schema : Text} {t : Timestamp} {p : Project} :
    ofMigration config name schema t = .ok p ↔ ∃ compiled file,
      Compiled.compile config name schema = .ok compiled ∧
      migrationFile config compiled.intent.name compiled.intent.className compiled.rendered t =
        .ok file ∧
      addModel config compiled.intent ⟨compiled.intent.name, [file], compiled.warnings⟩ =
        .ok p := by
  unfold ofMigration
  cases Compiled.compile config name schema with
  | error e => simp
  | ok compiled =>
    dsimp only
    cases hf : migrationFile config compiled.intent.name compiled.intent.className
      compiled.rendered t with
    | error e =>
      refine iff_of_false (by simp) ?_
      rintro ⟨_, file, hc, hm, _⟩
      obtain rfl := Except.ok.inj hc
      cases hf.symm.trans hm
    | ok file =>
      constructor
      · intro ha
        exact ⟨compiled, file, rfl, hf, ha⟩
      · rintro ⟨_, other, hc, hm, ha⟩
        obtain rfl := Except.ok.inj hc
        obtain rfl := Except.ok.inj (hf.symm.trans hm)
        exact ha

theorem isGenerated_ofMigration {config : Config} {name schema : Text} {t : Timestamp}
    {p : Project} (h : ofMigration config name schema t = .ok p) : IsGenerated config p := by
  obtain ⟨compiled, file, hc, hf, ha⟩ := ofMigration_ok_iff.mp h
  have hn := Intent.separator_not_mem_name (Compiled.intent_of_compile hc)
  exact isGenerated_addModel hn (isPlaced_migrationFile hf) ha

theorem isGenerated_ofPivot {config : Config} {first second : Text} {t : Timestamp}
    {p : Project} (h : ofPivot config first second t = .ok p) : IsGenerated config p := by
  unfold ofPivot at h
  dsimp only at h
  generalize Pivot.ofTables first second = pivot at h
  split at h
  · cases h
  · rename_i hv
    have hn := Pivot.separator_not_mem_name hv
    obtain ⟨file, hf, rfl⟩ := exists_of_map_ok h
    exact isGenerated_single hn (isPlaced_migrationFile hf)

theorem IsGenerated.eq_of_kind {config : Config} {p : Project} (hg : IsGenerated config p)
    {f g : GeneratedFile} (hf : f ∈ p.files) (hk : g ∈ p.files) (h : f.kind = g.kind) : f = g :=
  List.inj_on_of_nodup_map hg.kinds hf hk h

/-- A project goes where the directories of its configuration are. -/
theorem IsGenerated.congr {config other : Config} {p : Project} (hg : IsGenerated config p)
    (hm : config.migrationsDir = other.migrationsDir) (ho : config.modelsDir = other.modelsDir) :
    IsGenerated other p := by
  refine ⟨hg.name, fun file hf => ?_, hg.hasMigration, hg.kinds⟩
  cases hg.isPlaced file hf with
  | migration t content =>
    rw [hm]
    exact .migration t content
  | model className content hc =>
    rw [ho]
    exact .model className content hc

theorem name_ofMigration {config : Config} {name schema : Text} {t : Timestamp} {p : Project}
    (h : ofMigration config name schema t = .ok p) : p.name = Name.snake (Text.trim name) := by
  obtain ⟨compiled, file, hc, _, ha⟩ := ofMigration_ok_iff.mp h
  rw [Name.snake_trim, ← Intent.name_of_parse (Compiled.intent_of_compile hc)]
  rcases addModel_cases ha with rfl | ⟨model, _, rfl⟩ | rfl <;> rfl

theorem name_ofPivot {config : Config} {first second : Text} {t : Timestamp} {p : Project}
    (h : ofPivot config first second t = .ok p) : p.name = (Pivot.ofTables first second).name := by
  unfold ofPivot at h
  dsimp only at h
  split at h
  · cases h
  · obtain ⟨file, _, rfl⟩ := exists_of_map_ok h
    rfl

end Project

end Migrations
