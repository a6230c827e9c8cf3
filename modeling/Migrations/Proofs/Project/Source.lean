import Migrations.Proofs.Project.Generation
import Migrations.Proofs.Template.Substitution

namespace Migrations

namespace Template

def Placeholder.ofKey (key : Text) (h : Text.isIdentifier key = true) (hf : IsFree key) :
    Placeholder :=
  ⟨[], key, [], by simp, h, hf⟩

namespace Pattern

def migration : Pattern :=
  hole
    (Text.join ['\n'] [
      "<?php",
      "",
      "use Illuminate\\Database\\Migrations\\Migration;",
      "use Illuminate\\Database\\Schema\\Blueprint;",
      "use Illuminate\\Support\\Facades\\Schema;",
      "",
      "class "])
    (.ofKey "class" (by decide) (by decide)) (by decide +kernel) <|
  hole
    (Text.join ['\n'] [
      " extends Migration",
      "\x7b",
      "    /**",
      "     * Run the migrations.",
      "     *",
      "     * @return void",
      "     */",
      "    public function up()",
      "    \x7b",
      "        "])
    (.ofKey "schema_up" (by decide) (by decide)) (by decide +kernel) <|
  hole
    (Text.join ['\n'] [
      "",
      "    \x7d",
      "",
      "    /**",
      "     * Reverse the migrations.",
      "     *",
      "     * @return void",
      "     */",
      "    public function down()",
      "    \x7b",
      "        "])
    (.ofKey "schema_down" (by decide) (by decide)) (by decide +kernel) <|
  last
    (Text.join ['\n'] [
      "",
      "    \x7d",
      "\x7d",
      ""])
    (by decide +kernel)

theorem source_migration : migration.source = Template.migration.source := by
  decide +kernel

theorem keys_migration : migration.keys = (["class", "schema_up", "schema_down"] : List Text) :=
  rfl

def model : Pattern :=
  hole "<?php\n\nnamespace " (.ofKey "namespace" (by decide) (by decide)) (by decide +kernel) <|
  hole
    (Text.join ['\n'] [
      ";",
      "",
      "use Illuminate\\Database\\Eloquent\\Model;",
      "use Illuminate\\Database\\Eloquent\\SoftDeletes;",
      "",
      "class "])
    (.ofKey "class" (by decide) (by decide)) (by decide +kernel) <|
  hole
    (Text.join ['\n'] [
      " extends Model",
      "\x7b",
      "    use SoftDeletes;",
      "",
      "    protected $table = '"])
    (.ofKey "table" (by decide) (by decide)) (by decide +kernel) <|
  last "';\n\x7d\n" (by decide +kernel)

theorem source_model : model.source = Template.model.source := by
  decide +kernel

end Pattern

end Template

/-- What a compiled migration puts in the place of a key of its class. -/
def Compiled.part (c : Compiled) (key : Text) : Text :=
  if key = "class" then c.intent.className
  else if key = "schema_up" then c.rendered.upText else c.rendered.downText

theorem Compiled.part_class (c : Compiled) : c.part "class" = c.intent.className := if_pos rfl

theorem Compiled.part_up (c : Compiled) : c.part "schema_up" = c.rendered.upText := by
  rw [part, if_neg (by decide), if_pos rfl]

theorem Compiled.part_down (c : Compiled) : c.part "schema_down" = c.rendered.downText := by
  rw [part, if_neg (by decide), if_neg (by decide)]

namespace Project

open Template (IsLast Pattern)

section Source

variable {config : Config} {name schema : Text} {t : Timestamp}

/-- The template of a migration never fails. -/
theorem migrationFile_eq {className : Text} {rendered : Rendered} {given : Text → Text}
    (hc : given "class" = className) (hu : given "schema_up" = rendered.upText)
    (hd : given "schema_down" = rendered.downText) :
    migrationFile config name className rendered t =
      .ok ⟨Path.join config.migrationsDir (MigrationFile.fileName name t),
        Pattern.migration.filled given, .migration⟩ := by
  have hv : ([("class", given "class"), ("schema_up", given "schema_up"),
      ("schema_down", given "schema_down")] : List (Text × Text)) =
        Pattern.migration.keys.map fun key => (key, given key) := rfl
  rw [migrationFile, ← hc, ← hu, ← hd, hv,
    Pattern.render_given Pattern.source_migration (by decide)]
  rfl

/-- The template of a model never fails. -/
theorem modelFile_eq {intent : Intent} {given : Text → Text}
    (hn : given "namespace" = namespaceOf config.modelsDir) (hc : given "class" = intent.modelName)
    (ht : given "table" = intent.table) :
    modelFile config intent =
      .ok ⟨Path.join config.modelsDir (intent.modelName ++ '.' :: FileKind.model.extension),
        Pattern.model.filled given, .model⟩ := by
  have hv : ([("namespace", given "namespace"), ("class", given "class"),
      ("table", given "table")] : List (Text × Text)) =
        Pattern.model.keys.map fun key => (key, given key) := rfl
  rw [modelFile, ← hn, ← hc, ← ht, hv, Pattern.render_given Pattern.source_model (by decide)]
  rfl

/-- A model that is asked for is generated, and the migration is the same with it. -/
theorem exists_addModel (config : Config) (intent : Intent) (p : Project) :
    ∃ q, addModel config intent p = .ok q ∧ q.filesOf .migration = p.filesOf .migration := by
  unfold addModel
  split
  · exact ⟨p, rfl, rfl⟩
  · split
    · let given : Text → Text := fun key =>
        if key = "namespace" then namespaceOf config.modelsDir
        else if key = "class" then intent.modelName else intent.table
      have hm : modelFile config intent = .ok ⟨Path.join config.modelsDir
          (intent.modelName ++ '.' :: FileKind.model.extension), Pattern.model.filled given,
          .model⟩ := modelFile_eq rfl rfl rfl
      rw [hm]
      exact ⟨_, rfl, by simp [addFile, filesOf]⟩
    · exact ⟨_, rfl, rfl⟩

/-- A migration that compiles is generated, and its only file of a migration is the class with what
was compiled. -/
theorem exists_ofMigration {compiled : Compiled}
    (h : Compiled.compile config name schema = .ok compiled) :
    ∃ p, ofMigration config name schema t = .ok p ∧ p.filesOf .migration =
      [⟨Path.join config.migrationsDir (MigrationFile.fileName compiled.intent.name t),
        Pattern.migration.filled compiled.part, .migration⟩] := by
  let file : GeneratedFile :=
    ⟨Path.join config.migrationsDir (MigrationFile.fileName compiled.intent.name t),
      Pattern.migration.filled compiled.part, .migration⟩
  have hm : migrationFile config compiled.intent.name compiled.intent.className
      compiled.rendered t = .ok file :=
    migrationFile_eq compiled.part_class compiled.part_up compiled.part_down
  obtain ⟨p, hp, hf⟩ :=
    exists_addModel config compiled.intent ⟨compiled.intent.name, [file], compiled.warnings⟩
  exact ⟨p, ofMigration_ok_iff.mpr ⟨compiled, file, h, hm, hp⟩, hf⟩

end Source

/-- Rendering puts the last value of each key in the place of its placeholders, whatever the values
hold, and changes nothing else. The first placeholder without a value is the fault. Pairs of keys
that are not used do not count, nor does the order of pairs of different keys. So a migration that
compiles is generated, and its file is the template with the class and both bodies put in. -/
theorem sources_are_substitutions :
    (∀ (p : Pattern) (name : Text) (values : List (Text × Text)),
        (∀ given : Text → Text, (∀ key ∈ p.keys, IsLast values key (given key)) →
          Template.render ⟨name, p.source⟩ values = .ok (p.filled given)) ∧
        (∀ front key back, p.keys = front ++ key :: back →
          (∀ k ∈ front, k ∈ values.map (·.1)) → key ∉ values.map (·.1) →
            Template.render ⟨name, p.source⟩ values =
              .error (.templateFailed name (.missingValue key))) ∧
        ∀ other : List (Text × Text),
          (∀ key ∈ p.keys, values.filter (·.1 = key) = other.filter (·.1 = key)) →
            Template.render ⟨name, p.source⟩ values = Template.render ⟨name, p.source⟩ other) ∧
      Pattern.migration.source = Template.migration.source ∧
      Pattern.migration.keys = (["class", "schema_up", "schema_down"] : List Text) ∧
      ∀ config name schema t,
        (∀ compiled, Compiled.compile config name schema = .ok compiled →
          ∃ project, ofMigration config name schema t = .ok project) ∧
        ∀ project, ofMigration config name schema t = .ok project →
          ∃ compiled, Compiled.compile config name schema = .ok compiled ∧
            project.filesOf .migration =
              [⟨Path.join config.migrationsDir (MigrationFile.fileName compiled.intent.name t),
                Pattern.migration.filled compiled.part, .migration⟩] := by
  refine ⟨fun p name values => ⟨fun given h => ?filled, fun front key back hp hf hk => ?missing,
    fun other h => ?same⟩, Pattern.source_migration, Pattern.keys_migration,
    fun config name schema t => ⟨fun compiled h => ?generated, fun project h => ?file⟩⟩
  case filled =>
    rw [Pattern.render_source, Pattern.result_of_isLast h]
    rfl
  case missing =>
    rw [Pattern.render_source, Pattern.result_of_missing hp hf hk]
    rfl
  case same => rw [Pattern.render_source, Pattern.render_source, Pattern.result_congr h]
  case generated =>
    obtain ⟨project, hp, _⟩ := exists_ofMigration h
    exact ⟨project, hp⟩
  case file =>
    obtain ⟨compiled, _, hc, -⟩ := ofMigration_ok_iff.mp h
    obtain ⟨p, hp, hf⟩ := exists_ofMigration hc
    obtain rfl := Except.ok.inj (hp.symm.trans h)
    exact ⟨compiled, hc, hf⟩

/-- Values and defaults that look like placeholders come out as they are. -/
theorem sources_are_substitutions_braces :
    let values : List (Text × Text) := [("class", "Draft"), ("schema_up", "\x7b\x7bclass\x7d\x7d"),
      ("schema_down", "\x7b%"), ("class", "Posts")]
    let given : Text → Text := fun key =>
      if key = "class" then "Posts"
      else if key = "schema_up" then "\x7b\x7bclass\x7d\x7d" else "\x7b%"
    let schema : Text := "title:string:default('\x7b\x7bclass\x7d\x7d')"
    Template.render ⟨"t", Pattern.migration.source⟩ values = .ok (Pattern.migration.filled given) ∧
      ∀ t, ∃ compiled project,
        Compiled.compile {} "create_posts_table" schema = .ok compiled ∧
          ofMigration {} "create_posts_table" schema t = .ok project ∧
          project.filesOf .migration =
            [⟨Path.join "database/migrations" (MigrationFile.fileName compiled.intent.name t),
              Pattern.migration.filled compiled.part, .migration⟩] := by
  intro values given schema
  obtain ⟨hrender, _, _, hproject⟩ := sources_are_substitutions
  have hl : ∀ key ∈ Pattern.migration.keys, IsLast values key (given key) := by
    intro key hm
    rw [Pattern.keys_migration] at hm
    simp only [List.mem_cons, List.not_mem_nil, or_false] at hm
    rcases hm with rfl | rfl | rfl
    · exact ⟨[_, _, _], [], rfl, by simp⟩
    · exact ⟨[_], [_, _], rfl, by simp⟩
    · exact ⟨[_, _], [_], rfl, by simp⟩
  refine ⟨(hrender Pattern.migration "t" values).1 given hl, fun t => ?_⟩
  have hok : (Compiled.compile {} "create_posts_table" schema).isOk = true := by decide +kernel
  obtain ⟨hgenerated, hfile⟩ := hproject {} "create_posts_table" schema t
  cases hc : Compiled.compile {} "create_posts_table" schema with
  | error e =>
    rw [hc] at hok
    cases hok
  | ok compiled =>
    obtain ⟨project, hp⟩ := hgenerated compiled hc
    obtain ⟨other, ho, hf⟩ := hfile project hp
    obtain rfl := Except.ok.inj (ho.symm.trans hc)
    exact ⟨other, project, rfl, hp, hf⟩

/-- A key that a word for a truth value begins is no key, and a form feed is no blank of a tag. -/
theorem trueish_is_malformed :
    Text.isIdentifier "trueish" = true ∧ ("trueish" : Text) ∉ Template.Hole.truthWords.map (·.1) ∧
      ("trueish" : Text) ≠ Template.Hole.everythingKey ∧
      ("trueish" : Text) ≠ Template.Hole.negation ∧
      Template.render ⟨"t", "\x7b\x7b trueish \x7d\x7d"⟩ [("trueish", "q")] =
        .error (.templateFailed "t" .malformed) ∧
      Text.isBlank '\x0c' = true ∧
      Template.render ⟨"t", "a\x7b\x7b\x0cx\x7d\x7d"⟩ [("x", "q")] =
        .error (.templateFailed "t" .malformed) := by
  decide +kernel

end Project

end Migrations
