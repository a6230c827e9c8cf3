import Migrations.Project.Generation
import Migrations.Proofs.Intent.Parser
import Migrations.Proofs.Name.SnakeCase

namespace Migrations

namespace Intent

theorem parse_congr {fallback : VerbFallback} {one other : Text} {i : Intent}
    (h : Name.snake one = Name.snake other) :
    parse fallback one = .ok i ↔ parse fallback other = .ok i := by
  rw [parse_ok_iff, parse_ok_iff, h]

/-- The normalized name is its own snake case. -/
theorem parse_name_iff {fallback : VerbFallback} {name : Text} {i j : Intent}
    (ha : Text.IsAscii name) (h : parse fallback name = .ok i) :
    parse fallback i.name = .ok j ↔ parse fallback name = .ok j := by
  apply parse_congr
  rw [name_of_parse h, Name.snake_snake ha]

end Intent

theorem Compiled.compile_congr {config : Config} {one other : Text} {i : Intent}
    (h : Intent.parse config.verbFallback one = .ok i)
    (h' : Intent.parse config.verbFallback other = .ok i) (schema : Text) :
    compile config one schema = compile config other schema := by
  rw [compile, compile, h, h']

/-- An accepted name gives its normalized name, which is read as the same migration again. Of two
names with the same snake case either both are accepted or none is, and if they are, they give the
same project for every schema and time. -/
theorem Project.names_are_normalized :
    (∀ fallback name i, Text.IsAscii name → Intent.parse fallback name = .ok i →
        Intent.parse fallback i.name = .ok i) ∧
      ∀ one other, Name.snake one = Name.snake other →
        (∀ fallback i, Intent.parse fallback one = .ok i ↔ Intent.parse fallback other = .ok i) ∧
          ∀ config i, Intent.parse config.verbFallback one = .ok i →
            ∀ schema t, ofMigration config one schema t = ofMigration config other schema t := by
  refine ⟨?again, fun one other hs => ⟨?accepted, ?project⟩⟩
  case again =>
    intro fallback name i ha h
    exact (Intent.parse_name_iff ha h).mpr h
  case accepted =>
    intro fallback i
    exact Intent.parse_congr hs
  case project =>
    intro config i h schema t
    have h' := (Intent.parse_congr hs).mp h
    rw [ofMigration, ofMigration, Compiled.compile_congr h h']

/-- Capitals, blanks and hyphens are ways to spell the same name. -/
theorem Project.names_are_normalized_blog_posts :
    let i : Intent := ⟨"create_blog_posts_table", .create, "blog_posts", none⟩
    Text.IsAscii "CreateBlogPostsTable" ∧
      Intent.parse .reject "CreateBlogPostsTable" = .ok i ∧ Intent.parse .reject i.name = .ok i ∧
      Name.snake "CreateBlogPostsTable" = Name.snake " create BLOG-posts_table" ∧
      Intent.parse .reject " create BLOG-posts_table" = .ok i ∧
      ∀ schema t, ofMigration { verbFallback := .reject } "CreateBlogPostsTable" schema t =
        ofMigration { verbFallback := .reject } " create BLOG-posts_table" schema t := by
  intro i
  have ha : Text.IsAscii "CreateBlogPostsTable" := by decide
  have hp : Intent.parse .reject "CreateBlogPostsTable" = .ok i := by decide +kernel
  have hs : Name.snake "CreateBlogPostsTable" = Name.snake " create BLOG-posts_table" := by
    decide +kernel
  obtain ⟨hagain, hsame⟩ := names_are_normalized
  obtain ⟨haccepted, hproject⟩ := hsame _ _ hs
  exact ⟨ha, hp, hagain _ _ _ ha hp, hs, (haccepted _ _).mp hp,
    hproject { verbFallback := .reject } _ hp⟩

end Migrations
