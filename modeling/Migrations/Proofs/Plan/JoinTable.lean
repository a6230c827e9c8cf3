import Migrations.Proofs.Intent.Tables
import Migrations.Proofs.Name.Singular
import Migrations.Proofs.Project.Generation

namespace Migrations

open Text (IsAscii IsWord)

/-- A word is a target of its own: the table, and the column that targets name by default. -/
theorem Reference.ofTarget_of_isWord {t : Text} (h : IsWord t) : ofTarget t = toTable t := by
  have hdot : '.' ∉ t := fun hm => absurd (h '.' hm) (by decide)
  have hq : ∀ c ∈ t, c ∉ quotes := by
    intro c hc hm
    simp only [quotes, List.mem_cons, List.not_mem_nil, or_false] at hm
    rcases hm with rfl | rfl <;> exact absurd (h _ hc) (by decide)
  rw [ofTarget, h.trim, Text.trimMarks_of_not_mem hq]
  simp only [Text.splitFirst?_of_not_mem hdot]

namespace Pivot

/-- The order in which the tables are named does not matter. -/
theorem ofTables_comm (one other : Text) : ofTables one other = ofTables other one := by
  unfold ofTables
  generalize Name.singularize one = a
  generalize Name.singularize other = b
  dsimp only
  split
  · rename_i h
    rw [if_neg (List.lt_asymm h)]
  · rename_i h
    split
    · rfl
    · rename_i h'
      rw [List.le_antisymm (List.not_lt.mp h) (List.not_lt.mp h')]

theorem not_second_lt_first (one other : Text) :
    ¬ (ofTables one other).second < (ofTables one other).first := by
  unfold ofTables
  dsimp only
  split
  · rename_i h
    exact List.lt_asymm h
  · assumption

theorem ofTables_eq_self {p : Pivot} (hf : Name.singularize p.first = p.first)
    (hs : Name.singularize p.second = p.second) (h : ¬ p.second < p.first) :
    ofTables p.first p.second = p := by
  rw [ofTables, hf, hs]
  exact if_neg h

section Sides

variable {column table : Text}

theorem foreignKey?_side (h : IsWord table) :
    (side column table).foreignKey? =
      some { Reference.toTable table with onDelete := some "cascade" } := by
  simp [Field.foreignKey?, Field.IsForeign, Field.reference, side, Field.withSetting,
    Field.withArgument, Field.plain, Field.target?, Field.targetColumn?, Settings.literal?,
    Settings.has, Reference.ofTarget_of_isWord h]

theorem columnText_side :
    Statement.columnText (side column table) =
      "$table->unsignedBigInteger('" ++ column ++ "')->index();" := by
  have hlead : ("$table->unsignedBigInteger('" : Text) =
      "$table->" ++ "unsignedBigInteger" ++ "('" := rfl
  have hend : ("')->index();" : Text) = "'" ++ ")" ++ "->index()" ++ ";" := rfl
  have hname : (side column table).name = column := rfl
  have hmethod : (side column table).type.method = "unsignedBigInteger" := rfl
  have harguments : Statement.argumentsText (side column table) = [] := rfl
  have hchain : Modifier.chained.flatMap (Statement.chainText (side column table)) =
      "->index()" := rfl
  unfold Statement.columnText
  simp only [hname, hmethod, harguments, hchain, hlead, hend, List.append_assoc, List.nil_append]

theorem foreignText_side :
    Statement.foreignText column { Reference.toTable table with onDelete := some "cascade" } =
      "$table->foreign('" ++ column ++ "')->references('id')->on('" ++ table ++
        "')->onDelete('cascade');" := by
  have hmid : ("')->references('id')->on('" : Text) =
      "')->references('" ++ "id" ++ "')->on('" := rfl
  have hend : ("')->onDelete('cascade');" : Text) =
      "')" ++ ("->onDelete('" ++ "cascade" ++ "')") ++ ";" := rfl
  unfold Statement.foreignText Statement.onDeleteText
  simp only [Reference.toTable, Reference.defaultColumn, hmid, hend, List.append_assoc]

def sideLines (column table : Text) : List Text :=
  [Step.statementIndent ++ ("$table->unsignedBigInteger('" ++ column ++ "')->index();"),
    Step.statementIndent ++ ("$table->foreign('" ++ column ++ "')->references('id')->on('" ++
      table ++ "')->onDelete('cascade');")]

theorem lines_side (h : IsWord table) :
    (side column table).added.map (fun s => Step.statementIndent ++ s.text) =
      sideLines column table := by
  have hname : (side column table).name = column := rfl
  rw [Field.added, foreignKey?_side h, hname, sideLines, ← @columnText_side column table,
    ← foreignText_side]
  rfl

end Sides

/-- The lines that make the table: those of its two sides, and the key over both columns. -/
def upLines (p : Pivot) : List Text :=
  ("Schema::create('" ++ p.table ++ "', function (Blueprint $table) \x7b") ::
    (sideLines (p.first ++ "_id") (Name.pluralize p.first) ++
      sideLines (p.second ++ "_id") (Name.pluralize p.second) ++
      [Step.statementIndent ++ ("$table->primary(['" ++ (p.first ++ "_id") ++ "', '" ++
        (p.second ++ "_id") ++ "']);"), Step.closingIndent ++ "\x7d);"])

theorem up_render {p : Pivot} (hf : IsWord (Name.pluralize p.first))
    (hs : IsWord (Name.pluralize p.second)) : p.plan.render.up = p.upLines := by
  have hfields : p.fields.flatMap Field.added =
      (side (p.first ++ "_id") (Name.pluralize p.first)).added ++
        (side (p.second ++ "_id") (Name.pluralize p.second)).added := by
    simp [fields, columns, tables]
  have hcolumns : p.columns = (p.first ++ "_id", p.second ++ "_id") := rfl
  have hopen : ("Schema::create('" : Text) = "Schema::" ++ "create" ++ "('" := rfl
  unfold Plan.render plan upLines
  simp only [Step.lines, Step.closureLines, hfields, hcolumns, List.map_append, lines_side hf,
    lines_side hs, List.map_cons, List.map_nil, hopen]
  rw [List.cons_append, List.append_assoc (sideLines _ _ ++ sideLines _ _)]
  rfl

/-- A side that is an identifier is a name in snake case. -/
theorem isSnakeCase_singularize {name : Text} (ha : IsAscii name)
    (hi : Text.isIdentifier (Name.singularize name) = true) :
    Name.IsSnakeCase (Name.singularize name) := by
  have hw : Name.words name ≠ [] := by
    intro hn
    rw [Name.singularize, Name.snake, hn] at hi
    exact Text.ne_nil_of_isIdentifier hi rfl
  rw [← Name.singularize_snake ha, Name.singularize]
  exact ((Name.isSnakeCase_snake ha hw).of_inflects Name.inflects_singularWord).1

section Ascii

variable {one other : Text}

theorem isWord_pluralize_side (ho : IsAscii one) (hr : IsAscii other) {side : Text}
    (hm : side = (ofTables one other).first ∨ side = (ofTables one other).second)
    (hi : Text.isIdentifier side = true) : IsWord (Name.pluralize side) := by
  have hs : Name.IsSnakeCase side := by
    rcases mem_ofTables.mp hm with rfl | rfl
    · exact isSnakeCase_singularize ho hi
    · exact isSnakeCase_singularize hr hi
  obtain ⟨ws, _, hl, he⟩ := hs.pluralize
  exact he ▸ Text.isWord_join hl

/-- The sides of a join table are singular, so they give the same join table again. -/
theorem ofTables_sides (ho : IsAscii one) (hr : IsAscii other)
    (hdo : ¬ Name.EndsInDoublePlural one) (hdr : ¬ Name.EndsInDoublePlural other) :
    ofTables (ofTables one other).first (ofTables one other).second = ofTables one other := by
  have hside : ∀ side, side = (ofTables one other).first ∨ side = (ofTables one other).second →
      Name.singularize side = side := by
    intro side hm
    rcases mem_ofTables.mp hm with rfl | rfl
    · exact Name.singularize_singularize ho hdo
    · exact Name.singularize_singularize hr hdr
  exact ofTables_eq_self (hside _ (.inl rfl)) (hside _ (.inr rfl)) (not_second_lt_first one other)

/-- A join table is the same for both orders of its two tables, and for its own two sides. If it has
no flaw, its sides are in order, and so are the columns of its body with their constraints. -/
theorem ofTables_canonical (one other : Text) (ho : IsAscii one) (hr : IsAscii other) :
    (∀ config t, Project.ofPivot config one other t = Project.ofPivot config other one t) ∧
      (¬ Name.EndsInDoublePlural one → ¬ Name.EndsInDoublePlural other →
        ofTables (ofTables one other).first (ofTables one other).second = ofTables one other) ∧
      ∀ p, ofTables one other = p → p.flaw? = none →
        p.first < p.second ∧ p.first ++ "_id" ≠ p.second ++ "_id" ∧
          p.plan.render.up = p.upLines := by
  refine ⟨fun config t => ?symmetric, ofTables_sides ho hr, ?valid⟩
  case symmetric => rw [Project.ofPivot, Project.ofPivot, ofTables_comm]
  case valid =>
    rintro p rfl hv
    obtain ⟨hf, hs, hne⟩ := flaw?_eq_none_iff.mp hv
    have hle := List.not_lt.mp (not_second_lt_first one other)
    refine ⟨?ordered, fun he => hne (List.append_cancel_right he), ?body⟩
    case ordered =>
      by_contra hge
      exact hne (List.le_antisymm hle (List.not_lt.mp hge))
    case body =>
      exact up_render (isWord_pluralize_side ho hr (.inl rfl) hf)
        (isWord_pluralize_side ho hr (.inr rfl) hs)

/-- The tables of posts and tags, however they are spelled and ordered. -/
theorem ofTables_canonical_blog_posts :
    let p : Pivot := ⟨"blog_post", "tag"⟩
    IsAscii "tags" ∧ IsAscii "BlogPosts" ∧ ofTables "tags" "BlogPosts" = p ∧ p.flaw? = none ∧
      ofTables p.first p.second = p ∧ p.first < p.second ∧ p.plan.render.up = p.upLines := by
  intro p
  have ht : IsAscii "tags" := by decide
  have hb : IsAscii "BlogPosts" := by decide
  have hp : ofTables "tags" "BlogPosts" = p := by decide +kernel
  have hv : p.flaw? = none := by decide
  have hdt : ¬ Name.EndsInDoublePlural "tags" := by decide +kernel
  have hdb : ¬ Name.EndsInDoublePlural "BlogPosts" := by decide +kernel
  obtain ⟨_, hagain, hvalid⟩ := ofTables_canonical "tags" "BlogPosts" ht hb
  obtain ⟨hlt, _, hup⟩ := hvalid p hp hv
  exact ⟨ht, hb, hp, hv, hp ▸ hagain hdt hdb, hlt, hup⟩

end Ascii

end Pivot

end Migrations
