import Migrations.Intent.Basic
import Migrations.Intent.Pivot
import Migrations.Statement

namespace Migrations

inductive Step where
  | createTable (table : Text) (body : List Statement)
  | changeTable (table : Text) (body : List Statement)
  | dropTable (table : Text)
  deriving DecidableEq

/-- The bodies of a migration, line by line. The first line is indented by what surrounds it. -/
structure Rendered where
  up : List Text
  down : List Text
  deriving DecidableEq, Repr

namespace Rendered

def upText (r : Rendered) : Text := Text.join ['\n'] r.up

def downText (r : Rendered) : Text := Text.join ['\n'] r.down

end Rendered

namespace Step

def statementIndent : Text := "            "

def closingIndent : Text := "        "

def closureLines (method table : Text) (body : List Statement) : List Text :=
  ("Schema::" ++ method ++ "('" ++ table ++ "', function (Blueprint $table) \x7b") ::
    body.map (fun s => statementIndent ++ s.text) ++ [closingIndent ++ "\x7d);"]

def lines : Step → List Text
  | createTable table body => closureLines "create" table body
  | changeTable table body => closureLines "table" table body
  | dropTable table => ["Schema::dropIfExists('" ++ table ++ "');"]

end Step

/-- Both directions of a migration. Going down undoes what going up did: a new table is dropped, and
added columns are removed in reverse order. -/
structure Plan where
  up : Step
  down : Step
  deriving DecidableEq

def Plan.render (p : Plan) : Rendered := ⟨p.up.lines, p.down.lines⟩

def Intent.plan (i : Intent) (fields : List Field) : Plan :=
  let added := fields.flatMap Field.added
  match i.action with
  | .create =>
    ⟨.createTable i.table (.bigIncrements :: added ++ [.softDeletes, .timestamps]),
      .dropTable i.table⟩
  | .add =>
    ⟨.changeTable i.table added, .changeTable i.table (fields.reverse.flatMap Field.dropped)⟩
  | .remove =>
    ⟨.changeTable i.table (fields.flatMap Field.dropped), .changeTable i.table added⟩

def Pivot.side (column table : Text) : Field :=
  (Field.plain column .foreignKey).withArgument table |>.withSetting .index .flag
    |>.withSetting .cascade .flag

def Pivot.fields (p : Pivot) : List Field :=
  [side p.columns.1 p.tables.1, side p.columns.2 p.tables.2]

/-- A join table has a column for each side, and both together are its key. -/
def Pivot.plan (p : Pivot) : Plan :=
  ⟨.createTable p.table
    (p.fields.flatMap Field.added ++ [.primary p.columns.1 p.columns.2]),
    .dropTable p.table⟩

end Migrations
