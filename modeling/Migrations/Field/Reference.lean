import Migrations.Text.Blank

namespace Migrations

structure Reference where
  table : Text
  column : Text
  onDelete : Option Text
  deriving DecidableEq, Repr

namespace Reference

def defaultColumn : Text := "id"

def quotes : List Char := ['\'', '"']

def toTable (table : Text) : Reference := ⟨table, defaultColumn, none⟩

/-- A target is written `table` or `table.column`, with or without quotes around it. -/
def ofTarget (target : Text) : Reference :=
  let bare := Text.trimMarks quotes (Text.trim target)
  match Text.splitFirst? '.' bare with
  | some (table, column) => ⟨table, column, none⟩
  | none => toTable bare

end Reference

end Migrations
