import Migrations.Main
import Migrations.Command.Run
import Migrations.Command.Parser
import Migrations.Command.Help
import Migrations.Config.File
import Migrations.Config.Toml
import Migrations.Decimal.Shortest
import Migrations.Text.DoubleQuoted
import Migrations.Config.Json
import Migrations.Compiled.Json
import Migrations.Json.Printer
import Migrations.Project.Generation
import Migrations.Project.Staging
import Migrations.Project.Writing
import Migrations.Template.Classes
import Migrations.Disk
import Migrations.Timestamp
import Migrations.Plan
import Migrations.Intent.Parser
import Migrations.Intent.Pivot
import Migrations.Schema.Parser
import Migrations.Schema.Printer
import Migrations.Field.Basic
import Migrations.Field.ColumnType
import Migrations.Field.Modifier
import Migrations.Name.Inflection
import Migrations.Text.Blank
import Migrations.Text.Literal
import Migrations.Text.Nesting
import Migrations.Proofs.Text.Nesting
import Migrations.Proofs.Text.Blank
import Migrations.Proofs.Text.Basic
import Migrations.Proofs.Text.Order
import Migrations.Proofs.Text.Splitting
import Migrations.Proofs.Schema.Item
import Migrations.Proofs.Schema.Chunk
import Migrations.Proofs.Field.Basic
import Migrations.Proofs.Schema.Print
import Migrations.Proofs.Schema.RoundTrip
import Migrations.Proofs.Compiled.Leniency
import Migrations.Proofs.Json.Alike
import Migrations.Proofs.Plan.Layout
import Migrations.Proofs.Plan.Reversal
import Migrations.Proofs.Path
import Migrations.Proofs.Disk
import Migrations.Proofs.Timestamp
import Migrations.Proofs.MigrationFile
import Migrations.Proofs.Calendar
import Migrations.Proofs.Chronology
import Migrations.Proofs.Name.Letter
import Migrations.Proofs.Name.Lower
import Migrations.Proofs.Name.Inflection
import Migrations.Proofs.Name.Words
import Migrations.Proofs.Intent.Parser
import Migrations.Proofs.Intent.Tables
import Migrations.Proofs.Project.Generation
import Migrations.Proofs.Project.Staging
import Migrations.Proofs.Project.Writing
import Migrations.Proofs.Project.Failure
import Migrations.Proofs.Command.Run
import Migrations.Proofs.Project.History
import Migrations.Proofs.Json.Lossless
import Migrations.Proofs.Schema.Spelling
import Migrations.Proofs.Schema.Separator
import Migrations.Proofs.Schema.Balance
import Migrations.Proofs.Statement.Balance
import Migrations.Proofs.Text.SingleQuoted
import Migrations.Proofs.Statement.Literal
import Migrations.Proofs.Schema.Arguments
import Migrations.Proofs.Schema.Layout
import Migrations.Proofs.Schema.Setting
import Migrations.Proofs.Schema.Target
import Migrations.Proofs.Name.SnakeCase
import Migrations.Proofs.Intent.Decoding
import Migrations.Proofs.Name.Plural
import Migrations.Proofs.Intent.Identifiers
import Migrations.Proofs.Intent.Normalization
import Migrations.Proofs.Name.Singular
import Migrations.Proofs.Plan.JoinTable
import Migrations.Proofs.Template.Pattern
import Migrations.Proofs.Template.Substitution
import Migrations.Proofs.Project.Source
