import Migrations.Command.Switch

namespace Migrations.Command

namespace Topic

def summary : Topic → Text
  | program => "Command-line interface for SchemaForge"
  | make => "Generate a migration"
  | pivot => "Generate a pivot table migration joining two tables"
  | inspect => "Print the parsed intent, fields and rendered schema"
  | help => "Print this message or the help of the given subcommand(s)"

def describe (topic : Topic) : Switch → Text
  | .schema =>
    if topic = make then
      "Schema string, e.g. \"views:integer:unsigned, title:string:100:nullable\""
    else "Schema string"
  | .model => "Also generate an Eloquent model"
  | .json => "Print JSON instead of text"
  | .path => "Laravel project root [default: .]"
  | .config => "Configuration file (defaults to schemaforge.toml in the project directory)"
  | .force => "Replace an existing migration with the same name"
  | .dryRun =>
    if topic = pivot then "Print the generated file instead of writing it"
    else "Print the generated files instead of writing them"
  | .verbose => "Show debug logging"
  | .ignoreUnknownModifiers => "Drop unknown schema modifiers instead of failing"
  | .strictVerbs => "Fail on migration names that do not start with a known verb"
  | .help => "Print help"
  | .version => "Print version"

def usage : Topic → Text
  | program => "schemaforge [OPTIONS] <COMMAND>"
  | help => "schemaforge help [COMMAND]..."
  | topic =>
    "schemaforge " ++ topic.word ++ " [OPTIONS]" ++
      topic.positionals.flatMap fun (label, _) => ' ' :: '<' :: label ++ ['>']

end Topic

namespace Switch

def angled (label : Text) : Text := ' ' :: '<' :: label ++ ['>']

/-- A named argument as it is typed. Names without a short form are indented by the width of one. -/
def form (s : Switch) : Text :=
  (match s.short? with
    | some c => ['-', c, ',', ' ']
    | none => "    ") ++
  "--" ++ s.long ++
  match s.takes with
  | .nothing => []
  | .text label | .path label => angled label

end Switch

namespace Help

def table (title : Text) (rows : List (Text × Text)) : List Text :=
  if rows = [] then []
  else
    let width := (rows.map fun (left, _) => left.length).foldl max 0
    [] :: (title ++ ":") :: rows.map fun (left, right) =>
      ' ' :: ' ' :: left ++ List.replicate (width - left.length + 2) ' ' ++ right

def tasks : Topic → List (Text × Text)
  | .program => Topic.tasks.map fun task => (task.word, task.summary)
  | _ => []

def arguments : Topic → List (Text × Text)
  | .help => [("[COMMAND]...", "Print help for the subcommand(s)")]
  | topic => topic.positionals.map fun (label, meaning) => ('<' :: label ++ ['>'], meaning)

def text (topic : Topic) : Text :=
  Text.join ['\n'] <|
    [topic.summary, [], "Usage: " ++ topic.usage] ++ table "Commands" (tasks topic) ++
      table "Arguments" (arguments topic) ++
      table "Options" (topic.switches.map fun s => (s.form, topic.describe s)) ++ [[]]

def versionText : Text := "schemaforge 0.1.0\n"

end Help

end Migrations.Command
