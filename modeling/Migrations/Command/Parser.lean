import Migrations.Command.Basic
import Migrations.Command.Switch

namespace Migrations.Command

inductive Refusal where
  | help (topic : Topic)
  | version
  | noArguments
  | noTask
  | unknownTask
  | unknownArgument
  | missingValue
  | repeated
  | unneededValue
  | missingArgument
  deriving DecidableEq, Repr

structure Reading where
  topic : Topic
  settled : List (Switch × Text)
  /-- A named argument whose value may still follow, or has not been looked at yet. -/
  pending : Option (Switch × Option Text)
  words : List Text
  deriving DecidableEq, Repr

namespace Reading

def start (topic : Topic) : Reading := ⟨topic, [], none, []⟩

def has (r : Reading) (s : Switch) : Bool := (r.settled.find? (·.1 = s)).isSome

def value? (r : Reading) (s : Switch) : Option Text := (r.settled.find? (·.1 = s)).map (·.2)

def isWaiting (r : Reading) : Bool :=
  match r.pending with
  | some (_, none) => true
  | _ => false

/-- Takes a named argument with its value. One that takes none has an empty one here. -/
def accept (r : Reading) (s : Switch) (value : Text) : Except Refusal Reading :=
  match s, s.takes with
  | .help, _ => .error (.help r.topic)
  | .version, _ => .error .version
  | s, takes =>
    if r.has s then .error .repeated
    else
      match takes, value with
      | .path _, [] => .error .missingValue
      | _, value => .ok { r with settled := r.settled ++ [(s, value)] }

def settle (r : Reading) : Except Refusal Reading :=
  match r.pending with
  | none => .ok r
  | some (_, none) => .error .missingValue
  | some (s, some value) => accept { r with pending := none } s value

def take (r : Reading) (s : Switch) (value : Text) : Except Refusal Reading :=
  match r.settle with
  | .error refusal => .error refusal
  | .ok r => r.accept s value

def takeSwitch (r : Reading) (s : Switch) (attached : Option Text) : Except Refusal Reading :=
  match s.takes, attached with
  | .nothing, none => r.take s []
  | .nothing, some _ => .error .unneededValue
  | _, some value => r.take s value
  | _, none =>
    match r.settle with
    | .error refusal => .error refusal
    | .ok r => .ok { r with pending := some (s, none) }

def readLong (r : Reading) (t : Text) : Except Refusal Reading :=
  let (name, attached) : Text × Option Text :=
    match Text.splitFirst? '=' t with
    | some (name, value) => (name, some value)
    | none => (t, none)
  match r.topic.switches.find? (·.long = name) with
  | none => .error .unknownArgument
  | some s => r.takeSwitch s attached

/-- Reads the letters that follow one dash. What follows the letter of an argument with a value is
that value. -/
def readShort (r : Reading) : Text → Except Refusal Reading
  | [] => .ok r
  | c :: rest =>
    match r.topic.switches.find? (·.short? = some c) with
    | none => .error .unknownArgument
    | some s =>
      if s.takes = .nothing then
        match r.take s [] with
        | .error refusal => .error refusal
        | .ok r => readShort r rest
      else
        match rest with
        | [] => r.takeSwitch s none
        | '=' :: value => r.takeSwitch s (some value)
        | value => r.takeSwitch s (some value)

def takeWord (r : Reading) (word : Text) : Except Refusal Reading :=
  if r.words.length < r.topic.positionals.length then
    match r.settle with
    | .error refusal => .error refusal
    | .ok r => .ok { r with words := r.words ++ [word] }
  else .error .unknownArgument

def takeValue (r : Reading) (word : Text) : Except Refusal Reading :=
  match r.pending with
  | some (s, none) => .ok { r with pending := some (s, some word) }
  | _ => r.takeWord word

def readArgument (r : Reading) (argument : Text) : Except Refusal Reading :=
  match argument with
  | '-' :: '-' :: name => r.readLong name
  | '-' :: c :: rest => r.readShort (c :: rest)
  | word => r.takeValue word

end Reading

/-- Reads the arguments of a task. After two dashes none has a name. -/
def readTask (trailing : Bool) (r : Reading) : List Text → Except Refusal Reading
  | [] =>
    match r.settle with
    | .error refusal => .error refusal
    | .ok r =>
      if r.words.length < r.topic.positionals.length then .error .missingArgument else .ok r
  | argument :: rest =>
    if trailing then
      match r.takeWord argument with
      | .error refusal => .error refusal
      | .ok r => readTask true r rest
    else if argument = "--" then readTask true r rest
    else
      match r.readArgument argument with
      | .error refusal => .error refusal
      | .ok r => readTask false r rest

def readHelp : List Text → Refusal
  | [] => .help .program
  | [word] =>
    match Topic.ofWord? word with
    | some topic => .help topic
    | none => .unknownTask
  | _ => .unknownTask

def readProgram (trailing : Bool) (r : Reading) :
    List Text → Except Refusal (Reading × Reading)
  | [] =>
    match r.settle with
    | .error refusal => .error refusal
    | .ok r => .error (if r.settled = [] then .noArguments else .noTask)
  | argument :: rest =>
    if trailing then
      .error (if (Topic.ofWord? argument).isSome then .unknownArgument else .unknownTask)
    else
      match if r.isWaiting then none else Topic.ofWord? argument with
      | some .help => .error (readHelp rest)
      | some topic =>
        match readTask false (.start topic) rest, r.settle with
        | .error refusal, _ => .error refusal
        | .ok _, .error refusal => .error refusal
        | .ok task, .ok r => .ok (r, task)
      | none =>
        if argument = "--" then readProgram true r rest
        else if r.isWaiting || (argument.head? = some '-' && argument ≠ ['-']) then
          match r.readArgument argument with
          | .error refusal => .error refusal
          | .ok r => readProgram false r rest
        else .error .unknownTask

def ofReading? (task : Reading) : Option Command :=
  match task.topic, task.words with
  | .make, [name] =>
    some (.make name (task.value? .schema) (task.has .model)
      ((task.value? .path).getD defaultRoot) (task.has .force) (task.has .dryRun))
  | .pivot, [first, second] =>
    some (.pivot first second ((task.value? .path).getD defaultRoot) (task.has .dryRun))
  | .inspect, [name] => some (.inspect name (task.value? .schema) (task.has .json))
  | _, _ => none

end Migrations.Command

namespace Migrations

/-- Reads a command line, without the name of the program. Arguments are read from left to right,
and the first one that does not fit decides. A value is looked at when the argument after it is
read. Arguments that all tasks have may stand before the task and behind it. A value behind it
counts before one in front of it. -/
def Invocation.ofArguments (arguments : List Text) : Except Command.Refusal Invocation :=
  match Command.readProgram false (.start .program) arguments with
  | .error refusal => .error refusal
  | .ok (program, task) =>
    match Command.ofReading? task with
    | none => .error .missingArgument
    | some command => .ok
      { command
        configFile := (task.value? .config).or (program.value? .config)
        verbose := program.has .verbose || task.has .verbose
        ignoreUnknownModifiers :=
          program.has .ignoreUnknownModifiers || task.has .ignoreUnknownModifiers
        strictVerbs := program.has .strictVerbs || task.has .strictVerbs }

end Migrations
