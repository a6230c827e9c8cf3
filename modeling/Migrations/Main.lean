import Migrations.Command.Help
import Migrations.Command.Parser
import Migrations.Command.Run
import Std.Time

open Migrations

namespace Migrations.Program

def observe (place : Location) : IO (Option Entry) := do
  let path := (← IO.currentDir) / String.ofList (Path.ofLocation place)
  if ← path.isDir then return some .directory
  else if ← path.pathExists then
    let bytes ← IO.FS.readBinFile path
    return some (.file (match String.fromUTF8? bytes with
      | some s => .text s.toList
      | none => .binary bytes.toList))
  else return none

/-- The disk with what stands on the way of a path. -/
def look (d : Disk) (path : Text) : IO Disk := do
  let mut d := d
  let mut place := Path.start path
  for part in Path.parts path do
    place := Path.follow place part
    unless Path.isAnchor place do
      if let some entry ← observe place then d := d.put place entry
  return d

def lookInside (d : Disk) (directory : Text) : IO Disk := do
  let mut d ← look d directory
  let place := Path.location directory
  let path := (← IO.currentDir) / String.ofList (Path.ofLocation place)
  if ← path.isDir then
    for entry in ← path.readDir do
      let inner := place ++ [entry.fileName.toList]
      if let some entry ← observe inner then d := d.put inner entry
  return d

/-- The part of the disk that an invocation is about. Nothing else is looked at. -/
def lookFor (i : Invocation) : IO Disk := do
  let root := i.command.root
  let d ← look Disk.empty (i.configFile.getD (Path.join root Config.fileName))
  match Command.configFor i root d with
  | .error _ => return d
  | .ok config =>
    let d ← lookInside d (Path.join root config.migrationsDir)
    lookInside d (Path.join root config.modelsDir)

def apply (before after : Disk) : IO Unit := do
  for (place, entry) in after.entries.reverse do
    if before.get? place ≠ some entry then
      let path := (← IO.currentDir) / String.ofList (Path.ofLocation place)
      match entry with
      | .directory => IO.FS.createDirAll path
      | .file (.text t) => IO.FS.writeFile path (String.ofList t)
      | .file (.binary bytes) => IO.FS.writeBinFile path ⟨bytes.toArray⟩
  for (place, _) in before.entries do
    if before.isFile place && (after.get? place).isNone then
      IO.FS.removeFile ((← IO.currentDir) / String.ofList (Path.ofLocation place))

def now : IO (Option Timestamp) := do
  let t ← Std.Time.PlainDateTime.now
  return Timestamp.ofParts? t.year.toInt t.month.toNat t.day.toNat t.hour.toNat t.minute.toNat
    t.second.toNat

def complaint : Command.Refusal → String
  | .help _ | .version => ""
  | .noArguments | .noTask => "a subcommand is required"
  | .unknownTask => "unrecognized subcommand"
  | .unknownArgument => "unexpected argument"
  | .missingValue => "a value is required but none was supplied"
  | .repeated => "an argument cannot be used multiple times"
  | .unneededValue => "unexpected value for an argument that takes none"
  | .missingArgument => "required arguments were not provided"

def refuse (refusal : Command.Refusal) : IO UInt32 := do
  match refusal with
  | .help topic => IO.print (String.ofList (Command.Help.text topic)); return 0
  | .version => IO.print (String.ofList Command.Help.versionText); return 0
  | .noArguments => IO.eprint (String.ofList (Command.Help.text .program)); return 2
  | refusal => IO.eprintln ("error: " ++ complaint refusal); return 2

def perform (i : Invocation) : IO UInt32 := do
  let some now ← now | throw (IO.userError "the clock is beyond the calendar")
  let color := (← (← IO.getStdout).isTty) && (← IO.getEnv "NO_COLOR").isNone
  let disk ← lookFor i
  let run := i.run color now disk
  apply disk run.disk
  IO.eprint (String.ofList (run.errors color))
  IO.print (String.ofList run.output)
  return run.exitCode.toUInt32

end Migrations.Program

def main (arguments : List String) : IO UInt32 :=
  match Invocation.ofArguments (arguments.map String.toList) with
  | .error refusal => Program.refuse refusal
  | .ok invocation => Program.perform invocation
