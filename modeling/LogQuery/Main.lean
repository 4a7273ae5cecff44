import LogQuery.Command.Run
import Std.Time.Zoned.Database

/-! The program: it looks at its surroundings, and lets a command work on what it saw.

The configuration's files are looked at first, then the directories that they name, then the files
that are to be read, and standard input only if it is asked for.
-/

set_option autoImplicit false

namespace LogQuery

namespace Disk

/-- Adds what stands at a path, and for a directory what is in it, so many levels down. Contents of
files that are not yet known are left empty unless they are asked for. `trail` holds the directories
that are being looked through: none is entered again from within. -/
def observe (hasContents : Bool) (trail : List String) (depth : Nat) (disk : Disk) (path : String) :
    IO Disk := do
  try
    let target ← IO.FS.realPath path
    let named (disk : Disk) : Disk := match disk.find path with
      | .ok _ => disk
      | .error _ => disk.makeLink path target.toString
    match (← target.metadata).type with
    | .file =>
      if hasContents then
        return named (disk.writeFile target.toString (← IO.FS.readBinFile target).toList)
      else if (disk.find target.toString).isOk then return named disk
      else return named (disk.writeFile target.toString [])
    | .dir =>
      let disk := named (disk.makeDirectory target.toString)
      match depth with
      | 0 => return disk
      | depth + 1 =>
        if trail.contains target.toString then return disk
        let mut disk := disk
        for entry in ← target.readDir do
          disk ← observe hasContents (target.toString :: trail) depth disk entry.path.toString
        return disk
    | _ => return disk
  catch _ => return disk

def observePath (hasContents : Bool) (depth : Nat) (disk : Disk) (path : String) : IO Disk := do
  let names := Path.names path
  let mut disk := disk
  for count in List.range' 1 (names.length - 1) do
    disk ← observe false [] 0 disk ("/".intercalate (names.take count))
  observe hasContents [] depth disk path

def observePaths (hasContents : Bool) (depth : Nat) (disk : Disk) (paths : List String) : IO Disk :=
  paths.foldlM (observePath hasContents depth) disk

end Disk

def readClock : IO Time.DateTime := do
  let stamp ← Std.Time.Timestamp.now
  let zone : Std.Time.TimeZone ←
    try
      let rules ← Std.Time.Database.defaultGetLocalZoneRules
      pure (rules.timezoneAt stamp)
    catch _ => pure .UTC
  return {
    seconds := stamp.val.second.val
    nano := Time.toNano stamp.val.nano.val.toNat
    offset := zone.offset.second.val }

partial def readToEnd (stream : IO.FS.Stream) (bytes : ByteArray) : IO ByteArray := do
  let block ← stream.read 65536
  if block.isEmpty then return bytes else readToEnd stream (bytes ++ block)

def readTerminal (stream : IO.FS.Stream) : IO Terminal := do
  let isLive ← stream.isTty
  let isPlain := (← IO.getEnv "NO_COLOR").isSome || (← IO.getEnv "TERM").getD "dumb" == "dumb"
  return { isLive, hasColors := isLive && !isPlain }

def Command.observe (command : Command) : IO Surroundings := do
  let here ← IO.FS.realPath "."
  let empty : Disk := { workingDirectory := (Path.names here.toString).drop 1 }
  let home? := (← IO.getEnv "HOME").filter (!·.isEmpty)
  let around : Surroundings := {
    now := ← readClock
    disk := (empty.makeDirectory here.toString)
    home?
    terminal := ← readTerminal (← IO.getStdout) }
  let choices := command.choices
  let disk ← around.disk.observePaths true 0 (choices.configPaths home?)
  let configuration := (Configuration.load disk (choices.configPaths home?)).toOption.getD {}
  let disk ← disk.observePaths false (configuration.recursion + 1) configuration.rotatedDirectories
  let disk ← disk.observePaths false 2 configuration.hourlyDirectories
  let around := { around with disk }
  match command.chain? around with
  | some (.direct _, _) =>
    let input ← readToEnd (← IO.getStdin) .empty
    return { around with input := [.bytes input.toList] }
  | some (chain, window) =>
    let paths := (chain.paths window).filter fun path => (disk.find path).isOk
    return { around with disk := ← disk.observePaths true 0 paths }
  | none => return around

end LogQuery

open LogQuery

def main (words : List String) : IO UInt32 := do
  let outcome ← match Command.parse words with
    | .error stop => pure stop.outcome
    | .ok command => do pure (command.run (← command.observe))
  outcome.messages.forM fun message => IO.eprintln message
  IO.print outcome.output
  (← IO.getStdout).flush
  return UInt32.ofNat outcome.exitCode
