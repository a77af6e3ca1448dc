import NameSieve.Command.Chart
import NameSieve.Command.Filter

/-!
# The command line

The first argument names a command, and the rest are its arguments.  The commands are functions on
file systems as values; here the part of the real file system that a command may look at is taken
as such a value, and what the command changed in it is carried out.
-/

namespace NameSieve

/-- The commands by their names. -/
def command? : String → Option (Surroundings → List String → Reply)
  | "filter-fq-names" => some FilterCommand.reply
  | "bar-chart" => some ChartCommand.reply
  | _ => none

/-- The places on the way to what a path leads to, with that place. -/
def placesOf (path : Path) : List Place :=
  (List.range path.steps.length).map fun n => path.steps.take (n + 1)

/-- Takes what a place really holds into a file system. -/
def observe (files : FileSystem) (place : Place) : IO FileSystem := do
  let path := (← IO.currentDir) / ("/" ++ String.intercalate "/" place)
  if ← path.isDir then return files.set place .directory
  else if ← path.pathExists then
    return files.set place (.file (← IO.FS.readBinFile path).toList)
  else return files

/-- Carries out what is new at a place. -/
def carryOut (before : FileSystem) (change : Place × Entry) : IO Unit := do
  let path := "/" ++ String.intercalate "/" change.1
  if before.entry? change.1 ≠ some change.2 then
    match change.2 with
    | .directory => IO.FS.createDirAll path
    | .file content => IO.FS.writeBinFile path ⟨content.toArray⟩

/-- Runs a command in the current directory; any argument may be a path. -/
def runCommand (command : Surroundings → List String → Reply) (arguments : List String) :
    IO UInt32 := do
  let directory : Path := ⟨(← IO.currentDir).toString⟩
  let values := arguments.flatMap fun argument => argument.splitOn "="
  let places := values.flatMap fun value => placesOf (directory.join value)
  let files ← (placesOf directory ++ places).foldlM observe .empty
  let hasColor := (← IO.getEnv "CLICOLOR_FORCE") == some "1"
  let reply := command ⟨files, directory, hasColor⟩ arguments
  reply.files.entries.reverse.forM (carryOut files)
  IO.print reply.output
  IO.eprint reply.diagnosis
  return UInt32.ofNat reply.code

end NameSieve

/-- Runs the command that the first argument names. -/
def main (arguments : List String) : IO UInt32 := do
  match arguments with
  | name :: rest =>
      match NameSieve.command? name with
      | some command => NameSieve.runCommand command rest
      | none => return 2
  | [] => return 2
