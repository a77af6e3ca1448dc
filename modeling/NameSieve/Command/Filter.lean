import NameSieve.Command.Reply
import NameSieve.Pipeline

/-!
# The command that sieves a file

`filter-fq-names` reads a table, sieves it by the axes whose flags are given, reports, and writes
the table that is left.  The report comes before the writing, so that it stands even if the
writing fails.
-/

namespace NameSieve.FilterCommand

structure Job where
  input : String
  output : String
  request : Request
  asJson : Bool
deriving DecidableEq

def usage : Usage where
  settings := [
    { name := "input", accepts := some isFilled },
    { name := "output", accepts := some isFilled },
    { name := "column-name", accepts := some fun _ => true },
    { name := "filter-private-names" },
    { name := "filter-dunder-names" },
    { name := "filter-stdlib-names" },
    { name := "json" },
    { name := "verbose", letter := some 'v' }]
  operands := 0

def job? (arguments : Arguments) : Option Job := do
  let input ← arguments.value? "input"
  let output ← arguments.value? "output"
  let column := (arguments.value? "column-name").getD defaultColumn
  let request : Request := { column }
  some {
    input, output
    request := ((request.withAxisIf .privateName (arguments.has "filter-private-names")).withAxisIf
      .stdlib (arguments.has "filter-stdlib-names")).withAxisIf
      .dunder (arguments.has "filter-dunder-names")
    asJson := arguments.has "json" }

/-- Text with a line end. -/
def line (text : String) : String :=
  text ++ "\n"

/-- The part of the report that comes before the sieve: the number of names received. -/
def opening (around : Surroundings) (job : Job) (table : Table) : String :=
  if job.asJson then "" else line (around.bold (receivedLine table.size))

/-- The part of the report that comes after the sieve. -/
def closing (job : Job) (outcome : Outcome) : String :=
  if job.asJson then line outcome.summary.json.pretty
  else String.join (outcome.excluded.map fun exclusion => line exclusion.line)

def perform (around : Surroundings) (job : Job) : Reply :=
  let input := around.directory.join job.input
  let output := around.directory.join job.output
  match Table.load around.files input with
  | .error e => .failed around.files "" ("Failed to read FQ names from " ++ input.text) e
  | .ok table =>
      let opening := opening around job table
      match table.sieve job.request with
      | .error e =>
          .failed around.files opening ("Failed to filter " ++ input.text) (.missingColumn e)
      | .ok outcome =>
          let report := opening ++ closing job outcome
          match outcome.table.save around.files output with
          | ⟨files, some e⟩ =>
              .failed files report ("Failed to write filtered FQ names to " ++ output.text) e
          | ⟨files, none⟩ => .succeeded files report

def reply (around : Surroundings) (arguments : List String) : Reply :=
  match Arguments.read usage arguments with
  | .error stop => .ofStop around.files stop
  | .ok found =>
      match job? found with
      | none => .ofStop around.files .refused
      | some job => perform around job

end NameSieve.FilterCommand
