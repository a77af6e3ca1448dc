import NameSieve.Command.Reply
import NameSieve.Pipeline

/-!
# The command that draws a chart

`bar-chart` reads two columns of a table and draws them, or writes the chart as JSON.
-/

namespace NameSieve.ChartCommand

structure Job where
  path : String
  xLabel : String
  yLabel : String
  /-- The width of the longest bar. -/
  width : Nat
  asJson : Bool
deriving DecidableEq

def defaultWidth : Nat :=
  50

def usage : Usage where
  settings := [
    { name := "x-label", accepts := some fun _ => true },
    { name := "y-label", accepts := some fun _ => true },
    { name := "width", accepts := some fun value => (count? value).isSome },
    { name := "json" }]
  operands := 1

def job? (arguments : Arguments) : Option Job := do
  let path ← arguments.operands.head?
  let xLabel ← arguments.value? "x-label"
  let yLabel ← arguments.value? "y-label"
  let width := ((arguments.value? "width").bind count?).getD defaultWidth
  some { path, xLabel, yLabel, width, asJson := arguments.has "json" }

def perform (around : Surroundings) (job : Job) : Reply :=
  match Chart.load around.files (around.directory.join job.path) job.xLabel job.yLabel with
  | .error e => .failed around.files "" ("Failed to load chart data from " ++ job.path) e
  | .ok chart =>
      .succeeded around.files
        (if job.asJson then chart.json.pretty ++ "\n" else around.cyan (chart.render job.width))

def reply (around : Surroundings) (arguments : List String) : Reply :=
  match Arguments.read usage arguments with
  | .error stop => .ofStop around.files stop
  | .ok found =>
      match job? found with
      | none => .ofStop around.files .refused
      | some job => perform around job

end NameSieve.ChartCommand
