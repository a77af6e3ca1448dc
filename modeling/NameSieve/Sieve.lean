import NameSieve.Report
import NameSieve.Table.Format

/-!
# The sieve

A table is sieved by a request: the names stand in the first column that the request names, and
each enabled axis in turn drops the rows whose name it matches.  An axis sees only the rows that
the axes before it have left, so that no row is counted twice.

* `Pass` is what one axis did; `passes` lets axes pass over rows one after another.
* `Table.sieve` is the whole: an `Outcome` with the rows that are left and the passes.
* An outcome has an account of itself for the reader (`report`, `summary`) and a finer one for
  diagnosis (`trace`).
-/

namespace NameSieve

/-! ## Passes -/

/-- What one axis did. -/
structure Pass extends Exclusion where
  /-- The number of rows it was shown. -/
  examined : Nat
deriving DecidableEq

def Pass.line (pass : Pass) : String :=
  "Axis " ++ pass.axis.label ++ " removed " ++ toString pass.removed ++ " of "
    ++ toString pass.examined ++ " rows"

/-- The name in a row: the field of a column, or the empty text if the row is too short. -/
def rowName (column : Nat) (row : List String) : String :=
  row[column]?.getD ""

def passOver (column : Nat) (axis : Axis) (rows : List (List String)) : Pass where
  axis := axis
  removed := rows.countP fun row => axis.drops (rowName column row)
  examined := rows.length

/-- The rows that an axis leaves. -/
def leave (column : Nat) (axis : Axis) (rows : List (List String)) : List (List String) :=
  rows.filter fun row => !axis.drops (rowName column row)

/-- The passes of several axes, each over what the ones before it left, and the rows left last. -/
def passes (column : Nat) : List Axis → List (List String) → List Pass × List (List String)
  | [], rows => ([], rows)
  | axis :: rest, rows =>
      let (more, left) := passes column rest (leave column axis rows)
      (passOver column axis rows :: more, left)

/-! ## Outcomes -/

/-- What a sieve did to a table. -/
structure Outcome where
  table : Table
  total : Nat
  column : String
  index : Nat
  passes : List Pass
deriving DecidableEq

namespace Outcome

def excluded (outcome : Outcome) : List Exclusion :=
  outcome.passes.map Pass.toExclusion

/-- The number of rows that an axis dropped, if it was enabled. -/
def removedBy (outcome : Outcome) (axis : Axis) : Option Nat :=
  (outcome.excluded.find? fun exclusion => exclusion.axis = axis).map Exclusion.removed

def report (outcome : Outcome) : List String :=
  receivedLine outcome.total :: outcome.excluded.map Exclusion.line

def summary (outcome : Outcome) : Summary :=
  ⟨outcome.total, outcome.table.size, outcome.excluded⟩

def trace (outcome : Outcome) : List String :=
  ("Filtering on column '" ++ outcome.column ++ "' (index " ++ toString outcome.index ++ ")")
    :: outcome.passes.map Pass.line

end Outcome

/-- No column has the name. -/
structure MissingColumn where
  name : String
deriving DecidableEq

def MissingColumn.message (error : MissingColumn) : String :=
  "Missing column '" ++ error.name ++ "' in input table"

def Table.sieve (table : Table) (request : Request) : Except MissingColumn Outcome :=
  match table.columnIndex? request.column with
  | none => .error ⟨request.column⟩
  | some index =>
      let (done, left) := NameSieve.passes index request.axes.toList table.rows
      .ok ⟨⟨table.header, left⟩, table.size, request.column, index, done⟩

end NameSieve
