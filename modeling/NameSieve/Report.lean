import NameSieve.Axis
import NameSieve.Json

/-!
# What a sieve reports

An `Exclusion` counts the rows that one axis dropped.  The console report has one line for the
names received and one for each exclusion; a `Summary` holds the same numbers and is written as
JSON.
-/

namespace NameSieve

/-- The number of rows that an axis dropped. -/
structure Exclusion where
  axis : Axis
  removed : Nat
deriving DecidableEq

namespace Exclusion

def line (exclusion : Exclusion) : String :=
  "Filtered " ++ toString exclusion.removed ++ " " ++ exclusion.axis.label ++ " names."

def json (exclusion : Exclusion) : Json :=
  .object [("axis", .string exclusion.axis.label), ("removed", .nat exclusion.removed)]

end Exclusion

/-- The report's line for the number of names received. -/
def receivedLine (total : Nat) : String :=
  "Received " ++ toString total ++ " FQ names."

/-- The numbers of a sieve: rows received, rows kept, and what each enabled axis dropped. -/
structure Summary where
  total : Nat
  kept : Nat
  /-- What each enabled axis dropped, in the order of evaluation. -/
  excluded : List Exclusion
deriving DecidableEq

def Summary.json (summary : Summary) : Json :=
  .object [("total", .nat summary.total), ("kept", .nat summary.kept),
    ("excluded", .array (summary.excluded.map Exclusion.json))]

end NameSieve
