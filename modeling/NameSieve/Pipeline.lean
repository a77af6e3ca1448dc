import NameSieve.Chart
import NameSieve.FileSystem.Basic
import NameSieve.Script.Classifiers
import NameSieve.Support

/-!
# From file to file

The operations of the library on files: a table is loaded, saved, or sieved from one file into
another; a chart is loaded from a table; and the support that a setup script declares is found.

`Pipeline.run` reads before it writes: whatever goes wrong before the table is written leaves
every file as it was.
-/

namespace NameSieve

def Table.load (files : FileSystem) (path : Path) : Except Error Table :=
  match files.contentOf path with
  | .error e => .error (.table (.file e))
  | .ok bytes =>
      match Table.read bytes with
      | .error e => .error (.table (.read e))
      | .ok table => .ok table

/-- A file system after something has been saved in it, or after that failed. -/
structure Saved where
  files : FileSystem
  failure : Option Error
deriving DecidableEq

/-- Saves a table in a file, with the directories on the way to it. -/
def Table.save (table : Table) (files : FileSystem) (path : Path) : Saved :=
  match files.createDirectories path.parentSteps with
  | ⟨files, some e⟩ => ⟨files, some (.io (.file e))⟩
  | ⟨files, none⟩ =>
      match files.putFile path table.write.bytes with
      | .error e => ⟨files, some (.table (.file e))⟩
      | .ok files => ⟨files, table.write.failure.map fun e => .table (.write e)⟩

/-- The chart of two columns of the table in a file. -/
def Chart.load (files : FileSystem) (path : Path) (xLabel yLabel : String) :
    Except Error Chart :=
  match files.contentOf path with
  | .error e => .error (.table (.file e))
  | .ok bytes => Chart.ofBytes bytes xLabel yLabel

/-- The support that the setup script in a file declares.  What a parser says about a text that is
no script is its own matter; `explain` are its words. -/
def Support.load (explain : String → String) (files : FileSystem) (path : Path) :
    Except Error Support :=
  match files.contentOf path with
  | .error e => .error (.io (.file e))
  | .ok bytes =>
      match Utf8.decode bytes with
      | .error _ => .error (.io .invalidText)
      | .ok source =>
          match Script.classifiers? source with
          | none => .error (.setupParse (explain source))
          | some found => .ok (Support.ofClassifiers found)

namespace Pipeline

structure Run where
  files : FileSystem
  trace : List String
  result : Except Error Outcome

/-- The line for a table that has been loaded. -/
def readLine (rows : Nat) (path : Path) : String :=
  "Read " ++ toString rows ++ " rows from " ++ path.text

/-- The line for a table that has been saved. -/
def wroteLine (rows : Nat) (path : Path) : String :=
  "Wrote " ++ toString rows ++ " rows to " ++ path.text

/-- Sieves the table of one file into another. -/
def run (files : FileSystem) (input output : Path) (request : Request) : Run :=
  match Table.load files input with
  | .error e => ⟨files, [], .error e⟩
  | .ok table =>
      let loaded := readLine table.size input
      match table.sieve request with
      | .error e => ⟨files, [loaded], .error (.missingColumn e)⟩
      | .ok outcome =>
          match outcome.table.save files output with
          | ⟨files, some e⟩ => ⟨files, loaded :: outcome.trace, .error e⟩
          | ⟨files, none⟩ =>
              ⟨files, loaded :: outcome.trace ++ [wroteLine outcome.table.size output],
                .ok outcome⟩

end Pipeline

end NameSieve
