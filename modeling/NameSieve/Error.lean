import NameSieve.Analyzer
import NameSieve.Sieve
import NameSieve.Table.Reader
import NameSieve.Table.Writer
import NameSieve.Text.Quoted

/-!
# Errors

Every way in which an operation of the library fails, with its text.  What the system or a
format has to say is the *cause* of an error and follows its own heading.
-/

namespace NameSieve

/-- What a file system refuses. -/
inductive FileError where
  | notFound
  | alreadyExists
  | notDirectory
  | isDirectory
deriving DecidableEq

/-- The text of a refusal, with its number. -/
def FileError.message : FileError → String
  | notFound => "No such file or directory (os error 2)"
  | alreadyExists => "File exists (os error 17)"
  | notDirectory => "Not a directory (os error 20)"
  | isDirectory => "Is a directory (os error 21)"

/-- Why a table could not be read or written. -/
inductive TableError where
  | file (cause : FileError)
  | read (cause : ReadError)
  | write (cause : WriteError)
deriving DecidableEq

def TableError.message : TableError → String
  | file cause => cause.message
  | read cause => cause.message
  | write cause => cause.message

/-- Why a file could not be used otherwise. -/
inductive IOFailure where
  | file (cause : FileError)
  | invalidText
deriving DecidableEq

def IOFailure.message : IOFailure → String
  | file cause => cause.message
  | invalidText => "stream did not contain valid UTF-8"

/-- Why an operation failed. -/
inductive Error where
  | io (cause : IOFailure)
  | table (cause : TableError)
  | missingColumn (cause : MissingColumn)
  /-- A field is no number: its text, its column, and its row, counted from one. -/
  | invalidNumber (value column : String) (row : Nat)
  /-- A name stands for no analyzer, or for several. -/
  | analyzerLookup (cause : Analyzer.LookupError)
  /-- A text is no setup script: what its parser says about it. -/
  | setupParse (detail : String)
deriving DecidableEq

namespace Error

/-- The text of the cause, where there is one. -/
def cause? : Error → Option String
  | io cause => some cause.message
  | table cause => some cause.message
  | _ => none

def message : Error → String
  | io cause => "I/O error: " ++ cause.message
  | table cause => "CSV error: " ++ cause.message
  | missingColumn cause => cause.message
  | invalidNumber value column row =>
      "Invalid numeric value '" ++ value ++ "' in column '" ++ column ++ "' at row "
        ++ toString row
  | analyzerLookup cause =>
      "Error during searching analyzer with name " ++ cause.name ++ " in the analyzers list: "
        ++ Text.quoteList cause.found
  | setupParse detail => "Failed to parse setup file: " ++ detail

end Error

end NameSieve
