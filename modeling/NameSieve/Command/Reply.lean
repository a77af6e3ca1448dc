import NameSieve.Command.Arguments
import NameSieve.FileSystem.Basic

/-!
# Replies of commands

A command answers with an exit code and two texts, and leaves a file system behind.  The code is 0
if all went well, 1 if an operation failed, and 2 if the arguments do not fit.
-/

namespace NameSieve

/-- What a command answers and leaves behind. -/
structure Reply where
  code : Nat
  output : String
  diagnosis : String
  files : FileSystem
deriving DecidableEq

/-- What a command finds around itself. -/
structure Surroundings where
  files : FileSystem
  /-- The directory that paths are relative to. -/
  directory : Path
  /-- Is text shown in colours? -/
  hasColor : Bool

namespace Reply

def version : String :=
  "fq-tools 0.1.0\n"

/-- The reply to arguments that could not be read to the end. -/
def ofStop (files : FileSystem) : Stop → Reply
  | .refused => ⟨2, "", "", files⟩
  | .version => ⟨0, version, "", files⟩

/-- Text with something behind each of its line ends. -/
def indentLines (blanks : String) (text : String) : String :=
  String.ofList (text.toList.flatMap fun c => if c = '\n' then c :: blanks.toList else [c])

/-- The text about a failure: what was tried, and the causes, which are numbered if there are
two. -/
def diagnose (attempt : String) (error : Error) : String :=
  "Error: " ++ attempt ++ "\n\nCaused by:\n"
    ++ match error.cause? with
      | none => "    " ++ indentLines "    " error.message ++ "\n"
      | some cause =>
          "    0: " ++ indentLines "       " error.message ++ "\n"
            ++ "    1: " ++ indentLines "       " cause ++ "\n"

/-- The reply to a failure after some text had been written. -/
def failed (files : FileSystem) (output attempt : String) (error : Error) : Reply :=
  ⟨1, output, diagnose attempt error, files⟩

def succeeded (files : FileSystem) (output : String) : Reply :=
  ⟨0, output, "", files⟩

end Reply

namespace Surroundings

/-- A text between the control sequence of a style and the one that ends it, if colours are
shown. -/
def styled (around : Surroundings) (style text : String) : String :=
  if around.hasColor then "\x1b[" ++ style ++ "m" ++ text ++ "\x1b[0m" else text

def bold (around : Surroundings) (text : String) : String :=
  around.styled "1" text

def cyan (around : Surroundings) (text : String) : String :=
  around.styled "36" text

end Surroundings

end NameSieve
