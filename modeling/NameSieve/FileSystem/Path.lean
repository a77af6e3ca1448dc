import NameSieve.Text.Basic

/-!
# Paths

A path is a text of segments between slashes, read from the root on.  `Path.join` puts a path
that does not begin at the root behind a directory's.
-/

namespace NameSieve

/-- A path from the root. -/
structure Path where
  text : String
deriving DecidableEq

namespace Path

def isAbsolute (text : String) : Bool :=
  text.toList.head? == some '/'

def endsWithSlash (text : String) : Bool :=
  text.toList.getLast? == some '/'

/-- A path below a directory, unless the text itself begins at the root. -/
def join (directory : Path) (text : String) : Path :=
  if isAbsolute text then ⟨text⟩
  else if endsWithSlash directory.text then ⟨directory.text ++ text⟩
  else ⟨directory.text ++ "/" ++ text⟩

/-- The segments of a path, in order; nothing stands between two slashes side by side. -/
def segments (path : Path) : List String :=
  ((Text.splitOn '/' path.text.toList).filter fun segment => !segment.isEmpty).map String.ofList

/-- The segments that lead somewhere: without those that stay where they are. -/
def steps (path : Path) : List String :=
  path.segments.filter (· ≠ ".")

/-- The segments of the directory that a path stands in. -/
def parentSteps (path : Path) : List String :=
  path.steps.dropLast

/-- Must the path lead to a directory? -/
def hasSlash (path : Path) : Bool :=
  endsWithSlash path.text

end Path

end NameSieve
