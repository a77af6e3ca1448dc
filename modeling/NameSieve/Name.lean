import NameSieve.Name.Registry

/-!
# Dotted names and the three questions asked of them

A fully qualified name is a text read as *segments* between dots.  Nothing is validated: empty
segments, leading and trailing dots are segments like any other.  Three independent questions
are asked of a name.

* `isStdlib` (in `NameSieve.Name.Registry`): does it live in a registered module?
* `isPrivate`: does some segment begin with an underscore without being a dunder segment?
* `hasDunder`: is some segment a dunder segment?

`classify` answers the three together.
-/

namespace NameSieve.Name

/-! ## Dunder segments -/

/-- Two underscores stand somewhere before the first line feed. -/
def closesDunder : List Char → Bool
  | [] => false
  | [_] => false
  | c :: d :: rest =>
      if c = '\n' then false
      else (c == '_' && d == '_') || closesDunder (d :: rest)

/-- **Dunder text.**  It opens with two underscores and closes with two more, which may follow at
once but may not overlap the opening ones; what comes after the closing pair is free. -/
def isDunderChars : List Char → Bool
  | '_' :: '_' :: rest => closesDunder rest
  | _ => false

def isDunder (name : String) : Bool :=
  isDunderChars name.toList

/-! ## Private names -/

/-- The one module whose name begins with an underscore and whose members are public. -/
def threadModule : List Char :=
  "_thread".toList

def startsHidden : List Char → Bool
  | '_' :: _ => true
  | _ => false

/-- A segment that begins with an underscore and is not a dunder segment. -/
def isPrivateSegment (segment : List Char) : Bool :=
  startsHidden segment && !isDunderChars segment

/-- Privacy of a list of segments: names whose first segment is `_thread` are exempt, any other
list is private as soon as one segment is. -/
def isPrivateSegments : List (List Char) → Bool
  | [] => false
  | first :: rest =>
      if first = threadModule then false
      else (first :: rest).any isPrivateSegment

def isPrivate (name : String) : Bool :=
  isPrivateSegments (segments name.toList)

def hasDunder (name : String) : Bool :=
  (segments name.toList).any isDunderChars

/-! ## The three answers together -/

/-- What is known of a name: three answers, independent of each other. -/
structure Classification where
  isStdlib : Bool
  isPrivate : Bool
  isDunder : Bool
deriving DecidableEq

/-- The three answers for one name; they depend on the text alone. -/
def classify (name : String) : Classification :=
  ⟨isStdlib name, isPrivate name, hasDunder name⟩

end NameSieve.Name
