import NameSieve.Error
import NameSieve.FileSystem.Path

/-!
# File systems

A file system is a value: which places hold a directory, and which hold a file with what content.
There are no links.  A place is the list of names that leads to it from the root; the root is a
directory of its own right.

* `walk` follows segments from place to place.
* `contentOf`, `makeDirectory`, `createDirectories` and `putFile` are the four operations on
  paths.  What they refuse they refuse with the system's own error; an operation that changes
  something answers the new file system.
-/

namespace NameSieve

/-- A place: the names that lead to it from the root. -/
abbrev Place : Type :=
  List String

/-- What a place holds. -/
inductive Entry where
  | directory
  | file (content : Bytes)
deriving DecidableEq

/-- The entries of a file system by their places. -/
structure FileSystem where
  entries : List (Place × Entry)
deriving DecidableEq

namespace FileSystem

def empty : FileSystem :=
  ⟨[]⟩

/-- What a place holds, if anything. -/
def entry? (files : FileSystem) (place : Place) : Option Entry :=
  if place.isEmpty then some .directory else files.entries.lookup place

/-- The file system with an entry at a place, instead of what was there. -/
def set (files : FileSystem) (place : Place) (entry : Entry) : FileSystem :=
  ⟨(place, entry) :: files.entries.filter fun other => other.1 ≠ place⟩

/-! ## Walking -/

/-- Refuses a place that is no directory. -/
def requireDirectory (files : FileSystem) (place : Place) : Except FileError Unit :=
  match files.entry? place with
  | some .directory => .ok ()
  | some (.file _) => .error .notDirectory
  | none => .error .notFound

/-- The place that a segment leads to from a directory. -/
def follow (place : Place) (segment : String) : Place :=
  if segment = "." then place
  else if segment = ".." then place.dropLast
  else place ++ [segment]

/-- The place that segments lead to.  Every place on the way must be a directory; the last may be
anything, or nothing. -/
def walk (files : FileSystem) (place : Place) : List String → Except FileError Place
  | [] => .ok place
  | segment :: rest =>
      match files.requireDirectory place with
      | .error e => .error e
      | .ok () => walk files (follow place segment) rest

/-- What a path leads to, if anything. -/
def find (files : FileSystem) (segments : List String) : Except FileError Entry :=
  match files.walk [] segments with
  | .error e => .error e
  | .ok place =>
      match files.entry? place with
      | some entry => .ok entry
      | none => .error .notFound

def isDirectory (files : FileSystem) (segments : List String) : Bool :=
  match files.find segments with
  | .ok .directory => true
  | _ => false

/-! ## Reading -/

/-- The content of the file that a path leads to. -/
def contentOf (files : FileSystem) (path : Path) : Except FileError Bytes :=
  match files.find path.segments with
  | .error e => .error e
  | .ok .directory => .error .isDirectory
  | .ok (.file content) => if path.hasSlash then .error .notDirectory else .ok content

/-! ## Directories -/

/-- A place for a new entry: the directory that the segments but the last lead to, and the last
segment; none if there is no last segment, or if it is no name. -/
def newPlace (files : FileSystem) (segments : List String) : Except FileError (Option Place) :=
  match segments.getLast? with
  | none => .ok none
  | some last =>
      match files.walk [] segments.dropLast with
      | .error e => .error e
      | .ok place =>
          match files.requireDirectory place with
          | .error e => .error e
          | .ok () => if last = "." ∨ last = ".." then .ok none else .ok (some (place ++ [last]))

/-- Makes the directory that segments lead to; there must not be anything yet. -/
def makeDirectory (files : FileSystem) (segments : List String) : Except FileError FileSystem :=
  match files.newPlace segments with
  | .error e => .error e
  | .ok none => .error .alreadyExists
  | .ok (some place) =>
      match files.entry? place with
      | some _ => .error .alreadyExists
      | none => .ok (files.set place .directory)

/-- A file system after an operation that may have failed halfway. -/
structure Change where
  files : FileSystem
  refusal : Option FileError
deriving DecidableEq

/-- Accepts a refusal to make a directory where there is one already. -/
def tolerate (files : FileSystem) (segments : List String) (e : FileError) : Change :=
  if files.isDirectory segments then ⟨files, none⟩ else ⟨files, some e⟩

/-- Makes the directory that segments lead to, which are given last first, after those on the way
to it, as far as they are missing. -/
def createReversed (files : FileSystem) : List String → Change
  | [] => ⟨files, none⟩
  | last :: before =>
      let segments := (last :: before).reverse
      match files.makeDirectory segments with
      | .ok changed => ⟨changed, none⟩
      | .error .notFound =>
          match createReversed files before with
          | ⟨changed, some e⟩ => ⟨changed, some e⟩
          | ⟨changed, none⟩ =>
              match changed.makeDirectory segments with
              | .ok final => ⟨final, none⟩
              | .error e => changed.tolerate segments e
      | .error e => files.tolerate segments e

/-- Makes the directory that segments lead to with those on the way to it, as far as they are
missing. -/
def createDirectories (files : FileSystem) (segments : List String) : Change :=
  files.createReversed segments.reverse

/-! ## Writing -/

/-- Puts a file with some content where a path leads, instead of the file that may be there.  A path
that ends in a slash asks for a directory, whatever stands there. -/
def putFile (files : FileSystem) (path : Path) (content : Bytes) :
    Except FileError FileSystem :=
  match files.newPlace path.segments with
  | .error e => .error e
  | .ok none => .error .isDirectory
  | .ok (some place) =>
      if files.entry? place = some .directory ∨ path.hasSlash then .error .isDirectory
      else .ok (files.set place (.file content))

end FileSystem

end NameSieve
