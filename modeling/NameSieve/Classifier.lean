import NameSieve.Text.Basic

/-!
# Classifiers of Python versions

A package declares what it supports by classifiers.  Those about versions of Python have a
grammar of their own: a fixed beginning, the major version `2` or `3`, any number of further
numbers behind dots, perhaps a mark that no other major version is supported, and blanks up to
the end.  `Declared.ofText?` reads a classifier by that grammar; other classifiers say nothing
about versions.
-/

namespace NameSieve

inductive Major where
  | two
  | three
deriving DecidableEq

/-- What a classifier declares: a major version, and whether it is the only one. -/
structure Declared where
  major : Major
  /-- Are all other major versions excluded? -/
  only : Bool
deriving DecidableEq

namespace Declared

/-- The beginning of every classifier about versions. -/
def opening : List Char :=
  "Programming Language :: Python :: ".toList

/-- The mark that excludes other versions. -/
def onlyMark : List Char :=
  " :: Only".toList

/-- The text behind a beginning, if the text has it. -/
def after? : List Char → List Char → Option (List Char)
  | [], text => some text
  | _ :: _, [] => none
  | c :: start, d :: text => if c = d then after? start text else none

/-- Reads the end of a classifier: perhaps the mark, then blanks alone.  The answer says whether
the mark stood there. -/
def ending? (text : List Char) : Option Bool :=
  match after? onlyMark text with
  | some rest => if rest.all Text.isBlank then some true else none
  | none => if text.all Text.isBlank then some false else none

/-- Reads further numbers, each a dot with at least one digit behind it, and then the end.  More
digits may follow inside a number only. -/
def numbers? (inNumber : Bool) : List Char → Option Bool
  | '.' :: d :: rest => if Text.isDigit d then numbers? true rest else none
  | c :: rest =>
      if inNumber && Text.isDigit c then numbers? true rest else ending? (c :: rest)
  | [] => ending? []

/-- Reads a classifier from its major version on. -/
def major? : List Char → Option Declared
  | '2' :: rest => (numbers? false rest).map fun only => ⟨.two, only⟩
  | '3' :: rest => (numbers? false rest).map fun only => ⟨.three, only⟩
  | _ => none

/-- What a classifier declares about versions, if anything. -/
def ofText? (classifier : String) : Option Declared :=
  (after? opening classifier.toList).bind major?

end Declared

end NameSieve
