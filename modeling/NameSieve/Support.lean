import NameSieve.Classifier

/-!
# The versions that a package supports

`Support.ofClassifiers` puts the declarations of a package's classifiers together.  A classifier
that allows version 3 only decides at once; one that allows version 2 only comes next; otherwise
the versions that are declared count.
-/

namespace NameSieve

inductive Support where
  | python2
  | python3
  | python2And3
  | undefined
deriving DecidableEq

namespace Support

def label : Support → String
  | python2 => "PYTHON2"
  | python3 => "PYTHON3"
  | python2And3 => "PYTHON2_AND3"
  | undefined => "UNDEFINED"

/-- The name of a support in diagnostics. -/
def name : Support → String
  | python2 => "Python2"
  | python3 => "Python3"
  | python2And3 => "Python2And3"
  | undefined => "Undefined"

/-- What is declared so far, while no classifier has excluded all but version 3. -/
structure Evidence where
  /-- Version 2 has been declared, among others. -/
  two : Bool
  /-- Version 3 has been declared, among others. -/
  three : Bool
  /-- Version 2 has been declared as the only one. -/
  onlyTwo : Bool
deriving DecidableEq

/-- Nothing is declared yet. -/
def Evidence.none : Evidence :=
  ⟨false, false, false⟩

/-- The support that follows when no classifier is left. -/
def Evidence.support (evidence : Evidence) : Support :=
  if evidence.onlyTwo then python2
  else
    match evidence.two, evidence.three with
    | true, true => python2And3
    | true, false => python2
    | false, true => python3
    | false, false => undefined

/-- The support that follows from what is declared so far and from the classifiers left. -/
def conclude (evidence : Evidence) : List String → Support
  | [] => evidence.support
  | classifier :: rest =>
      match Declared.ofText? classifier with
      | some ⟨.three, true⟩ => python3
      | some ⟨.three, false⟩ => conclude { evidence with three := true } rest
      | some ⟨.two, true⟩ => conclude { evidence with onlyTwo := true } rest
      | some ⟨.two, false⟩ => conclude { evidence with two := true } rest
      | .none => conclude evidence rest

/-- The support that the classifiers of a package declare. -/
def ofClassifiers (classifiers : List String) : Support :=
  conclude .none classifiers

end Support

end NameSieve
