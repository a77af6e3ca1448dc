import NameSieve.Script.Grammar.Module

/-!
# The classifiers that a script declares

A setup script hands its classifiers to a call of `setup`, as a list or tuple under the keyword
`classifiers`.  `classifiersOf` collects them from a module: it looks at the statements that stand
at the top or under conditions, and at those only whose value is such a call.
-/

namespace NameSieve.Script

/-! ## One call -/

/-- Is the called expression the name `setup` or an attribute of that name? -/
def Expr.isSetup : Expr → Bool
  | .name id => id == "setup"
  | .attribute _ attr => attr == "setup"
  | _ => false

def Expr.items : Expr → List Expr
  | .list items => items
  | .tuple items => items
  | _ => []

def Expr.text? : Expr → Option String
  | .constant (.text value) => some value
  | _ => none

/-- The texts that a keyword argument contributes: the literals among the items of its value, if
it is the keyword for classifiers. -/
def keywordClassifiers : Option String × Expr → List String
  | (some name, value) => if name = "classifiers" then value.items.filterMap Expr.text? else []
  | (none, _) => []

/-- The classifiers that an expression declares, if it is a setup call. -/
def Expr.classifiers : Expr → List String
  | .call function _ keywords =>
      if function.isSetup then keywords.flatMap keywordClassifiers else []
  | _ => []

/-! ## Statements -/

mutual

/-- The classifiers that a statement declares: by its value, or under its condition, the first
branch before the second. -/
def Stmt.classifiers : Stmt → List String
  | .expr value => value.classifiers
  | .assign _ value => value.classifiers
  | .ifElse _ body orelse => classifiersOf body ++ classifiersOf orelse
  | _ => []

/-- The classifiers that statements declare, in their order. -/
def classifiersOf : List Stmt → List String
  | [] => []
  | statement :: rest => statement.classifiers ++ classifiersOf rest

end

/-- The classifiers of a script, or none if it is no module. -/
def classifiers? (source : String) : Option (List String) :=
  (parse? source).map classifiersOf

end NameSieve.Script
