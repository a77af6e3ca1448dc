/-!
# Syntax trees of setup scripts

A setup script is a Python module.  This file holds its syntax: `Expr` for expressions,
`Pattern` for the patterns of a `match`, `Stmt` for statements, and a module as a list of
statements.  Numbers are kept as they are written and byte strings as their code points, since no
rule of this library computes with them.
-/

namespace NameSieve.Script

/-! ## Operators -/

/-- Operators between two operands that share a level of precedence with their like. -/
inductive BinaryOp where
  | add | sub | mul | matMul | div | floorDiv | mod | pow
  | shiftLeft | shiftRight | bitAnd | bitOr | bitXor
deriving DecidableEq

inductive UnaryOp where
  | plus | minus | invert | not
deriving DecidableEq

inductive BoolOp where
  | and | or
deriving DecidableEq

inductive CompareOp where
  | eq | notEq | less | lessEq | greater | greaterEq | within | notWithin | same | notSame
deriving DecidableEq

/-! ## Expressions -/

/-- The value of an atom that names nothing. -/
inductive Constant where
  | none
  | bool (value : Bool)
  /-- A string, with its escapes resolved and adjacent literals joined. -/
  | text (value : String)
  /-- A byte string, as code points. -/
  | bytes (codes : List Nat)
  /-- A number, as it is written. -/
  | number (digits : String)
  | ellipsis
deriving DecidableEq

/-- The four forms that a comprehension's brackets give it. -/
inductive ComprehensionKind where
  | list | set | generator
deriving DecidableEq

mutual

inductive Expr where
  /-- A name. -/
  | name (id : String)
  | constant (value : Constant)
  /-- A formatted string: texts and replacement fields in turn. -/
  | formatted (parts : List Expr)
  /-- A replacement field of a formatted string; an absent format is empty. -/
  | replacement (value : Expr) (conversion : Option Char) (format : List Expr)
  | named (target : String) (value : Expr)
  | boolean (op : BoolOp) (operands : List Expr)
  | binary (left : Expr) (op : BinaryOp) (right : Expr)
  | unary (op : UnaryOp) (operand : Expr)
  | compare (first : Expr) (rest : List (CompareOp × Expr))
  /-- A nameless function. -/
  | lambda (parameters : List Parameter) (body : Expr)
  /-- One of two values by a condition. -/
  | conditional (body test orelse : Expr)
  /-- A dictionary; an entry without a key unpacks its value. -/
  | dict (entries : List (Option Expr × Expr))
  | set (items : List Expr)
  /-- A list, set or generator computed by clauses. -/
  | comprehension (kind : ComprehensionKind) (element : Expr) (clauses : List Clause)
  | dictComprehension (key value : Expr) (clauses : List Clause)
  | await (value : Expr)
  | yield (value : Option Expr)
  | yieldFrom (value : Expr)
  /-- A call; a keyword argument without a name unpacks its value. -/
  | call (function : Expr) (arguments : List Expr) (keywords : List (Option String × Expr))
  | attribute (value : Expr) (attr : String)
  | subscript (value index : Expr)
  /-- A slice, as an index. -/
  | slice (lower upper step : Option Expr)
  /-- An unpacked item. -/
  | starred (value : Expr)
  | list (items : List Expr)
  /-- A tuple. -/
  | tuple (items : List Expr)

/-- One `for` of a comprehension with the conditions that follow it. -/
inductive Clause where
  | mk (isAsync : Bool) (target source : Expr) (conditions : List Expr)

inductive Parameter where
  /-- The separator after the parameters that are positional only. -/
  | slash
  /-- The separator before the parameters that are keyword only. -/
  | star
  | plain (name : String) (hint default : Option Expr)
  /-- The parameter that takes the remaining positional arguments. -/
  | rest (name : String) (hint : Option Expr)
  /-- The parameter that takes the remaining keyword arguments; it may be left without a name. -/
  | keywords (name : Option String) (hint : Option Expr)

end

/-! ## Patterns -/

inductive Pattern where
  | value (expected : Expr)
  /-- A literal that is compared by identity. -/
  | singleton (expected : Constant)
  /-- A name that is bound, or the wildcard. -/
  | capture (name : String)
  /-- A name that takes the remaining items of a sequence. -/
  | star (name : String)
  | sequence (items : List Pattern)
  /-- Keys with patterns for their values, and a name for the remaining entries. -/
  | mapping (entries : List (Expr × Pattern)) (rest : Option String)
  | instanceOf (cls : Expr) (arguments : List Pattern) (keywords : List (String × Pattern))
  | oneOf (alternatives : List Pattern)
  /-- A pattern whose match is bound to a name. -/
  | bind (pattern : Pattern) (name : String)

/-! ## Statements -/

inductive TypeParameter where
  | variable (name : String) (bound : Option Expr)
  /-- A variable for a tuple of types. -/
  | tuple (name : String)
  /-- A variable for a list of parameters. -/
  | parameters (name : String)

/-- A name that is imported, and the name it is given. -/
structure Alias where
  /-- The imported name; of a module, its segments. -/
  name : List String
  /-- The name it is bound to, if it is renamed. -/
  rename : Option String
deriving DecidableEq

mutual

inductive Stmt where
  | expr (value : Expr)
  | assign (targets : List Expr) (value : Expr)
  /-- An assignment combined with an operator. -/
  | augAssign (target : Expr) (op : BinaryOp) (value : Expr)
  /-- A target with its type, and a value or none. -/
  | annAssign (target hint : Expr) (value : Option Expr)
  /-- A condition with two branches; a chain of conditions nests in the second. -/
  | ifElse (test : Expr) (body orelse : List Stmt)
  | functionDef (isAsync : Bool) (decorators : List Expr) (name : String)
      (typeParameters : List TypeParameter) (parameters : List Parameter)
      (returns : Option Expr) (body : List Stmt)
  | classDef (decorators : List Expr) (name : String) (typeParameters : List TypeParameter)
      (bases : List Expr) (keywords : List (Option String × Expr)) (body : List Stmt)
  | forLoop (isAsync : Bool) (target source : Expr) (body orelse : List Stmt)
  | whileLoop (test : Expr) (body orelse : List Stmt)
  /-- A block inside contexts, each with the target it is bound to. -/
  | withBlock (isAsync : Bool) (items : List (Expr × Option Expr)) (body : List Stmt)
  | matchCases (subject : Expr) (cases : List MatchCase)
  /-- A block with handlers for exceptions, or for groups of them. -/
  | tryBlock (groups : Bool) (body : List Stmt) (handlers : List Handler)
      (orelse final : List Stmt)
  | returnValue (value : Option Expr)
  | delete (targets : List Expr)
  | typeAlias (name : String) (typeParameters : List TypeParameter) (value : Expr)
  | raise (exception cause : Option Expr)
  | assert (test : Expr) (message : Option Expr)
  | importModules (modules : List Alias)
  /-- Names that are imported from a module so many levels up; no names stand for all. -/
  | importFrom (level : Nat) (module : List String) (names : List Alias)
  | globalNames (names : List String)
  | nonlocalNames (names : List String)
  | pass
  | breakLoop
  | continueLoop

inductive MatchCase where
  | mk (pattern : Pattern) (guard : Option Expr) (body : List Stmt)

inductive Handler where
  | mk (kind : Option Expr) (name : Option String) (body : List Stmt)

end

end NameSieve.Script
