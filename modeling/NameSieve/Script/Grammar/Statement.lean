import NameSieve.Script.Grammar.Pattern

/-!
# The grammar of statements

Small statements share a line between semicolons; compound statements hold blocks.  A block is
the rest of its line, or an indented run of lines.
-/

namespace NameSieve.Script

open NameSieve.Script.Parser

/-! ## Small statements -/

/-- The operator that is combined with an assignment. -/
def augmentedOp? : String → Option BinaryOp
  | "+=" => some .add
  | "-=" => some .sub
  | "*=" => some .mul
  | "@=" => some .matMul
  | "/=" => some .div
  | "//=" => some .floorDiv
  | "%=" => some .mod
  | "**=" => some .pow
  | "<<=" => some .shiftLeft
  | ">>=" => some .shiftRight
  | "&=" => some .bitAnd
  | "|=" => some .bitOr
  | "^=" => some .bitXor
  | _ => none

/-- Reads targets and a value that were separated by equals signs. -/
def assignmentOf (first : Expr) : List Expr → Stmt
  | [] => .expr first
  | second :: rest =>
      let values := second :: rest
      .assign (first :: values.dropLast) (values.getLast?.getD second)

/-- The expression that an annotation may follow, if the list is one. -/
def annotatable? : List Expr × Bool → Option Expr
  | ([item], false) => if item.isStarred then none else some item
  | _ => none

def expressionStatement (below : Below) : Parser Stmt := do
  let found ← items below.limit startsItem (testOrStar below)
  let first := tupleOf found
  match ← peek with
  | some (.symbol ":") =>
      match annotatable? found with
      | some target =>
          skip
          let type ← below.test
          let value ← afterSymbol "=" (testListOrYield below)
          return .annAssign target type value
      | none => failure
  | some (.symbol text) =>
      match augmentedOp? text with
      | some op =>
          skip
          return .augAssign first op (← testListOrYield below)
      | none =>
          let values ← many below.limit (afterSymbol "=" (testListOrYield below))
          return assignmentOf first values
  | _ => return .expr first

def moduleName (below : Below) : Parser (List String) := do
  let first ← identifier
  let rest ← many below.limit (afterSymbol "." identifier)
  return first :: rest

def moduleAlias (below : Below) : Parser Alias := do
  let name ← moduleName below
  return ⟨name, ← afterWord "as" identifier⟩

def memberAlias : Parser Alias := do
  let name ← identifier
  return ⟨[name], ← afterWord "as" identifier⟩

/-- The dots of one token in front of a module's name, if there are any. -/
def importDots : Parser (Option Nat) := do
  if ← acceptSymbol "..." then return some 3
  else if ← acceptSymbol "." then return some 1
  else return none

def startsName : Token → Bool
  | .name _ => true
  | _ => false

/-- What is imported from a module; nothing stands for all. -/
def importedNames (below : Below) : Parser (List Alias) := do
  if ← acceptSymbol "*" then return []
  else if ← acceptSymbol "(" then
    let (names, _) ← items below.limit startsName memberAlias
    symbol ")"
    return names
  else strictItems below.limit memberAlias

def importFromAfter (below : Below) : Parser Stmt := do
  let dots ← many below.limit importDots
  let module ← if (← nextStarts startsName) then moduleName below else pure []
  if dots.isEmpty && module.isEmpty then failure
  word "import"
  return .importFrom (dots.foldl (· + ·) 0) module (← importedNames below)

def typeParameter (below : Below) : Parser TypeParameter := do
  if ← acceptSymbol "*" then return .tuple (← identifier)
  else if ← acceptSymbol "**" then return .parameters (← identifier)
  else
    let name ← identifier
    return .variable name (← afterSymbol ":" below.test)

def typeParameters (below : Below) : Parser (List TypeParameter) := do
  if ← acceptSymbol "[" then
    let (found, _) ← items below.limit startsParameter (typeParameter below)
    symbol "]"
    return found
  else return []

/-- A small statement that a word begins, once the word has been read. -/
def smallAfter (below : Below) : String → Parser Stmt
  | "pass" => return .pass
  | "break" => return .breakLoop
  | "continue" => return .continueLoop
  | "yield" => Stmt.expr <$> yieldAfter below
  | "return" => do
      if ← nextStarts startsItem then return .returnValue (some (← testList below))
      else return .returnValue none
  | "raise" => do
      match ← test? below with
      | some exception => return .raise (some exception) (← afterWord "from" below.test)
      | none => return .raise none none
  | "del" => do
      let (targets, _) ← items below.limit startsItem (operandOrStar below)
      return .delete targets
  | "global" => Stmt.globalNames <$> strictItems below.limit identifier
  | "nonlocal" => Stmt.nonlocalNames <$> strictItems below.limit identifier
  | "import" => Stmt.importModules <$> strictItems below.limit (moduleAlias below)
  | "from" => importFromAfter below
  | "assert" => do
      let condition ← below.test
      return .assert condition (← afterSymbol "," below.test)
  | "type" => do
      let name ← identifier
      let parameters ← typeParameters below
      symbol "="
      return .typeAlias name parameters (← below.test)
  | _ => failure

def smallWords : List String := [
  "pass", "break", "continue", "yield", "return", "raise", "del", "global", "nonlocal", "import",
  "from", "assert", "type"]

def smallStatement (below : Below) : Parser Stmt := do
  match ← peek with
  | some (.keyword text) =>
      if smallWords.contains text then
        skip
        smallAfter below text
      else expressionStatement below
  | _ => expressionStatement below

def line (below : Below) : Parser (List Stmt) := do
  let first ← smallStatement below
  let next : Parser (Option Stmt) := do
    if ← acceptSymbol ";" then
      if (← peek) == some .newline then return none
      else return some (← smallStatement below)
    else return none
  let rest ← many below.limit next
  expect .newline
  return first :: rest

/-! ## Blocks -/

/-- The statements of a block up to its end, which is dropped. -/
def blockLines (below : Below) : Parser (List Stmt) := do
  let next : Parser (Option (List Stmt)) := do
    if ← accept .dedent then return none else some <$> below.parse .statement
  let found ← many below.limit next
  if found.isEmpty then failure else return found.flatten

def block (below : Below) : Parser (List Stmt) := do
  symbol ":"
  if ← accept .newline then
    expect .indent
    blockLines below
  else line below

/-- The block behind a word, if the word is next; otherwise no statements. -/
def blockAfterWord (below : Below) (text : String) : Parser (List Stmt) := do
  return (← afterWord text (block below)).getD []

/-! ## Compound statements -/

def branch (below : Below) : Parser (Expr × List Stmt) := do
  let condition ← namedTest below
  return (condition, ← block below)

/-- A chain of conditions, each nested in the second branch of the one before. -/
def ifElseChain (orelse : List Stmt) : Expr × List Stmt → List (Expr × List Stmt) → Stmt
  | (condition, body), [] => .ifElse condition body orelse
  | (condition, body), next :: rest => .ifElse condition body [ifElseChain orelse next rest]

def ifAfter (below : Below) : Parser Stmt := do
  let first ← branch below
  let rest ← many below.limit (afterWord "elif" (branch below))
  let orelse ← blockAfterWord below "else"
  return ifElseChain orelse first rest

def whileAfter (below : Below) : Parser Stmt := do
  let (condition, body) ← branch below
  return .whileLoop condition body (← blockAfterWord below "else")

def forAfter (below : Below) (isAsync : Bool) : Parser Stmt := do
  let target ← tupleOf <$> items below.limit startsItem (operandOrStar below)
  word "in"
  let source ← testList below
  let body ← block below
  return .forLoop isAsync target source body (← blockAfterWord below "else")

/-- A handler, if one is next; of groups only where asked for. -/
def handler (below : Below) (groups : Bool) : Parser (Option Handler) := do
  if ← acceptWord "except" then
    if groups then symbol "*"
    let kind ← if groups then some <$> below.test else test? below
    let name ← if kind.isSome then afterWord "as" identifier else pure none
    return some (.mk kind name (← block below))
  else return none

def tryAfter (below : Below) : Parser Stmt := do
  let body ← block below
  let groups ← do
    if ← nextIsWord "except" then pure ((← peekSecond) == some (.symbol "*")) else pure false
  let handlers ← many below.limit (handler below groups)
  let orelse ← if handlers.isEmpty then pure [] else blockAfterWord below "else"
  let hasFinal ← nextIsWord "finally"
  if handlers.isEmpty && !hasFinal then failure
  return .tryBlock groups body handlers orelse (← blockAfterWord below "finally")

def contextItem (below : Below) : Parser (Expr × Option Expr) := do
  let context ← below.test
  return (context, ← afterWord "as" below.operand)

/-- Contexts without brackets around them, up to the colon. -/
def bareContexts (below : Below) : Parser (List (Expr × Option Expr)) := do
  let found ← strictItems below.limit (contextItem below)
  if ← nextIsSymbol ":" then return found else failure

/-- Contexts in brackets, up to the colon. -/
def bracketedContexts (below : Below) : Parser (List (Expr × Option Expr)) := do
  symbol "("
  let (found, _) ← items below.limit startsTest (contextItem below)
  symbol ")"
  if ← nextIsSymbol ":" then return found else failure

/-- A block inside contexts, after its first word.  Brackets belong to the expressions where they
can. -/
def withAfter (below : Below) (isAsync : Bool) : Parser Stmt := do
  let contexts ← bareContexts below <|> bracketedContexts below
  return .withBlock isAsync contexts (← block below)

def matchCase (below : Below) : Parser (Option MatchCase) := do
  if ← acceptWord "case" then
    let found ← openPattern below
    let guard ← afterWord "if" (namedTest below)
    return some (.mk found guard (← block below))
  else return none

def matchAfter (below : Below) : Parser Stmt := do
  let subject ← tupleOf <$> items below.limit startsItem (namedTestOrStar below)
  symbol ":"
  expect .newline
  expect .indent
  let cases ← many below.limit (matchCase below)
  expect .dedent
  if cases.isEmpty then failure else return .matchCases subject cases

def decorator (below : Below) : Parser (Option Expr) := do
  if ← acceptSymbol "@" then
    let value ← namedTest below
    expect .newline
    return some value
  else return none

def defAfter (below : Below) (decorators : List Expr) (isAsync : Bool) : Parser Stmt := do
  let name ← identifier
  let types ← typeParameters below
  symbol "("
  let found ← parameters below true
  symbol ")"
  let returns ← afterSymbol "->" below.test
  return .functionDef isAsync decorators name types found returns (← block below)

def classAfter (below : Below) (decorators : List Expr) : Parser Stmt := do
  let name ← identifier
  let types ← typeParameters below
  let (bases, keywords) ← if ← acceptSymbol "(" then arguments below else pure ([], [])
  return .classDef decorators name types bases keywords (← block below)

def decorated (below : Below) : Parser Stmt := do
  let decorators ← many below.limit (decorator below)
  if ← acceptWord "class" then classAfter below decorators
  else
    let isAsync ← acceptWord "async"
    word "def"
    defAfter below decorators isAsync

/-- A compound statement that a word begins, once the word has been read. -/
def compoundAfter (below : Below) : String → Parser Stmt
  | "if" => ifAfter below
  | "while" => whileAfter below
  | "for" => forAfter below false
  | "try" => tryAfter below
  | "with" => withAfter below false
  | "match" => matchAfter below
  | "def" => defAfter below [] false
  | "class" => classAfter below []
  | "async" => do
      if ← acceptWord "for" then forAfter below true
      else if ← acceptWord "with" then withAfter below true
      else
        word "def"
        defAfter below [] true
  | _ => failure

def compoundWords : List String :=
  ["if", "while", "for", "try", "with", "match", "def", "class", "async"]

def statement (below : Below) : Parser (List Stmt) := do
  match ← peek with
  | some (.symbol "@") => return [← decorated below]
  | some (.keyword text) =>
      if compoundWords.contains text then
        skip
        return [← compoundAfter below text]
      else line below
  | _ => line below

end NameSieve.Script
