import NameSieve.Script.Syntax
import NameSieve.Script.Token

/-!
# Parsers over tokens

A `Parser` takes a value off the front of a list of tokens, or fails.  This file holds the
parsers for single tokens and for repetition.

The grammar is recursive: a list holds expressions, a block holds statements.  A production
refers to a phrase that may hold it again only through `Below`, the parsers of one level less;
`NameSieve.Script.Grammar.Module` ties the knot.
-/

namespace NameSieve.Script

/-- A parser: it fails, or finds a value and the tokens behind it. -/
abbrev Parser (α : Type) : Type :=
  StateT (List Token) Option α

namespace Parser

/-! ## Single tokens -/

/-- The next token, which is left in place. -/
def peek : Parser (Option Token) :=
  fun tokens => some (tokens.head?, tokens)

/-- The token after the next, which is left in place. -/
def peekSecond : Parser (Option Token) :=
  fun tokens => some (tokens.tail.head?, tokens)

def skip : Parser Unit :=
  fun tokens => some ((), tokens.tail)

/-- Drops the next token if it is this one, and says whether it was. -/
def accept (token : Token) : Parser Bool :=
  fun tokens =>
    match tokens with
    | next :: rest => if next = token then some (true, rest) else some (false, tokens)
    | [] => some (false, [])

/-- Drops the next token, which must be this one. -/
def expect (token : Token) : Parser Unit := do
  if ← accept token then pure () else failure

def acceptSymbol (text : String) : Parser Bool :=
  accept (.symbol text)

def symbol (text : String) : Parser Unit :=
  expect (.symbol text)

def acceptWord (word : String) : Parser Bool :=
  accept (.keyword word)

def word (text : String) : Parser Unit :=
  expect (.keyword text)

def nextIsSymbol (text : String) : Parser Bool := do
  return (← peek) == some (.symbol text)

def nextIsWord (text : String) : Parser Bool := do
  return (← peek) == some (.keyword text)

def identifier : Parser String := do
  match ← peek with
  | some (.name text) => skip; pure text
  | _ => failure

def nextStarts (starts : Token → Bool) : Parser Bool := do
  return ((← peek).map starts).getD false

/-! ## Repetition -/

/-- Takes steps from a value on until one finds nothing more. -/
def iterate {α : Type} (step : α → Parser (Option α)) : Nat → α → Parser α
  | 0, _ => failure
  | limit + 1, value => do
      match ← step value with
      | some next => iterate step limit next
      | none => pure value

/-- The values that a parser finds before it finds none. -/
def many {α : Type} (limit : Nat) (item : Parser (Option α)) : Parser (List α) := do
  let step (found : List α) : Parser (Option (List α)) := do
    match ← item with
    | some value => pure (some (value :: found))
    | none => pure none
  let found ← iterate step limit []
  pure found.reverse

/-- Items behind commas, after those that are found already; a comma that no item follows ends
the list.  The answer says whether the list ends with a comma. -/
def moreItems {α : Type} (limit : Nat) (starts : Token → Bool) (item : Parser α)
    (first : List α) : Parser (List α × Bool) := do
  let step (state : List α × Bool) : Parser (Option (List α × Bool)) := do
    if state.2 then pure none
    else if ← acceptSymbol "," then
      if ← nextStarts starts then pure (some ((← item) :: state.1, false))
      else pure (some (state.1, true))
    else pure none
  let (found, trailing) ← iterate step limit (first.reverse, false)
  pure (found.reverse, trailing)

/-- One item or more between commas; a comma may end the list.  The answer says whether it
does. -/
def items {α : Type} (limit : Nat) (starts : Token → Bool) (item : Parser α) :
    Parser (List α × Bool) := do
  moreItems limit starts item [← item]

/-- One item or more between commas, the last of which has no comma behind it. -/
def strictItems {α : Type} (limit : Nat) (item : Parser α) : Parser (List α) := do
  let (found, trailing) ← items limit (fun _ => true) item
  if trailing then failure else pure found

/-- What a parser finds behind a symbol, if that symbol is next. -/
def afterSymbol {α : Type} (text : String) (item : Parser α) : Parser (Option α) := do
  if ← acceptSymbol text then some <$> item else pure none

/-- What a parser finds behind a word, if that word is next. -/
def afterWord {α : Type} (text : String) (item : Parser α) : Parser (Option α) := do
  if ← acceptWord text then some <$> item else pure none

end Parser

/-! ## Recursive phrases -/

/-- The phrases that may hold a phrase of their own kind. -/
inductive Phrase where
  /-- An expression that may be a conditional or a nameless function. -/
  | test
  /-- An operand of `and`. -/
  | inversion
  /-- An operand of a comparison. -/
  | operand
  /-- An operand of a product. -/
  | factor
  | pattern
  /-- One logical line of small statements, or one compound statement. -/
  | statement

def Phrase.Tree : Phrase → Type
  | test => Expr
  | inversion => Expr
  | operand => Expr
  | factor => Expr
  | pattern => Pattern
  | statement => List Stmt

/-- The parsers of the level below, and a bound for the length of repetitions. -/
structure Below where
  /-- No repetition is longer. -/
  limit : Nat
  parse : (phrase : Phrase) → Parser phrase.Tree

namespace Below

def test (below : Below) : Parser Expr :=
  below.parse .test

def operand (below : Below) : Parser Expr :=
  below.parse .operand

def pattern (below : Below) : Parser Pattern :=
  below.parse .pattern

end Below

/-! ## What a phrase may begin with -/

def startsTest : Token → Bool
  | .name _ => true
  | .number _ => true
  | .string _ => true
  | .keyword word => ["None", "True", "False", "lambda", "not", "await"].contains word
  | .symbol text => ["(", "[", "\x7b", "-", "+", "~", "..."].contains text
  | _ => false

def startsItem (token : Token) : Bool :=
  startsTest token || token == .symbol "*"

end NameSieve.Script
