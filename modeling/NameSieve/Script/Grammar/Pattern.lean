import NameSieve.Script.Grammar.Expression

/-!
# The grammar of patterns

A pattern is a list of alternatives that may be bound to a name.  An alternative is a literal, a
name, a dotted name, a class with patterns for its arguments, a sequence, or a mapping.
-/

namespace NameSieve.Script

open NameSieve.Script.Parser

def startsPattern : Token → Bool
  | .name _ => true
  | .number _ => true
  | .string _ => true
  | .keyword word => ["None", "True", "False"].contains word
  | .symbol text => ["(", "[", "\x7b", "-", "*"].contains text
  | _ => false

def numberAtom : Parser Expr := do
  match ← peek with
  | some (.number digits) => skip; return .constant (.number digits)
  | _ => failure

/-- A number that may have a minus sign, and a second number added or subtracted. -/
def numberValue : Parser Expr := do
  let first ←
    if ← acceptSymbol "-" then Expr.unary .minus <$> numberAtom else numberAtom
  if ← acceptSymbol "+" then return .binary first .add (← numberAtom)
  else if ← acceptSymbol "-" then return .binary first .sub (← numberAtom)
  else return first

/-- A name with at least so many attributes behind it. -/
def dottedValue (below : Below) : Parser Expr := do
  let first ← identifier
  let attributes ← many below.limit (afterSymbol "." identifier)
  return attributes.foldl .attribute (.name first)

def Expr.bareName? : Expr → Option String
  | .name id => some id
  | _ => none

def mappingKey (below : Below) : Parser Expr := do
  match ← peek with
  | some (.name _) =>
      let value ← dottedValue below
      if value.bareName?.isSome then failure else return value
  | some (.string _) => strings below
  | some (.keyword text) =>
      match wordConstant? text with
      | some value => skip; return .constant value
      | none => failure
  | _ => numberValue

def startsMappingEntry (token : Token) : Bool :=
  startsPattern token || token == .symbol "**"

/-- An entry of a mapping; the remaining entries go under two stars. -/
def mappingEntry (below : Below) : Parser (String ⊕ (Expr × Pattern)) := do
  if ← acceptSymbol "**" then return .inl (← identifier)
  else
    let key ← mappingKey below
    symbol ":"
    return .inr (key, ← below.pattern)

/-- The entries of a mapping in order; the remaining entries come last. -/
def mappingOf : List (String ⊕ (Expr × Pattern)) → Option (List (Expr × Pattern) × Option String)
  | [] => some ([], none)
  | [.inl rest] => some ([], some rest)
  | .inl _ :: _ => none
  | .inr entry :: more => (mappingOf more).map fun (entries, rest) => (entry :: entries, rest)

def mappingAfter (below : Below) : Parser Pattern := do
  if ← acceptSymbol "\x7d" then return .mapping [] none
  let (found, _) ← items below.limit startsMappingEntry (mappingEntry below)
  symbol "\x7d"
  let (entries, rest) ← StateT.lift (mappingOf found)
  return .mapping entries rest

def classArgument (below : Below) : Parser (Option String × Pattern) := do
  match ← peek, ← peekSecond with
  | some (.name name), some (.symbol "=") =>
      skip
      skip
      return (some name, ← below.pattern)
  | _, _ => return (none, ← below.pattern)

/-- The arguments of a class pattern by position, and those by name, which come last. -/
def classArgumentsOf :
    List (Option String × Pattern) → Option (List Pattern × List (String × Pattern))
  | [] => some ([], [])
  | (none, pattern) :: more =>
      (classArgumentsOf more).map fun (found, keywords) => (pattern :: found, keywords)
  | (some name, pattern) :: more =>
      match classArgumentsOf more with
      | some ([], keywords) => some ([], (name, pattern) :: keywords)
      | _ => none

def instanceAfter (below : Below) (cls : Expr) : Parser Pattern := do
  if ← acceptSymbol ")" then return .instanceOf cls [] []
  let (found, _) ← items below.limit startsPattern (classArgument below)
  symbol ")"
  let (positional, keywords) ← StateT.lift (classArgumentsOf found)
  return .instanceOf cls positional keywords

/-- The only pattern of a list without a comma behind it is itself; other lists are sequences. -/
def sequenceOf : List Pattern × Bool → Pattern
  | ([item], false) => item
  | (items, _) => .sequence items

def closedPattern (below : Below) : Parser Pattern := do
  match ← peek with
  | some (.name _) =>
      let value ← dottedValue below
      if ← acceptSymbol "(" then instanceAfter below value
      else
        match value.bareName? with
        | some name => return .capture name
        | none => return .value value
  | some (.string _) => Pattern.value <$> strings below
  | some (.keyword text) =>
      match wordConstant? text with
      | some value => skip; return .singleton value
      | none => failure
  | some (.symbol "*") => skip; return .star (← identifier)
  | some (.symbol "(") =>
      skip
      if ← acceptSymbol ")" then return .sequence []
      let found ← items below.limit startsPattern below.pattern
      symbol ")"
      return sequenceOf found
  | some (.symbol "[") =>
      skip
      if ← acceptSymbol "]" then return .sequence []
      let (found, _) ← items below.limit startsPattern below.pattern
      symbol "]"
      return .sequence found
  | some (.symbol "\x7b") => skip; mappingAfter below
  | _ => Pattern.value <$> numberValue

/-- Alternatives, perhaps bound to a name other than the wildcard. -/
def pattern (below : Below) : Parser Pattern := do
  let first ← closedPattern below
  let more ← many below.limit (afterSymbol "|" (closedPattern below))
  let found := if more.isEmpty then first else .oneOf (first :: more)
  if ← acceptWord "as" then
    let name ← identifier
    if name = "_" then failure else return .bind found name
  else return found

def openPattern (below : Below) : Parser Pattern :=
  sequenceOf <$> items below.limit startsPattern (pattern below)

end NameSieve.Script
