import NameSieve.Script.Grammar.Parser
import NameSieve.Script.Formatted

/-!
# The grammar of expressions

Each level of precedence is a parser over the one before it: atoms with what trails them, powers,
signs, products, sums, shifts, the three bit operators, comparisons, `not`, `and`, `or`, and last
the conditional and the nameless function.  Checks are those of the syntax alone: any expression
may be a target.
-/

namespace NameSieve.Script

open NameSieve.Script.Parser

/-! ## Items -/

/-- The only item of a list without a comma behind it is itself; other lists are tuples. -/
def tupleOf : List Expr × Bool → Expr
  | ([item], false) => item
  | (items, _) => .tuple items

/-- An expression, or an assignment inside one. -/
def namedTest (below : Below) : Parser Expr := do
  match ← peek, ← peekSecond with
  | some (.name target), some (.symbol ":=") =>
      skip
      skip
      return .named target (← below.test)
  | _, _ => below.test

/-- An unpacked item whose star has been read. -/
def unpacked (below : Below) : Parser Expr :=
  Expr.starred <$> below.operand

def testOrStar (below : Below) : Parser Expr := do
  if ← acceptSymbol "*" then unpacked below else below.test

def namedTestOrStar (below : Below) : Parser Expr := do
  if ← acceptSymbol "*" then unpacked below else namedTest below

def testList (below : Below) : Parser Expr :=
  tupleOf <$> items below.limit startsItem (testOrStar below)

def operandOrStar (below : Below) : Parser Expr := do
  if ← acceptSymbol "*" then unpacked below else below.operand

/-- What a `yield` hands out, once the word has been read. -/
def yieldAfter (below : Below) : Parser Expr := do
  if ← acceptWord "from" then return .yieldFrom (← below.test)
  else if ← nextStarts startsItem then return .yield (some (← testList below))
  else return .yield none

def testListOrYield (below : Below) : Parser Expr := do
  if ← acceptWord "yield" then yieldAfter below else testList below

/-! ## Levels of operators -/

/-- Operands joined from the left by operators of one level. -/
def leftChain (limit : Nat) (op? : String → Option BinaryOp) (operand : Parser Expr) :
    Parser Expr := do
  let step (left : Expr) : Parser (Option Expr) := do
    match ← peek with
    | some (.symbol text) =>
        match op? text with
        | some op =>
            skip
            return some (.binary left op (← operand))
        | none => return none
    | _ => return none
  iterate step limit (← operand)

/-- Operands joined by one connective. -/
def connected (limit : Nat) (op : BoolOp) (text : String) (operand : Parser Expr) :
    Parser Expr := do
  let first ← operand
  match ← many limit (afterWord text operand) with
  | [] => return first
  | rest => return .boolean op (first :: rest)

def productOp? : String → Option BinaryOp
  | "*" => some .mul
  | "/" => some .div
  | "//" => some .floorDiv
  | "%" => some .mod
  | "@" => some .matMul
  | _ => none

def sumOp? : String → Option BinaryOp
  | "+" => some .add
  | "-" => some .sub
  | _ => none

def shiftOp? : String → Option BinaryOp
  | "<<" => some .shiftLeft
  | ">>" => some .shiftRight
  | _ => none

def bitAndOp? : String → Option BinaryOp
  | "&" => some .bitAnd
  | _ => none

def bitXorOp? : String → Option BinaryOp
  | "^" => some .bitXor
  | _ => none

def bitOrOp? : String → Option BinaryOp
  | "|" => some .bitOr
  | _ => none

def signOp? : String → Option UnaryOp
  | "+" => some .plus
  | "-" => some .minus
  | "~" => some .invert
  | _ => none

def compareOp? : String → Option CompareOp
  | "==" => some .eq
  | "!=" => some .notEq
  | "<" => some .less
  | "<=" => some .lessEq
  | ">" => some .greater
  | ">=" => some .greaterEq
  | _ => none

def comparison : Parser (Option CompareOp) := do
  match ← peek with
  | some (.symbol text) =>
      match compareOp? text with
      | some op => skip; return some op
      | none => return none
  | some (.keyword "in") => skip; return some .within
  | some (.keyword "is") =>
      skip
      return some (if ← acceptWord "not" then .notSame else .same)
  | some (.keyword "not") =>
      skip
      word "in"
      return some .notWithin
  | _ => return none

/-! ## Comprehensions -/

/-- One expression in which a comprehension takes its values: no conditional without brackets. -/
def disjunctionOf (below : Below) : Parser Expr :=
  connected below.limit .or "or" (connected below.limit .and "and" (below.parse .inversion))

def clause (below : Below) : Parser (Option Clause) := do
  let isAsync ← acceptWord "async"
  if ← acceptWord "for" then
    let target ← tupleOf <$> items below.limit startsItem (operandOrStar below)
    word "in"
    let source ← disjunctionOf below
    let conditions ← many below.limit (afterWord "if" (disjunctionOf below))
    return some (.mk isAsync target source conditions)
  else if isAsync then failure
  else return none

/-- The clauses of a comprehension; none if there is no comprehension. -/
def clauses (below : Below) : Parser (List Clause) :=
  many below.limit (clause below)

/-! ## Arguments -/

inductive Argument where
  /-- A value by its position. -/
  | positional (value : Expr)
  | keyword (name : String) (value : Expr)
  /-- Values unpacked by name. -/
  | unpackedKeywords (value : Expr)

def startsArgument (token : Token) : Bool :=
  startsItem token || token == .symbol "**"

/-- An argument; a generator among others needs no brackets. -/
def argument (below : Below) : Parser Argument := do
  if ← acceptSymbol "*" then return .positional (.starred (← below.test))
  else if ← acceptSymbol "**" then return .unpackedKeywords (← below.test)
  else
    match ← peek, ← peekSecond with
    | some (.name name), some (.symbol "=") =>
        skip
        skip
        return .keyword name (← below.test)
    | _, _ =>
        let value ← namedTest below
        match ← clauses below with
        | [] => return .positional value
        | found => return .positional (.comprehension .generator value found)

/-- The arguments of a call by position and by name, so far. -/
structure Arguments where
  /-- The values by position, last first. -/
  positional : List Expr := []
  /-- The values by name, last first; those without a name are unpacked. -/
  keywords : List (Option String × Expr) := []

def Expr.isStarred : Expr → Bool
  | .starred _ => true
  | _ => false

/-- Adds an argument.  A name is not given twice; behind a name, a value by position must be
unpacked; and behind unpacked names there is none. -/
def Arguments.add? (found : Arguments) : Argument → Option Arguments
  | .positional value =>
      if !found.keywords.isEmpty && !value.isStarred then none
      else if found.keywords.any fun entry => entry.1.isNone then none
      else some { found with positional := value :: found.positional }
  | .keyword name value =>
      if found.keywords.any fun entry => entry.1 == some name then none
      else some { found with keywords := (some name, value) :: found.keywords }
  | .unpackedKeywords value =>
      some { found with keywords := (none, value) :: found.keywords }

/-- The arguments of a call after the opening bracket, through the closing one. -/
def arguments (below : Below) : Parser (List Expr × List (Option String × Expr)) := do
  if ← acceptSymbol ")" then return ([], [])
  let (found, _) ← items below.limit startsArgument (argument below)
  symbol ")"
  let sorted ← StateT.lift (found.foldlM Arguments.add? {})
  return (sorted.positional.reverse, sorted.keywords.reverse)

/-! ## Indices -/

def startsIndex (token : Token) : Bool :=
  startsItem token || token == .symbol ":"

def test? (below : Below) : Parser (Option Expr) := do
  if ← nextStarts startsTest then some <$> below.test else return none

/-- The rest of a slice, from its first colon on. -/
def sliceFrom (below : Below) (lower : Option Expr) : Parser Expr := do
  symbol ":"
  let upper ← test? below
  let step ← if ← acceptSymbol ":" then test? below else pure none
  return .slice lower upper step

def Expr.isNamed : Expr → Bool
  | .named _ _ => true
  | _ => false

def index (below : Below) : Parser Expr := do
  if ← nextIsSymbol ":" then sliceFrom below none
  else if ← acceptSymbol "*" then unpacked below
  else
    let isNamed := (← peekSecond) == some (.symbol ":=")
    let value ← namedTest below
    if (← nextIsSymbol ":") && !isNamed then sliceFrom below (some value) else return value

/-- The indices after the opening bracket, through the closing one. -/
def indices (below : Below) : Parser Expr := do
  let found ← items below.limit startsIndex (index below)
  symbol "]"
  return tupleOf found

/-! ## Parameters -/

def startsParameter : Token → Bool
  | .name _ => true
  | .symbol text => ["*", "**", "/"].contains text
  | _ => false

/-- The type hint of a parameter, if hints are allowed and one is next. -/
def typeHint (isTyped : Bool) (type : Parser Expr) : Parser (Option Expr) := do
  if isTyped then afterSymbol ":" type else return none

def parameter (below : Below) (isTyped : Bool) : Parser Parameter := do
  if ← acceptSymbol "/" then return .slash
  else if ← acceptSymbol "**" then
    match ← peek with
    | some (.name name) =>
        skip
        return .keywords (some name) (← typeHint isTyped below.test)
    | _ => return .keywords none none
  else if ← acceptSymbol "*" then
    match ← peek with
    | some (.name name) =>
        skip
        return .rest name (← typeHint isTyped (testOrStar below))
    | _ => return .star
  else
    let name ← identifier
    let type ← typeHint isTyped below.test
    let default ← afterSymbol "=" below.test
    return .plain name type default

/-- What may still follow in a list of parameters. -/
inductive ParameterZone where
  /-- Anything. -/
  | start
  /-- Anything but a second slash. -/
  | afterSlash
  /-- Parameters by name, or the one for the remaining keywords. -/
  | byName
  /-- Nothing. -/
  | finished

/-- What is known of a list of parameters up to some place. -/
structure ParameterCheck where
  zone : ParameterZone := .start
  /-- Has there been a parameter that may be given by position? -/
  hasPositional : Bool := false
  /-- Has one of them had a default? -/
  hasDefault : Bool := false
  /-- Is a name still owed to a star that stands alone? -/
  owesName : Bool := false
  names : List String := []

/-- Adds a name that must be new. -/
def ParameterCheck.addName? (check : ParameterCheck) (name : String) : Option ParameterCheck :=
  if check.names.contains name then none else some { check with names := name :: check.names }

/-- Goes on past a parameter, in the order that the syntax asks for: a slash stands behind
parameters and before any star, there is one star, and nothing follows two stars.  By position,
a parameter without a default does not follow one with a default. -/
def ParameterCheck.add? (check : ParameterCheck) (next : Parameter) : Option ParameterCheck :=
  match check.zone, next with
  | .start, .slash => if check.hasPositional then some { check with zone := .afterSlash } else none
  | .start, .plain name _ default => positional name default
  | .afterSlash, .plain name _ default => positional name default
  | .start, .star => some { check with zone := .byName, owesName := true }
  | .afterSlash, .star => some { check with zone := .byName, owesName := true }
  | .start, .rest name _ => { check with zone := .byName }.addName? name
  | .afterSlash, .rest name _ => { check with zone := .byName }.addName? name
  | .byName, .plain name _ _ => { check with owesName := false }.addName? name
  | .finished, _ => none
  | _, .keywords name _ =>
      let check := { check with zone := .finished, owesName := false }
      match name with
      | some name => check.addName? name
      | none => some check
  | _, _ => none
where
  /-- Adds a parameter that may be given by position. -/
  positional (name : String) (default : Option Expr) : Option ParameterCheck :=
    if check.hasDefault && default.isNone then none
    else
      { check with hasPositional := true, hasDefault := default.isSome }.addName? name

/-- Parameters up to a closing token, which is left in place. -/
def parameters (below : Below) (isTyped : Bool) : Parser (List Parameter) := do
  if ← nextStarts startsParameter then
    let (found, _) ← items below.limit startsParameter (parameter below isTyped)
    let check ← StateT.lift (found.foldlM ParameterCheck.add? {})
    if check.owesName then failure else return found
  else return []

/-! ## Strings -/

def string? : Parser (Option RawString) := do
  match ← peek with
  | some (.string raw) => skip; return some raw
  | _ => return none

/-- The expression between the braces of a formatted string: it is read as if it stood in
brackets. -/
def fieldExpression? (below : Below) (text : List Char) : Option Expr := do
  let tokens ← tokens? ('(' :: text ++ [')'])
  match ← (below.test).run tokens with
  | (value, rest) => if rest.all (· == .newline) then some value else none

def stringParts (below : Below) (raw : RawString) : Option (List Expr) :=
  match raw.kind with
  | .formatted => formattedParts (fieldExpression? below) raw.isRaw raw.body
  | .text => do
      let value ← unescape false raw.isRaw raw.body
      some [.constant (.text (String.ofList value))]
  | .bytes => do
      let value ← unescape true raw.isRaw raw.body
      some [.constant (.bytes (value.map Char.toNat))]

def partText : Expr → String
  | .constant (.text value) => value
  | _ => ""

def partBytes : Expr → List Nat
  | .constant (.bytes codes) => codes
  | _ => []

/-- Adjacent strings joined.  Bytes are not joined with text, and one formatted string makes all
of them formatted. -/
def joinStrings (below : Below) (raws : List RawString) : Option Expr := do
  let parts ← raws.mapM (stringParts below)
  let parts := parts.flatten
  if raws.all fun raw => raw.kind == .bytes then
    some (.constant (.bytes (parts.flatMap partBytes)))
  else if raws.any fun raw => raw.kind == .bytes then none
  else if raws.any fun raw => raw.kind == .formatted then some (.formatted parts)
  else some (.constant (.text (String.join (parts.map partText))))

def strings (below : Below) : Parser Expr := do
  let raws ← many below.limit string?
  if raws.isEmpty then failure else StateT.lift (joinStrings below raws)

/-! ## Atoms -/

def inRoundBrackets (below : Below) : Parser Expr := do
  if ← acceptSymbol ")" then return .tuple []
  else if ← acceptWord "yield" then
    let value ← yieldAfter below
    symbol ")"
    return value
  else
    let isStarred ← nextIsSymbol "*"
    let first ← namedTestOrStar below
    if isStarred && (← nextIsSymbol ")") then failure
    let found ← if isStarred then pure [] else clauses below
    if found.isEmpty then
      let value ← moreItems below.limit startsItem (namedTestOrStar below) [first]
      symbol ")"
      return tupleOf value
    else
      symbol ")"
      return .comprehension .generator first found

def inSquareBrackets (below : Below) : Parser Expr := do
  if ← acceptSymbol "]" then return .list []
  else
    let first ← namedTestOrStar below
    let found ← clauses below
    if found.isEmpty then
      let (values, _) ← moreItems below.limit startsItem (namedTestOrStar below) [first]
      symbol "]"
      return .list values
    else
      symbol "]"
      return .comprehension .list first found

def startsEntry (token : Token) : Bool :=
  startsTest token || token == .symbol "**"

def dictEntry (below : Below) : Parser (Option Expr × Expr) := do
  if ← acceptSymbol "**" then return (none, ← below.operand)
  else
    let key ← below.test
    symbol ":"
    return (some key, ← below.test)

def restOfDict (below : Below) (first : Option Expr × Expr) : Parser Expr := do
  let (entries, _) ← moreItems below.limit startsEntry (dictEntry below) [first]
  symbol "\x7d"
  return .dict entries

def inBraces (below : Below) : Parser Expr := do
  if ← acceptSymbol "\x7d" then return .dict []
  else if ← nextIsSymbol "**" then restOfDict below (← dictEntry below)
  else
    let isStarred ← nextIsSymbol "*"
    let isNamed := (← peekSecond) == some (.symbol ":=")
    let first ← namedTestOrStar below
    if (← nextIsSymbol ":") && !isStarred && !isNamed then
      skip
      let value ← below.test
      match ← clauses below with
      | [] => restOfDict below (some first, value)
      | found =>
          symbol "\x7d"
          return .dictComprehension first value found
    else
      let found ← if isStarred then pure [] else clauses below
      if found.isEmpty then
        let (values, _) ← moreItems below.limit startsItem (namedTestOrStar below) [first]
        symbol "\x7d"
        return .set values
      else
        symbol "\x7d"
        return .comprehension .set first found

def wordConstant? : String → Option Constant
  | "None" => some .none
  | "True" => some (.bool true)
  | "False" => some (.bool false)
  | _ => none

/-- An atom: a name, a literal, or something in brackets. -/
def atom (below : Below) : Parser Expr := do
  match ← peek with
  | some (.name id) => skip; return .name id
  | some (.number digits) => skip; return .constant (.number digits)
  | some (.string _) => strings below
  | some (.keyword text) =>
      match wordConstant? text with
      | some value => skip; return .constant value
      | none => failure
  | some (.symbol "...") => skip; return .constant .ellipsis
  | some (.symbol "(") => skip; inRoundBrackets below
  | some (.symbol "[") => skip; inSquareBrackets below
  | some (.symbol "\x7b") => skip; inBraces below
  | _ => failure

/-- One call, index or attribute behind a value, if one is next. -/
def trailer (below : Below) (value : Expr) : Parser (Option Expr) := do
  if ← acceptSymbol "(" then
    let (positional, keywords) ← arguments below
    return some (.call value positional keywords)
  else if ← acceptSymbol "[" then return some (.subscript value (← indices below))
  else if ← acceptSymbol "." then return some (.attribute value (← identifier))
  else return none

/-- An atom with the calls, indices and attributes behind it. -/
def primary (below : Below) : Parser Expr := do
  iterate (trailer below) below.limit (← atom below)

/-! ## The levels -/

/-- A value that may be waited for. -/
def awaited (below : Below) : Parser Expr := do
  if ← acceptWord "await" then return .await (← primary below) else primary below

/-- A value that may be raised to a power. -/
def power (below : Below) : Parser Expr := do
  let base ← awaited below
  if ← acceptSymbol "**" then return .binary base .pow (← below.parse .factor) else return base

/-- A power that may have signs in front. -/
def factor (below : Below) : Parser Expr := do
  match ← peek with
  | some (.symbol text) =>
      match signOp? text with
      | some op =>
          skip
          return .unary op (← below.parse .factor)
      | none => power below
  | _ => power below

/-- An operand of a comparison: products, sums, shifts and the bit operators, each over the one
before it. -/
def operand (below : Below) : Parser Expr :=
  let chain := leftChain below.limit
  chain bitOrOp? (chain bitXorOp? (chain bitAndOp? (chain shiftOp? (chain sumOp?
    (chain productOp? (factor below))))))

def comparisons (below : Below) : Parser Expr := do
  let first ← operand below
  let next : Parser (Option (CompareOp × Expr)) := do
    match ← comparison with
    | some op => return some (op, ← operand below)
    | none => return none
  match ← many below.limit next with
  | [] => return first
  | rest => return .compare first rest

/-- Comparisons that may be denied. -/
def inversion (below : Below) : Parser Expr := do
  if ← acceptWord "not" then return .unary .not (← below.parse .inversion)
  else comparisons below

/-- Conditions joined by `and`, and those joined by `or`. -/
def disjunction (below : Below) : Parser Expr :=
  connected below.limit .or "or" (connected below.limit .and "and" (inversion below))

def lambdaAfter (below : Below) : Parser Expr := do
  let found ← parameters below false
  symbol ":"
  return .lambda found (← below.test)

def test (below : Below) : Parser Expr := do
  if ← acceptWord "lambda" then lambdaAfter below
  else
    let body ← disjunction below
    if ← acceptWord "if" then
      let condition ← disjunction below
      word "else"
      return .conditional body condition (← below.test)
    else return body

end NameSieve.Script
