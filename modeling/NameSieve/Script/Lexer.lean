import NameSieve.Script.Token
import NameSieve.Text.Identifier

/-!
# Reading tokens

`tokens?` reads the characters of a script as tokens, or finds them malformed.  Line ends of all
three kinds are read as line feeds, and a byte order mark in front is dropped.

* At the begin of a logical line `measure` finds its indentation, past lines that are blank or
  hold a comment alone, and `settle` compares it with the enclosing blocks.
* Inside brackets line ends are blanks.
* A word is reserved for good (`reservedWords`) or only where its line has the shape that the
  word begins: `reserveWords` decides that for `match`, `case` and `type`.
-/

namespace NameSieve.Script

/-! ## Line ends -/

/-- The text with each line end written as one line feed. -/
def unifyLineEnds : List Char → List Char
  | [] => []
  | '\r' :: '\n' :: rest => '\n' :: unifyLineEnds rest
  | '\r' :: rest => '\n' :: unifyLineEnds rest
  | c :: rest => c :: unifyLineEnds rest

def dropByteOrderMark : List Char → List Char
  | '\uFEFF' :: rest => rest
  | text => text

/-! ## Indentation -/

/-- The blanks in front of a logical line: tabs first, then spaces. -/
structure Indentation where
  tabs : Nat
  spaces : Nat
deriving DecidableEq

def Indentation.zero : Indentation :=
  ⟨0, 0⟩

/-- How one indentation compares with another, where that does not depend on the width of a
tab. -/
def Indentation.compare? (a b : Indentation) : Option Ordering :=
  if a.tabs < b.tabs then
    if a.spaces ≤ b.spaces then some .lt else none
  else if b.tabs < a.tabs then
    if b.spaces ≤ a.spaces then some .gt else none
  else some (compare a.spaces b.spaces)

/-- The indentation of the next logical line, and the text from its first character on.  Blank
lines and comments are passed over; a form feed begins the line anew; a tab after a space is an
error.  At the end of the text nothing is left and the indentation is zero. -/
def measure (inComment : Bool) (level : Indentation) :
    List Char → Option (Indentation × List Char)
  | [] => some (.zero, [])
  | c :: rest =>
      if c = '\n' then measure false .zero rest
      else if inComment then measure true level rest
      else if c = ' ' then measure false { level with spaces := level.spaces + 1 } rest
      else if c = '\t' then
        if level.spaces = 0 then measure false { level with tabs := level.tabs + 1 } rest
        else none
      else if c = '\x0c' then measure false .zero rest
      else if c = '#' then measure true .zero rest
      else some (level, c :: rest)

/-- Closes the blocks that a line of this indentation leaves: the blocks that remain, and a token
for each that ended. -/
def closeBlocks (level : Indentation) : List Indentation → Option (List Indentation × List Token)
  | [] =>
      match level.compare? .zero with
      | some .eq => some ([], [])
      | _ => none
  | block :: outer =>
      match level.compare? block with
      | some .eq => some (block :: outer, [])
      | some .lt => (closeBlocks level outer).map fun (kept, ends) => (kept, .dedent :: ends)
      | _ => none

/-- Compares a line with the enclosing blocks, innermost first: it opens a block, closes some, or
goes on in the innermost. -/
def settle (level : Indentation) (blocks : List Indentation) :
    Option (List Indentation × List Token) :=
  match level.compare? (blocks.headD .zero) with
  | some .gt => some (level :: blocks, [.indent])
  | some _ => closeBlocks level blocks
  | none => none

/-! ## Numbers -/

/-- A run of digits, in which single underscores may stand before digits, and the rest. -/
def digitRun (isDigit : Char → Bool) : List Char → List Char × List Char
  | [] => ([], [])
  | c :: rest =>
      if isDigit c then
        let (digits, after) := digitRun isDigit rest
        (c :: digits, after)
      else if c = '_' then
        match rest with
        | [] => ([], [c])
        | d :: more => if isDigit d then digitRun isDigit (d :: more) else ([], c :: d :: more)
      else ([], c :: rest)

def isHexDigit (c : Char) : Bool :=
  c.isDigit || ('a' ≤ c && c ≤ 'f') || ('A' ≤ c && c ≤ 'F')

/-- The digits that belong to the letter after the zero of a number, if it names a base. -/
def baseDigits? (c : Char) : Option (Char → Bool) :=
  if c = 'x' || c = 'X' then some isHexDigit
  else if c = 'o' || c = 'O' then some fun d => '0' ≤ d && d ≤ '7'
  else if c = 'b' || c = 'B' then some fun d => d = '0' || d = '1'
  else none

def startsExponent : List Char → Bool
  | e :: sign :: more =>
      (e = 'e' || e = 'E')
        && (sign.isDigit
          || ((sign = '+' || sign = '-')
            && match more with
              | d :: _ => d.isDigit
              | [] => false))
  | _ => false

def noUnderscore : List Char → Bool
  | '_' :: _ => false
  | _ => true

/-- The exponent of a number, if a letter for one stands here; it must have a digit. -/
def exponent (cs : List Char) : Option (List Char × List Char) :=
  match cs with
  | e :: rest =>
      if e = 'e' || e = 'E' then
        let (sign, unsigned) := match rest with
          | '+' :: more => (['+'], more)
          | '-' :: more => (['-'], more)
          | _ => ([], rest)
        let (digits, after) := digitRun Char.isDigit unsigned
        if noUnderscore rest && noUnderscore unsigned && !digits.isEmpty then
          some (e :: sign ++ digits, after)
        else none
      else some ([], cs)
  | [] => some ([], cs)

/-- The letter of an imaginary number, if it stands here. -/
def imaginary : List Char → List Char × List Char
  | 'j' :: rest => (['j'], rest)
  | 'J' :: rest => (['J'], rest)
  | rest => ([], rest)

/-- A decimal number.  A whole number other than zero may not begin with a zero. -/
def decimalNumber (cs : List Char) : Option (List Char × List Char) := do
  let (whole, rest) := digitRun Char.isDigit cs
  let pointed := rest.head? == some '.'
  if pointed || startsExponent rest then
    let (point, fraction, rest) ←
      if pointed then
        if noUnderscore rest.tail then
          let (fraction, after) := digitRun Char.isDigit rest.tail
          some (['.'], fraction, after)
        else none
      else some ([], [], rest)
    let (scale, rest) ← exponent rest
    let (unit, rest) := imaginary rest
    some (whole ++ point ++ fraction ++ scale ++ unit, rest)
  else
    let (unit, rest) := imaginary rest
    if unit.isEmpty && whole.head? = some '0' && whole.any (· ≠ '0') then none
    else some (whole ++ unit, rest)

def number (cs : List Char) : Option (List Char × List Char) :=
  match cs with
  | '0' :: letter :: rest =>
      match baseDigits? letter with
      | some isDigit =>
          let (digits, after) := digitRun isDigit rest
          if digits.isEmpty then none else some ('0' :: letter :: digits, after)
      | none => decimalNumber cs
  | _ => decimalNumber cs

/-! ## Strings -/

/-- What letters in front of a quote make of the string, and whether it is raw. -/
def stringKind? (letters : List Char) : Option (StringKind × Bool) :=
  match letters.map Char.toLower with
  | [] => some (.text, false)
  | ['u'] => some (.text, false)
  | ['r'] => some (.text, true)
  | ['b'] => some (.bytes, false)
  | ['f'] => some (.formatted, false)
  | ['r', 'b'] => some (.bytes, true)
  | ['b', 'r'] => some (.bytes, true)
  | ['r', 'f'] => some (.formatted, true)
  | ['f', 'r'] => some (.formatted, true)
  | _ => none

def isQuote (c : Char) : Bool :=
  c = '"' || c = '\x27'

/-- The begin of a string, if one stands here: its kind, its quote, and what follows the quote. -/
def stringStart? (cs : List Char) : Option ((StringKind × Bool) × Char × List Char) :=
  let letters := (cs.take 2).takeWhile fun c => !isQuote c
  match cs.drop letters.length with
  | quote :: rest =>
      if isQuote quote then (stringKind? letters).map fun kind => (kind, quote, rest) else none
  | [] => none

/-- The body of a string, up to its quote, or up to three of them, and the text behind.  A
backslash keeps the next character in the body.  Only a tripled quote lets a line end in. -/
def stringBody (quote : Char) (isTripled : Bool) (body : List Char) :
    List Char → Option (List Char × List Char)
  | [] => none
  | '\\' :: c :: rest => stringBody quote isTripled (c :: '\\' :: body) rest
  | c :: rest =>
      if c = quote then
        if isTripled then
          match rest with
          | d :: e :: after =>
              if d = quote && e = quote then some (body.reverse, after)
              else stringBody quote isTripled (c :: body) (d :: e :: after)
          | _ => none
        else some (body.reverse, rest)
      else if c = '\n' && !isTripled then none
      else stringBody quote isTripled (c :: body) rest

/-- The string that stands here, once its kind and its quote have been read. -/
def stringAfter (quote : Char) (rest : List Char) : Option (List Char × List Char) :=
  match rest with
  | c :: d :: after =>
      if c = quote && d = quote then stringBody quote true [] after
      else stringBody quote false [] rest
  | _ => stringBody quote false [] rest

/-! ## Words and symbols -/

def wordToken (word : String) : Token :=
  if reservedWords.contains word then .keyword word else .name word

def symbol? (cs : List Char) : Option (String × List Char) :=
  (symbols.find? fun s => s.toList.isPrefixOf cs).map fun s => (s, cs.drop s.length)

/-- The number of open brackets after a symbol; a bracket that closes nothing is an error. -/
def depthAfter (symbol : String) (depth : Nat) : Option Nat :=
  if symbol = "(" || symbol = "[" || symbol = "\x7b" then some (depth + 1)
  else if symbol = ")" || symbol = "]" || symbol = "\x7d" then
    match depth with
    | 0 => none
    | outer + 1 => some outer
  else some depth

/-- The token that stands here, which is neither a blank nor a line end: the token, the number of
open brackets behind it, and the rest. -/
def token? (depth : Nat) (cs : List Char) : Option (Token × Nat × List Char) :=
  match stringStart? cs with
  | some ((kind, isRaw), quote, rest) => do
      let (body, after) ← stringAfter quote rest
      some (.string ⟨kind, isRaw, body⟩, depth, after)
  | none =>
      match cs with
      | [] => none
      | c :: rest =>
          if Text.isIdentifierStart c then
            let word := c :: rest.takeWhile Text.isIdentifierContinue
            some (wordToken (String.ofList word), depth, cs.drop word.length)
          else if Text.isEmoji c then some (.name (String.singleton c), depth, rest)
          else if c.isDigit || (c = '.' && (rest.head?.map Char.isDigit).getD false) then do
            let (digits, after) ← number cs
            some (.number (String.ofList digits), depth, after)
          else do
            let (symbol, after) ← symbol? cs
            let depth ← depthAfter symbol depth
            some (.symbol symbol, depth, after)

/-! ## The whole text -/

/-- What the reader has found so far. -/
structure Reading where
  atLineStart : Bool
  /-- The indentations of the enclosing blocks, innermost first. -/
  blocks : List Indentation
  depth : Nat
  /-- The tokens, last first. -/
  found : List Token

/-- The tokens of a text that ended here: the line is closed, then the blocks. -/
def Reading.finish (state : Reading) : Option (List Token) :=
  if state.depth = 0 then
    let closed := if state.atLineStart then state.found else .newline :: state.found
    some ((state.blocks.map fun _ => Token.dedent) ++ closed).reverse
  else none

/-- Reads on, one blank, line end or token at a time. -/
def readFrom : Nat → Reading → List Char → Option (List Token)
  | 0, _, _ => none
  | limit + 1, state, cs =>
      if state.atLineStart then do
        let (level, rest) ← measure false .zero cs
        let (blocks, ends) ← settle level state.blocks
        let state := { state with blocks, found := ends.reverse ++ state.found }
        if rest.isEmpty then state.finish
        else readFrom limit { state with atLineStart := false } rest
      else
        match cs with
        | [] => state.finish
        | c :: rest =>
            if c = ' ' || c = '\t' || c = '\x0c' then readFrom limit state rest
            else if c = '#' then readFrom limit state (rest.dropWhile (· ≠ '\n'))
            else if c = '\n' then
              if state.depth = 0 then
                readFrom limit
                  { state with atLineStart := true, found := .newline :: state.found } rest
              else readFrom limit state rest
            else if c = '\\' then
              match rest with
              | '\n' :: d :: after => readFrom limit state (d :: after)
              | _ => none
            else
              match token? state.depth cs with
              | some (token, depth, after) =>
                  readFrom limit { state with depth, found := token :: state.found } after
              | none => none

/-- The tokens of a text, in which words are reserved only for good. -/
def rawTokens? (text : List Char) : Option (List Token) :=
  readFrom (2 * text.length + 2) ⟨true, [], 0, []⟩ text

/-! ## Words reserved in place -/

/-- Does the line have a colon outside brackets that neither comes first nor belongs to a
`lambda`? -/
def hasCaseColon (isFirst inLambda : Bool) (depth : Nat) : List Token → Bool
  | [] => false
  | token :: rest =>
      match token with
      | .newline => false
      | .keyword "lambda" => hasCaseColon false (inLambda || depth == 0) depth rest
      | .symbol ":" =>
          if depth = 0 then
            if inLambda then hasCaseColon false false depth rest
            else if isFirst then hasCaseColon false false depth rest
            else true
          else hasCaseColon false inLambda depth rest
      | .symbol s =>
          if s = "(" || s = "[" || s = "\x7b" then hasCaseColon false inLambda (depth + 1) rest
          else if s = ")" || s = "]" || s = "\x7d" then
            hasCaseColon false inLambda (depth - 1) rest
          else hasCaseColon false inLambda depth rest
      | _ => hasCaseColon false inLambda depth rest

/-- Does an equals sign follow, with nothing before it but a list of type parameters? -/
def hasAliasSign (depth : Nat) : List Token → Bool
  | [] => false
  | token :: rest =>
      match token with
      | .newline => false
      | .symbol s =>
          if s = "=" && depth == 0 then true
          else if s = "[" then hasAliasSign (depth + 1) rest
          else if s = "]" then hasAliasSign (depth - 1) rest
          else if depth = 0 then false
          else hasAliasSign depth rest
      | _ => if depth = 0 then false else hasAliasSign depth rest

/-- Is a word at the begin of a line, with the rest of the line behind it, reserved there? -/
def isReservedHere (word : String) (rest : List Token) : Bool :=
  if word = "match" || word = "case" then hasCaseColon true false 0 rest
  else if word = "type" then
    match rest with
    | .name _ :: more => hasAliasSign 0 more
    | _ => false
  else false

/-- Does a logical line begin behind the token? -/
def endsLine : Token → Bool
  | .newline => true
  | .indent => true
  | .dedent => true
  | _ => false

/-- Reserves the words that are reserved only where they stand. -/
def reserveWords (atLineStart : Bool) : List Token → List Token
  | [] => []
  | .name word :: rest =>
      (if atLineStart && isReservedHere word rest then Token.keyword word else .name word)
        :: reserveWords false rest
  | token :: rest => token :: reserveWords (endsLine token) rest

/-- The tokens of a script, or none if its characters are malformed. -/
def tokens? (text : List Char) : Option (List Token) :=
  (rawTokens? (unifyLineEnds (dropByteOrderMark text))).map (reserveWords true)

end NameSieve.Script
