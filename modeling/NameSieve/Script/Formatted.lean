import NameSieve.Script.Literal
import NameSieve.Script.Syntax
import NameSieve.Text.Basic

/-!
# Formatted strings

The body of a formatted string alternates between text and *replacement fields* in braces.  A
field holds an expression, perhaps an equals sign that documents it, perhaps a conversion after
an exclamation mark, and perhaps a format after a colon, which may hold fields of its own but none
inside those.  `formattedParts` reads a body; how an expression is read is a parameter.
-/

namespace NameSieve.Script

/-- What a replacement field holds so far. -/
structure Field where
  /-- The text of the expression, last character first. -/
  text : List Char := []
  /-- The brackets that are open, innermost first. -/
  opened : List Char := []
  /-- The text in front of the equals sign, if there is one. -/
  documented : Option (List Char) := none
  conversion : Option Char := none
  format : List Expr := []

namespace Field

/-- The field with one more character of text. -/
def push (field : Field) (c : Char) : Field :=
  { field with text := c :: field.text }

def isBlank (field : Field) : Bool :=
  field.text.all Text.isBlank

/-- The bracket that a closing bracket answers. -/
def opening (c : Char) : Char :=
  if c = ')' then '(' else if c = ']' then '[' else '\x7b'

def expression (field : Field) : List Char :=
  field.documented.getD field.text.reverse

end Field

/-- The characters up to a quote and with it, last first, and the rest. -/
def throughQuote (quote : Char) (done : List Char) : List Char → Option (List Char × List Char)
  | [] => none
  | c :: rest => if c = quote then some (c :: done, rest) else throughQuote quote (c :: done) rest

/-- The text so far as a part in front of the parts that are done, unless it is empty. -/
def flushText (text : List Char) (done : List Expr) : List Expr :=
  if text.isEmpty then done else .constant (.text (String.ofList text.reverse)) :: done

/-- The parts are read by three functions that call each other: `parts` for text and fields in
turn, `field` for the inside of a field, and `formatParts` for its format.  A limit bounds the
number of steps. -/
structure FormattedReader where
  expression : List Char → Option Expr
  /-- Are backslashes plain characters? -/
  isRaw : Bool

mutual

/-- Text and fields in turn, at a depth of nesting: up to the end of the body, or inside a format
up to the closing brace. -/
def FormattedReader.parts (reader : FormattedReader) (nested : Nat) :
    Nat → List Char → List Expr → List Char → Option (List Expr × List Char)
  | 0, _, _, _ => none
  | _ + 1, text, done, [] => some ((flushText text done).reverse, [])
  | limit + 1, text, done, c :: rest =>
      if c = '\x7b' then
        if nested = 0 && rest.head? == some '\x7b' then
          reader.parts nested limit (c :: text) done rest.tail
        else do
          let (value, after) ← reader.field nested limit {} rest
          reader.parts nested limit [] (value :: flushText text done) after
      else if c = '\x7d' then
        if 0 < nested then some ((flushText text done).reverse, c :: rest)
        else if rest.head? == some '\x7d' then
          reader.parts nested limit (c :: text) done rest.tail
        else none
      else if c = '\\' && !reader.isRaw then
        match rest with
        | '\x7b' :: _ => reader.parts nested limit (c :: text) done rest
        | '\x7d' :: _ => reader.parts nested limit (c :: text) done rest
        | _ => do
            let (cs, after) ← escape false rest
            reader.parts nested limit (cs.reverse ++ text) done after
      else reader.parts nested limit (c :: text) done rest

/-- The inside of a field, up to its closing brace. -/
def FormattedReader.field (reader : FormattedReader) (nested : Nat) :
    Nat → Field → List Char → Option (Expr × List Char)
  | 0, _, _ => none
  | _ + 1, _, [] => none
  | limit + 1, field, c :: rest =>
      let isOutside := field.opened.isEmpty
      if (c = '!' || c = '=' || c = '<' || c = '>') && rest.head? == some '=' then
        reader.field nested limit ((field.push c).push '=') rest.tail
      else if c = '!' && isOutside then
        match rest with
        | conversion :: after =>
            if field.isBlank then none
            else if conversion ≠ 's' ∧ conversion ≠ 'a' ∧ conversion ≠ 'r' then none
            else if after.head? == some '\x7d' || after.head? == some ':' then
              reader.field nested limit { field with conversion := some conversion } after
            else none
        | [] => none
      else if c = '=' && isOutside then
        reader.field nested limit
          { field.push c with documented := some field.text.reverse } rest
      else if c = ':' && isOutside then do
        let (format, after) ← reader.formatParts nested limit [] [] rest
        reader.field nested limit { field with format } after
      else if c = '(' || c = '[' || c = '\x7b' then
        reader.field nested limit { field.push c with opened := c :: field.opened } rest
      else if c = ')' || c = ']' || (c = '\x7d' && !isOutside) then
        if field.opened.head? == some (Field.opening c) then
          reader.field nested limit { field.push c with opened := field.opened.tail } rest
        else none
      else if c = '\x7d' then
        if field.isBlank then none
        else do
          let value ← reader.expression field.expression
          some (.replacement value field.conversion field.format, rest)
      else if isQuote c then do
        let (text, after) ← throughQuote c (c :: field.text) rest
        reader.field nested limit { field with text } after
      else if c = ' ' && field.documented.isSome then reader.field nested limit field rest
      else if c = '\\' || field.documented.isSome then none
      else reader.field nested limit (field.push c) rest

/-- The format of a field, up to the field's closing brace. -/
def FormattedReader.formatParts (reader : FormattedReader) (nested : Nat) :
    Nat → List Char → List Expr → List Char → Option (List Expr × List Char)
  | 0, _, _, _ => none
  | _ + 1, text, done, [] => some ((flushText text done).reverse, [])
  | limit + 1, text, done, c :: rest =>
      if c = '\x7b' then
        if nested + 1 < 2 then do
          let (inner, after) ← reader.parts (nested + 1) limit [] [] (c :: rest)
          reader.formatParts nested limit [] (inner.reverse ++ flushText text done) after
        else none
      else if c = '\x7d' then some ((flushText text done).reverse, c :: rest)
      else reader.formatParts nested limit (c :: text) done rest

end

/-- The parts of a formatted string. -/
def formattedParts (expression : List Char → Option Expr) (isRaw : Bool) (body : List Char) :
    Option (List Expr) :=
  match FormattedReader.parts ⟨expression, isRaw⟩ 0 (2 * body.length + 2) [] [] body with
  | some (parts, []) => some parts
  | _ => none

end NameSieve.Script
