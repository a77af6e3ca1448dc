/-!
# Tokens of setup scripts

A script is first read as tokens.  Line breaks and changes of indentation are tokens of their
own.  A string is kept raw, as the characters between its quotes with the flags that its letters
set; `NameSieve.Script.Literal` gives it its value.
-/

namespace NameSieve.Script

/-- What the letters in front of a string make of it. -/
inductive StringKind where
  | text
  | bytes
  /-- A text with replacement fields. -/
  | formatted
deriving DecidableEq

structure RawString where
  kind : StringKind
  /-- Are its backslashes plain characters? -/
  isRaw : Bool
  body : List Char
deriving DecidableEq

inductive Token where
  | name (text : String)
  /-- A word that the grammar reserves where it stands. -/
  | keyword (word : String)
  /-- An operator, a bracket or a separator. -/
  | symbol (text : String)
  /-- A number, as it is written. -/
  | number (digits : String)
  | string (raw : RawString)
  /-- The end of a logical line. -/
  | newline
  | indent
  | dedent
deriving DecidableEq

def reservedWords : List String := [
  "False", "None", "True", "and", "as", "assert", "async", "await", "break", "class", "continue",
  "def", "del", "elif", "else", "except", "finally", "for", "from", "global", "if", "import",
  "in", "is", "lambda", "nonlocal", "not", "or", "pass", "raise", "return", "try", "while",
  "with", "yield"]

/-- Operators, brackets and separators, each before those it begins with. -/
def symbols : List String := [
  "...", "**=", "//=", ">>=", "<<=",
  "**", "//", ">>", "<<", "<=", ">=", "==", "!=", "->", "+=", "-=", "*=", "/=", "%=", "@=", "&=",
  "|=", "^=", ":=",
  "(", ")", "[", "]", "\x7b", "\x7d", ",", ":", ".", ";", "@", "=", "+", "-", "*", "/", "%", "&",
  "|", "^", "~", "<", ">"]

end NameSieve.Script
