import NameSieve.Script.CharName
import NameSieve.Script.Lexer

/-!
# Values of string literals

A backslash in a string that is not raw begins an escape.  `escape` reads one, and `unescape`
resolves those of a whole body.  An unknown escape keeps its backslash; one that is cut short, or
that names no character, is an error.  A byte string holds ASCII characters only, and the escapes
that stand for characters beyond it are unknown there.
-/

namespace NameSieve.Script

def hexValue? (c : Char) : Option Nat :=
  if c.isDigit then some (c.toNat - '0'.toNat)
  else if 'a' ≤ c && c ≤ 'f' then some (c.toNat - 'a'.toNat + 10)
  else if 'A' ≤ c && c ≤ 'F' then some (c.toNat - 'A'.toNat + 10)
  else none

/-- Exactly so many hexadecimal digits, added to the value read before them, and the rest. -/
def hexNumber (value : Nat) : Nat → List Char → Option (Nat × List Char)
  | 0, rest => some (value, rest)
  | _ + 1, [] => none
  | count + 1, c :: rest => do
      let digit ← hexValue? c
      hexNumber (16 * value + digit) count rest

/-- At most so many octal digits, added to the value read before them, and the rest. -/
def octalNumber (value : Nat) : Nat → List Char → Nat × List Char
  | count + 1, c :: rest =>
      if '0' ≤ c && c ≤ '7' then octalNumber (8 * value + (c.toNat - '0'.toNat)) count rest
      else (value, c :: rest)
  | _, rest => (value, rest)

/-- The character of a code point: a surrogate is replaced, and there are none beyond the last. -/
def charOfCode? (code : Nat) : Option Char :=
  if 0xD800 ≤ code && code ≤ 0xDFFF then some '\uFFFD'
  else if code ≤ 0x10FFFF then some (Char.ofNat code)
  else none

/-- The character that is written by a name in braces, and the rest. -/
def namedChar (cs : List Char) : Option (Char × List Char) :=
  match cs with
  | '\x7b' :: rest =>
      let name := rest.takeWhile (· ≠ '\x7d')
      match rest.drop name.length with
      | _ :: after => (charNamed? name).map fun c => (c, after)
      | [] => none
  | _ => none

/-- The letters that stand for one control or quote, with what they stand for. -/
def letterEscapes : List (Char × Char) := [
  ('\\', '\\'), ('\x27', '\x27'), ('"', '"'), ('a', '\x07'), ('b', '\x08'), ('f', '\x0c'),
  ('n', '\n'), ('r', '\r'), ('t', '\t'), ('v', '\x0b')]

/-- The characters that an escape stands for, and the text behind it.  The text begins after the
backslash. -/
def escape (inBytes : Bool) (cs : List Char) : Option (List Char × List Char) :=
  match cs with
  | [] => none
  | c :: rest =>
      match letterEscapes.lookup c with
      | some d => some ([d], rest)
      | none =>
          if c = '\n' then some ([], rest)
          else if '0' ≤ c && c ≤ '7' then
            let (code, after) := octalNumber 0 3 cs
            some ([Char.ofNat code], after)
          else if c = 'x' then coded 2 rest
          else if c = 'u' && !inBytes then coded 4 rest
          else if c = 'U' && !inBytes then coded 8 rest
          else if c = 'N' && !inBytes then (namedChar rest).map fun (d, after) => ([d], after)
          else if inBytes && 128 ≤ c.toNat then none
          else some (['\\', c], rest)
where
  /-- A character that is written by so many hexadecimal digits. -/
  coded (count : Nat) (rest : List Char) : Option (List Char × List Char) := do
    let (code, after) ← hexNumber 0 count rest
    let c ← charOfCode? code
    some ([c], after)

/-- Resolves escapes from here on; the limit bounds the number of steps. -/
def unescapeFrom (inBytes isRaw : Bool) : Nat → List Char → List Char → Option (List Char)
  | 0, _, _ => none
  | _ + 1, done, [] => some done.reverse
  | limit + 1, done, c :: rest =>
      if c = '\\' && !isRaw then
        match escape inBytes rest with
        | some (cs, after) => unescapeFrom inBytes isRaw limit (cs.reverse ++ done) after
        | none => none
      else if inBytes && 128 ≤ c.toNat then none
      else unescapeFrom inBytes isRaw limit (c :: done) rest

/-- The characters that the body of a string stands for. -/
def unescape (inBytes isRaw : Bool) (body : List Char) : Option (List Char) :=
  unescapeFrom inBytes isRaw (body.length + 1) [] body

end NameSieve.Script
