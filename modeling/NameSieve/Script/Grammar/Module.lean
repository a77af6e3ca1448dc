import NameSieve.Script.Grammar.Statement

/-!
# The grammar of modules

Here the grammar is closed upon itself: a phrase of one level is read with the parsers of the
level below, and there are enough levels for every text, because no two levels are passed through
without a token in between more often than there are kinds of phrases.  `parse?` reads the text of
a script as its statements.
-/

namespace NameSieve.Script

open NameSieve.Script.Parser

/-- The production of each phrase. -/
def production (below : Below) : (phrase : Phrase) → Parser phrase.Tree
  | .test => test below
  | .inversion => inversion below
  | .operand => operand below
  | .factor => factor below
  | .pattern => pattern below
  | .statement => statement below

/-- The parsers of a level; at the lowest, nothing can be read. -/
def parseAt : Nat → (phrase : Phrase) → Parser phrase.Tree
  | 0, _ => failure
  | level + 1, phrase => production ⟨level, parseAt level⟩ phrase

/-- The statements of a module: lines and compound statements, among line ends. -/
def moduleLines (level : Nat) : Parser (List Stmt) := do
  let next : Parser (Option (List Stmt)) := do
    if ← accept .newline then return some []
    else if (← peek).isNone then return none
    else some <$> parseAt level .statement
  let found ← many level next
  return found.flatten

/-- The statements of a script, or none if it is no module. -/
def parse? (source : String) : Option (List Stmt) := do
  let text := source.toList
  let tokens ← tokens? text
  let (statements, _) ← (moduleLines (8 * (text.length + 8))).run tokens
  some statements

end NameSieve.Script
