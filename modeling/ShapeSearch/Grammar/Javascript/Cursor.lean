import ShapeSearch.Grammar.Javascript.Lexer
import ShapeSearch.Syntax.Parser

/-!
# Parsing steps of the JavaScript family

The three grammars of the family share one parser, told apart by a dialect: whether
the type language and JSX are read.  On top of the shared parsing steps come the
rules for where a statement may end without a semicolon.
-/

namespace ShapeSearch
namespace Javascript

open Syntax

/-- The three grammars of the family. -/
inductive Dialect where
  | javascript
  | typescript
  | tsx
  deriving Repr, DecidableEq, Inhabited

/-- Whether the dialect has the type language. -/
def Dialect.typed : Dialect → Bool
  | .javascript => false
  | _ => true

/-- Whether the dialect has JSX. -/
def Dialect.jsx : Dialect → Bool
  | .typescript => false
  | _ => true

/-- Parsing steps of the family. -/
abbrev P := Parser Dialect

namespace P

open Parser

/-- Whether types are parsed. -/
def typed : P Bool := do
  return (← dialect).typed

/-- Whether JSX is parsed. -/
def jsx : P Bool := do
  return (← dialect).jsx

/-- Whether a statement may end here without a semicolon: at a line break that ends it,
before a closing brace, or at the end of the source. -/
def lineBreakEnds : P Bool := do
  let s ← source
  return Javascript.lineBreakEnds s (← get).lastEnd (s.length + 1) || (← atEof)

/-- The end of a statement: a semicolon, or nothing where a line break or a closing brace
ends it.  Right after a token passed over in a repair the parser stands in error, where no
semicolon is implied, so there a statement cannot end without one, unless a closing
brace stands before that token. -/
def semicolon : P (List Child) := do
  if ← atPunct ";" then return [plain (← punct ";")]
  else if ← lineBreakEnds then
    let c ← get
    let next ← nextIndex
    let brace := (← source).get (c.lastEnd - 1) == '\x7d'
    if (← read).passing.any (fun p => c.lastEnd ≤ p && p < next) && !brace then failure
    else return []
  else failure

end P

end Javascript
end ShapeSearch
