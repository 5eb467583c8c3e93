import ShapeSearch.Grammar.Parse

/-!
# An estimate of the parser's clock

How long tree-sitter takes over a source depends on the machine, so the built-in grammars take
the parser's clock as a parameter.  The program is run on this estimate of it.  The parser reads
a hundred bytes in a microsecond, so a limit has passed once the source is longer than a
hundred bytes for each of its microseconds.  It reads its clock only once every hundred parse
steps, though: a parse that ends in fewer steps finishes whatever its limit, and one that takes
more is aborted.  A source of at least a hundred tokens takes that many steps; a shorter one is
counted by the tree it gives.
-/

namespace ShapeSearch

open Syntax

/-- The number of bytes the parser reads in a microsecond. -/
def bytesPerMicrosecond : Nat := 100

/-- The parse steps between two readings of the parser's clock. -/
def stepsPerClockCheck : Nat := 100

/-- The steps a parse took to build a tree, estimated: a shift for each leaf and one for
the end of the source, and two reductions for each node over children, one for the node
and one for a hidden rule it stands for. -/
def SyntaxTree.parseSteps (t : SyntaxTree) : Nat :=
  t.nodes.foldl (fun acc n => acc + if n.children.isEmpty then 1 else 2) 1

/-- The lexer of a built-in language. -/
def Language.lexer : Language → Lexer
  | .javascript | .typescript | .tsx => Javascript.lexer
  | .python => Python.lexer
  | .rust => Rust.lexer
  | .go => Go.lexer

/-- Whether a source holds at least a hundred tokens, comments counted. -/
def Language.manyTokens (l : Language) (src : Source) : Bool :=
  stepsPerClockCheck ≤ l.lexer.countFrom src (stepsPerClockCheck + 1) stepsPerClockCheck 0

/-- The bytes at the head of a large source that are lexed first when counting its
tokens: a hundred and one tokens there are a hundred tokens of the whole source, since
the first hundred of them end before the cut. -/
def headBytes : Nat := 65536

/-- The estimated clock: a parse overruns its limit when the source is too long to be read
within it and the parse takes at least a hundred steps. -/
def ParseClock.estimate : ParseClock where
  overruns l bytes micros :=
    if bytes.size ≤ bytesPerMicrosecond * micros then false
    else if stepsPerClockCheck < l.lexer.countFrom (Source.ofBytes (bytes.extract 0 headBytes))
        (stepsPerClockCheck + 2) (stepsPerClockCheck + 1) 0 then true
    else if l.manyTokens (Source.ofBytes bytes) then true
    else
      match l.build bytes with
      | .ok t => stepsPerClockCheck ≤ t.parseSteps
      | .error _ => false

end ShapeSearch
