import ShapeSearch.Grammar.Registry
import ShapeSearch.Grammar.Language
import ShapeSearch.Grammar.Javascript.Parser
import ShapeSearch.Grammar.Python.Parser
import ShapeSearch.Grammar.Rust.Parser
import ShapeSearch.Grammar.Go.Parser
import ShapeSearch.Duration

/-!
# Parsing a source with a grammar

The built-in grammars parse with the parser of their language: the concrete tree is lowered
into a syntax tree whose language is the language's name.

A parse may be given a time limit in microseconds.  Whether a parse overruns its limit
depends on the machine it runs on, so the built-in grammars take the parser's clock as a
parameter (`ParseClock`): under a limit, a parse the clock says overruns it is aborted, and
every other parse, like one without a limit, gives the tree.

A parser takes its limit as a 64-bit count of microseconds, where 0 stands for no limit.  A
grammar's parser is handed an optional timeout: its whole microseconds, saturated at the
largest 64-bit count, or 0 when there is none.
-/

namespace ShapeSearch

open Syntax

/-- The concrete tree of a source in a built-in language. -/
def Language.concrete : Language → Source → Cst
  | .javascript, s => Javascript.parseProgram .javascript s
  | .typescript, s => Javascript.parseProgram .typescript s
  | .tsx, s => Javascript.parseProgram .tsx s
  | .python, s => Python.parseModule s
  | .rust, s => Rust.parseSourceFile s
  | .go, s => Go.parseSourceFile s

/-- The syntax tree of a source in a built-in language, parsed without a time limit. -/
def Language.build (l : Language) (bytes : ByteArray) : Except ParseFailure SyntaxTree :=
  let src := Source.ofBytes bytes
  match (l.concrete src).lower l.name src with
  | .ok t => .ok t
  | .error e => .error (.malformed e.message)

/-- The clock of a parser under a time limit: whether the parse of a source in a built-in
language overruns a limit of so many microseconds, so that the parser aborts it. -/
structure ParseClock where
  overruns : Language → ByteArray → Nat → Bool
  deriving Inhabited

/-- The parser of a built-in language on a clock: it builds the tree, unless it has a limit
that the clock says the parse overruns, and then it aborts. -/
def Language.parser (clock : ParseClock) (l : Language) : TreeParser where
  run bytes limit :=
    match limit with
    | none => l.build bytes
    | some micros => if clock.overruns l bytes micros then .error (.aborted l.name) else l.build bytes

/-- The grammar of a built-in language, its parser on a clock. -/
def Grammar.ofLanguage (l : Language) (clock : ParseClock) : Grammar :=
  { name := l.name, extensions := l.extensions, vocabulary := l.vocabulary, base := l.parser clock }

/-- The registry of the built-in languages, their parsers on a clock. -/
def Registry.standard (clock : ParseClock) : Registry :=
  Language.all.foldl (fun r l => r.register (Grammar.ofLanguage l clock)) Registry.empty

/-- The count of microseconds a parser is handed for an optional timeout: the timeout's
whole microseconds, saturated at the largest 64-bit count, and 0 when there is none. -/
def timeoutMicros : Option Duration → UInt64
  | none => 0
  | some t => if t.asMicros < UInt64.size then t.asMicros.toUInt64 else (UInt64.size - 1).toUInt64

/-- The time limit a parser reads from its count of microseconds: 0 is no limit. -/
def limitOfMicros (micros : UInt64) : Option Nat :=
  if micros = 0 then none else some micros.toNat

/-- Parse a source with a grammar whose parser was handed an optional timeout. -/
def Grammar.parse (g : Grammar) (bytes : ByteArray) (timeout : Option Duration) :
    Except Error SyntaxTree :=
  g.base.parse bytes (limitOfMicros (timeoutMicros timeout))

end ShapeSearch
