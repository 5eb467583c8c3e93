import ShapeSearch.Search.Outcome
import ShapeSearch.Walk.Options
import ShapeSearch.Grammar.Parse
import ShapeSearch.Pattern.Compile

/-!
# Searchers

A searcher holds one pattern compiled for every grammar it fits.  The candidate
grammars are those of the registry in order, or the one grammar of an override
tag.  A grammar the pattern does not fit is remembered with its pattern error;
building the searcher fails only when no grammar accepts the pattern, with the
first grammar's error, or with an unsupported language when there was no
candidate at all.

Patterns are kept under the grammar's own name, while the registry lists tags in
lowercase: a grammar whose name has capitals is searched by tag but not listed
among the searcher's languages.
-/

namespace ShapeSearch
namespace Search

/-- The settings of a search. -/
structure Options where
  language : Option String
  walk : WalkOptions
  threads : Option Nat
  queueCapacity : Nat
  parseTimeout : Option Duration
  mode : Pattern.MatchMode
  deriving Repr, Inhabited

/-- No override, the default walk, sixty-four queued files, no time limit, every match. -/
def Options.default : Options :=
  { language := none, walk := WalkOptions.default, threads := none, queueCapacity := 64,
    parseTimeout := none, mode := .all }

/-- A pattern compiled for the grammars it fits. -/
structure Searcher where
  registry : Registry
  patterns : List (String × Pattern.Compiled)
  patternErrors : List (String × Pattern.PatternError)
  options : Options

/-- Compile a pattern for one grammar, in the searcher's match mode. -/
def compileFor (text : String) (mode : Pattern.MatchMode) (g : Grammar) :
    Except Pattern.PatternError Pattern.Compiled :=
  (Pattern.compile text g.name g.vocabulary).map fun p => { p with mode }

/-- The grammars a pattern is compiled for. -/
def candidates (r : Registry) (o : Options) : Except Error (List Grammar) :=
  match o.language with
  | some tag => (r.get tag).map fun g => [g]
  | none => .ok r.grammarList

/-- Split the grammars into those the pattern fits, with the compiled pattern, and
those it does not, with the error. -/
def compileAll (text : String) (mode : Pattern.MatchMode) :
    List Grammar → List (String × Pattern.Compiled) × List (String × Pattern.PatternError)
  | [] => ([], [])
  | g :: gs =>
    let (ok, bad) := compileAll text mode gs
    match compileFor text mode g with
    | .ok p => ((g.name, p) :: ok, bad)
    | .error e => (ok, (g.name, e) :: bad)

namespace Searcher

/-- Build a searcher: compile the pattern for every candidate grammar. -/
def new (r : Registry) (text : String) (o : Options) : Except Error Searcher := do
  let gs ← candidates r o
  let (patterns, patternErrors) := compileAll text o.mode gs
  if patterns.isEmpty then
    match patternErrors with
    | (_, e) :: _ => throw (.pattern e)
    | [] => throw (.unsupportedLanguage "no languages registered")
  pure { registry := r, patterns, patternErrors, options := o }

/-- The pattern compiled for a grammar name. -/
def pattern? (s : Searcher) (name : String) : Option Pattern.Compiled :=
  (s.patterns.find? (·.1 == name)).map (·.2)

/-- The registry's tags that have a compiled pattern, in registry order. -/
def languages (s : Searcher) : List String :=
  s.registry.languages.filter fun tag => s.patterns.any (·.1 == tag)

/-- The compiled pattern for a grammar, or the error that none was compiled. -/
def patternFor (s : Searcher) (g : Grammar) : Except Error Pattern.Compiled :=
  match s.pattern? g.name with
  | some p => .ok p
  | none => .error (.patternUnavailable g.name)

/-- Search a source given as bytes, in the grammar registered under a tag; its
outcome is reported under the path `<source>`. -/
def searchSource (s : Searcher) (tag : String) (bytes : ByteArray) : Except Error FileOutcome := do
  let g ← s.registry.get tag
  let p ← s.patternFor g
  let t ← g.parse bytes s.options.parseTimeout
  pure (FileOutcome.matched "<source>" p t)

end Searcher

end Search
end ShapeSearch
