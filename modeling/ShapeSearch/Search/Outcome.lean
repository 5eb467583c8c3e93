import ShapeSearch.Match.Record
import ShapeSearch.Error

/-!
# Outcomes of a search

Searching a file ends in an outcome: the matches' records with their count and
whether the parse was partial, or the error that made the file be skipped.  A
summary folds the outcomes of a run: scanned files count their matches, records
and partial parses, skipped files are listed with their error.  A run is
exhaustive when nothing was skipped and it was not canceled.
-/

namespace ShapeSearch
namespace Search

/-- What searching one file gave. -/
structure FileOutcome where
  path : String
  language : Option String
  records : List Match.Record
  matchCount : Nat
  incomplete : Bool
  error : Option Error
  deriving Repr, Inhabited

namespace FileOutcome

/-- A file that could not be searched. -/
def skipped (path : String) (e : Error) : FileOutcome :=
  { path, language := none, records := [], matchCount := 0, incomplete := false, error := some e }

/-- The matches of a compiled pattern in a file's tree, each reported as records. -/
def matched (path : String) (p : Pattern.Compiled) (t : SyntaxTree) : FileOutcome :=
  let found := Match.evaluate t p
  { path, language := some t.language,
    records := found.flatMap (Match.Record.ofMatch t path),
    matchCount := found.length, incomplete := t.hasErrors, error := none }

/-- Whether the file was skipped. -/
def isSkipped (o : FileOutcome) : Bool :=
  o.error.isSome

end FileOutcome

/-- The totals of a run. -/
structure Summary where
  filesScanned : Nat
  filesWithMatches : Nat
  matchTotal : Nat
  records : Nat
  partialParses : Nat
  skipped : List (String × Error)
  canceled : Bool
  deriving Repr, Inhabited

namespace Summary

/-- The summary before any file. -/
def empty : Summary :=
  { filesScanned := 0, filesWithMatches := 0, matchTotal := 0, records := 0,
    partialParses := 0, skipped := [], canceled := false }

/-- Count one outcome. -/
def record (s : Summary) (o : FileOutcome) : Summary :=
  match o.error with
  | some e => { s with skipped := s.skipped ++ [(o.path, e)] }
  | none =>
    { s with
      filesScanned := s.filesScanned + 1
      matchTotal := s.matchTotal + o.matchCount
      records := s.records + o.records.length
      filesWithMatches := s.filesWithMatches + (if o.matchCount > 0 then 1 else 0)
      partialParses := s.partialParses + (if o.incomplete then 1 else 0) }

/-- The summary of a list of outcomes. -/
def ofOutcomes (os : List FileOutcome) : Summary :=
  os.foldl record empty

/-- Whether every file was searched: none skipped and the run not canceled. -/
def isExhaustive (s : Summary) : Bool :=
  s.skipped.isEmpty && !s.canceled

end Summary

end Search
end ShapeSearch
