import ShapeSearch.Search.Outcome
import ShapeSearch.Report.Style
import ShapeSearch.Report.Table
import ShapeSearch.Files.Path

/-!
# Text reports

A run reported for people.  Every record is one line: the path (below the base
directory when it lies there), the 1-based start point, the capture label (or
`match`) and the first line of the node's text.  The summary block follows the
run: a headline with the totals, marked as a warning when the results may be
incomplete, the table of metrics, the first ten skipped files with their errors,
and the time taken.
-/

namespace ShapeSearch
namespace Report

open Search

/-- The most skipped files the summary lists. -/
def listedSkips : Nat := 10

/-- A path as shown: below the base when it lies there. -/
def shownPath (base : Option String) (path : String) : String :=
  match base.bind (Path.stripBase · path) with
  | some rest => rest
  | none => path

/-- The first line of a text, without a carriage return before its line break. -/
def firstLine (text : String) : String :=
  match text.splitOn "\n" with
  | first :: _ :: _ => if first.endsWith "\r" then (first.dropEnd 1).toString else first
  | [first] => first
  | [] => ""

/-- The line of one record. -/
def recordLine (theme : Theme) (base : Option String) (r : Match.Record) : String :=
  theme.info.apply (shownPath base r.filePath) ++ ":" ++ r.startPosition.render ++ ": " ++
    theme.muted.apply (r.captureLabel.getD "match") ++ ": " ++ firstLine r.nodeText

/-- The lines of one file's records. -/
def recordLines (theme : Theme) (base : Option String) (o : FileOutcome) : List String :=
  o.records.map (recordLine theme base)

/-- The singular or the plural, by count. -/
def plural (count : Nat) (one many : String) : String :=
  if count == 1 then one else many

/-- A duration in nanoseconds with two decimals in the largest unit that keeps it
at least one: seconds, milliseconds, microseconds or nanoseconds. -/
def durationText (nanos : Nat) : String :=
  let fixed (value unit : Nat) (suffix : String) : String :=
    let hundredths := (value * 100 + unit / 2) / unit
    let frac := hundredths % 100
    toString (hundredths / 100) ++ "." ++ (if frac < 10 then "0" else "") ++ toString frac ++ suffix
  if nanos ≥ 1000000000 then fixed nanos 1000000000 "s"
  else if nanos ≥ 1000000 then fixed nanos 1000000 "ms"
  else if nanos ≥ 1000 then fixed nanos 1000 "µs"
  else toString nanos ++ ".00ns"

/-- The summary block, each line ended by a line break. -/
def summaryText (theme : Theme) (base : Option String) (s : Summary) (elapsedNanos : Nat) :
    String :=
  let headline := toString s.matchTotal ++ " " ++ plural s.matchTotal "match" "matches" ++ " in " ++
    toString s.filesWithMatches ++ " of " ++ toString s.filesScanned ++ " " ++
    plural s.filesScanned "file" "files"
  let head := if s.isExhaustive then Icons.check ++ " " ++ theme.success.apply headline
    else Icons.warn ++ " " ++ theme.warn.apply (headline ++ " (results may be incomplete)")
  let rows := [("Files searched", toString s.filesScanned),
    ("Files with matches", toString s.filesWithMatches), ("Matches", toString s.matchTotal),
    ("Partial parses", toString s.partialParses), ("Skipped entries", toString s.skipped.length)] ++
    (if s.canceled then [("Canceled", "yes")] else [])
  let row (label value : String) : String := "  " ++ theme.dim.apply label ++ " " ++ value
  let skips := (s.skipped.take listedSkips).map fun (p, e) => row (shownPath base p) e.message
  let more := if s.skipped.length > listedSkips then
      [row "..." (toString (s.skipped.length - listedSkips) ++ " more")] else []
  let lines := [""] ++ [head] ++ [Table.metrics rows] ++ skips ++ more ++
    [theme.dim.apply Icons.clock ++ " " ++ durationText elapsedNanos]
  String.join (lines.map (· ++ "\n"))

end Report
end ShapeSearch
