import ShapeSearch.Search.Outcome
import ShapeSearch.Text.Json

/-!
# JSON line reports

A run reported as JSON lines: a `match` line for every record of a searched
file, a `skipped` line for a skipped file, and a closing `summary` line.  Members
are written in a fixed order with camel-case names.
-/

namespace ShapeSearch
namespace Report

open Search

/-- A point as a JSON object. -/
def pointJson (p : Point) : JsonValue :=
  .obj [("row", .num p.row), ("column", .num p.column)]

/-- The members of a record. -/
def recordMembers (r : Match.Record) : List (String × JsonValue) :=
  [("filePath", .str r.filePath), ("patternIndex", .num r.patternIndex),
   ("captureLabel", match r.captureLabel with | some l => .str l | none => .null),
   ("nodeText", .str r.nodeText), ("startPosition", pointJson r.startPosition),
   ("endPosition", pointJson r.endPosition)]

/-- The lines for one file's outcome. -/
def outcomeLines (o : FileOutcome) : List String :=
  match o.error with
  | some e =>
    [(JsonValue.obj [("type", .str "skipped"), ("path", .str o.path),
      ("errorKind", .str e.kind), ("message", .str e.message)]).render]
  | none => o.records.map fun r => (JsonValue.obj (("type", .str "match") :: recordMembers r)).render

/-- The closing line, with the elapsed time in whole milliseconds. -/
def summaryLine (s : Summary) (elapsedMs : Nat) : String :=
  (JsonValue.obj [("type", .str "summary"), ("filesScanned", .num s.filesScanned),
    ("filesWithMatches", .num s.filesWithMatches), ("matches", .num s.matchTotal),
    ("records", .num s.records), ("partialParses", .num s.partialParses),
    ("skipped", .num s.skipped.length), ("canceled", .bool s.canceled),
    ("exhaustive", .bool s.isExhaustive), ("elapsedMs", .num elapsedMs)]).render

end Report
end ShapeSearch
