import ShapeSearch.Match.Engine

/-!
# Match records

A match is reported as records: one per capture, in capture order, each with
the capture's label and node; a match without captures gives one record for its
anchor, with no label.  A record carries the file path, the clause index, the
node's text and its start and end points.
-/

namespace ShapeSearch
namespace Match

/-- One reported node of a match. -/
structure Record where
  filePath : String
  patternIndex : Nat
  captureLabel : Option String
  nodeText : String
  startPosition : Point
  endPosition : Point
  deriving Repr, DecidableEq, Inhabited

namespace Record

/-- The record of one node of a match. -/
def ofNode (t : SyntaxTree) (path : String) (index : Nat) (label : Option String) (id : Nat) : Record :=
  let n := t.nodeAt id
  { filePath := path, patternIndex := index, captureLabel := label, nodeText := t.text id,
    startPosition := n.span.start, endPosition := n.span.stop }

/-- The records of a match: one per capture, or one for the anchor. -/
def ofMatch (t : SyntaxTree) (path : String) (m : Found) : List Record :=
  match m.captures with
  | [] => [ofNode t path m.patternIndex none m.anchor]
  | caps => caps.map fun c => ofNode t path m.patternIndex (some c.label) c.node

end Record

end Match
end ShapeSearch
