import ShapeSearch.Text.Utf8

/-!
# Syntax trees

A syntax tree is an arena of nodes in pre-order: a node's id is its index, the
root is node 0, a node's children have larger ids than the node, and the ids of
a node's descendants are exactly those from the node's id up to (not including)
its `subtreeEnd`.  So ascending id order is document order, and a whole subtree
can be skipped by jumping to `subtreeEnd`.

Each node has a kind, whether it is named, the field it occupies under its
parent, its byte span and points, its parent and children, and whether the
parser inserted it (a missing node).  The tree also keeps the source bytes and
the list of error sites: every named `ERROR` node and every missing node, in the
order they were recorded.
-/

namespace ShapeSearch

/-- A 0-based row and column in source text; columns count bytes. -/
structure Point where
  row : Nat
  column : Nat
  deriving Repr, DecidableEq, Inhabited

namespace Point

/-- The 1-based `row:column` form used in reports. -/
def render (p : Point) : String :=
  toString (p.row + 1) ++ ":" ++ toString (p.column + 1)

end Point

/-- The byte range and points of a node. -/
structure Span where
  startByte : Nat
  endByte : Nat
  start : Point
  stop : Point
  deriving Repr, DecidableEq, Inhabited

namespace Span

/-- Whether `inner` lies within `outer`. -/
def contains (outer inner : Span) : Bool :=
  outer.startByte ≤ inner.startByte && inner.endByte ≤ outer.endByte

/-- A span on the first line: the points are `(0, start)` and `(0, stop)`. -/
def onFirstLine (start stop : Nat) : Span :=
  ⟨start, stop, ⟨0, start⟩, ⟨0, stop⟩⟩

end Span

/-- Why a node is an error site. -/
inductive SiteKind where
  | error
  | missing
  deriving Repr, DecidableEq, Inhabited

/-- One error site: its kind, node and span. -/
structure ErrorSite where
  kind : SiteKind
  node : Nat
  span : Span
  deriving Repr, DecidableEq, Inhabited

/-- One node of the arena. -/
structure Node where
  kind : String
  named : Bool
  field : Option String
  span : Span
  parent : Option Nat
  children : Array Nat
  subtreeEnd : Nat
  missing : Bool
  deriving Repr, Inhabited

namespace Node

/-- An `ERROR` node, named or not. -/
def isError (n : Node) : Bool :=
  n.kind == "ERROR"

end Node

/-- A finished syntax tree over its source bytes. -/
structure SyntaxTree where
  language : String
  source : ByteArray
  nodes : Array Node
  errors : Array ErrorSite
  deriving Inhabited

namespace SyntaxTree

/-- The number of nodes, named and anonymous. -/
def size (t : SyntaxTree) : Nat :=
  t.nodes.size

/-- The node with an id, if there is one. -/
def node? (t : SyntaxTree) (id : Nat) : Option Node :=
  t.nodes[id]?

/-- The node with an id, or a default node. -/
def nodeAt (t : SyntaxTree) (id : Nat) : Node :=
  t.nodes.getD id default

/-- Whether the parser reported any error site. -/
def hasErrors (t : SyntaxTree) : Bool :=
  !t.errors.isEmpty

/-- One past the last descendant of a node. -/
def subtreeEnd (t : SyntaxTree) (id : Nat) : Nat :=
  (t.nodeAt id).subtreeEnd

/-- The ids of a node and its descendants, in document order. -/
def descendants (t : SyntaxTree) (id : Nat) : List Nat :=
  List.range' id (t.subtreeEnd id - id)

/-- The ids of a node's children, in order. -/
def children (t : SyntaxTree) (id : Nat) : List Nat :=
  (t.nodeAt id).children.toList

/-- The number of children of a node. -/
def childCount (t : SyntaxTree) (id : Nat) : Nat :=
  (t.nodeAt id).children.size

/-- The child at a position, if there is one. -/
def child? (t : SyntaxTree) (id : Nat) (index : Nat) : Option Nat :=
  (t.nodeAt id).children[index]?

/-- The named children of a node, in order. -/
def namedChildren (t : SyntaxTree) (id : Nat) : List Nat :=
  (t.children id).filter fun c => (t.nodeAt c).named

/-- The children that occupy a field, in order. -/
def childrenByField (t : SyntaxTree) (id : Nat) (field : String) : List Nat :=
  (t.children id).filter fun c => (t.nodeAt c).field == some field

/-- The first child that occupies a field. -/
def childByField (t : SyntaxTree) (id : Nat) (field : String) : Option Nat :=
  (t.children id).find? fun c => (t.nodeAt c).field == some field

/-- The source text of a node, read lossily. -/
def text (t : SyntaxTree) (id : Nat) : String :=
  let n := t.nodeAt id
  Utf8.lossySlice t.source n.span.startByte n.span.endByte

/-- Whether a node or one of its descendants is an error node or a missing node. -/
def hasError (t : SyntaxTree) (id : Nat) : Bool :=
  (t.descendants id).any fun d => (t.nodeAt d).isError || (t.nodeAt d).missing

/-- The field names that a node's children occupy, sorted and without repeats. -/
def fieldNames (t : SyntaxTree) (id : Nat) : List String :=
  ((t.children id).filterMap fun c => (t.nodeAt c).field).eraseDups.mergeSort
    fun a b => decide (a ≤ b)

/-- Whether a node's parent link agrees with the children lists: the root has no
parent, and every other node is among its parent's children. -/
def parentConsistent (t : SyntaxTree) (id : Nat) : Bool :=
  match (t.nodeAt id).parent with
  | none => id == 0
  | some p => (t.nodeAt p).children.contains id

/-- A node's kind with its points, 1-based: `kind [row:col - row:col]`. -/
def describe (t : SyntaxTree) (id : Nat) : String :=
  let n := t.nodeAt id
  n.kind ++ " [" ++ n.span.start.render ++ " - " ++ n.span.stop.render ++ "]"

/-- The s-expression of a node's named structure, within a depth bound. -/
def sexpWithin : Nat → SyntaxTree → Nat → String
  | 0, _, _ => ""
  | fuel + 1, t, id =>
    let n := t.nodeAt id
    if n.missing then "(MISSING " ++ n.kind ++ ")"
    else
      let shown := (t.children id).filter fun c => (t.nodeAt c).named || (t.nodeAt c).missing
      let parts := shown.map fun c =>
        let label := match (t.nodeAt c).field with
          | some f => f ++ ": "
          | none => ""
        " " ++ label ++ sexpWithin fuel t c
      "(" ++ n.kind ++ String.join parts ++ ")"

/-- The s-expression of the tree: each node as `(kind child ...)`, listing the named
and missing children with their fields, a missing node as `(MISSING kind)`. -/
def toSexp (t : SyntaxTree) : String :=
  sexpWithin (t.size + 1) t 0

end SyntaxTree

end ShapeSearch
