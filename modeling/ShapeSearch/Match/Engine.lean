import ShapeSearch.Pattern.Basic
import ShapeSearch.Tree.Basic

/-!
# Matching patterns against trees

The nodes of a subtree are visited in document order, and at each node the
top-level clauses are tried in order; every clause that matches gives one
`Match` with its clause index, the node (its anchor) and the captures.  In
non-overlapping mode, once some clause matches at a node, the rest of that
node's subtree is skipped.

A clause matches a node when the node passes the clause's test, has no child in
any of the clause's absent fields, and the child constraints can all be met: a
field constraint by some child in that field, a positional constraint by some
child at or after the cursor, which then moves past it.  The search backtracks
over these choices in order (fields' children first to last, positions left to
right) and takes the first assignment for which the rest of the search, and in
the end the predicates of the top-level clause, succeed.  Captures are listed in
the order they were bound: a clause's own capture before those under its
constraints, in written order.
-/

namespace ShapeSearch
namespace Match

open Pattern

/-- A capture label bound to a node. -/
structure Capture where
  label : String
  node : Nat
  deriving Repr, DecidableEq, Inhabited

/-- One match: the clause index, the anchor node and the captures in binding order. -/
structure Found where
  patternIndex : Nat
  anchor : Nat
  captures : List Capture
  deriving Repr, DecidableEq, Inhabited

namespace Found

/-- The node bound to a label, first binding first. -/
def get (m : Found) (label : String) : Option Nat :=
  (m.captures.find? (·.label == label)).map Capture.node

end Found

/-- Whether a node passes a node test. -/
def nodeSatisfies (t : SyntaxTree) (test : NodeTest) (id : Nat) : Bool :=
  let n := t.nodeAt id
  match test with
  | .named kind => n.named && n.kind == kind
  | .anonymous literal => !n.named && n.kind == literal
  | .anyNamed => n.named
  | .any => true

/-- Whether a node has a child in one of the absent fields of the constraints. -/
def forbidden (t : SyntaxTree) (id : Nat) (cs : List Constraint) : Bool :=
  cs.any fun
    | .absent f => (t.childByField id f).isSome
    | _ => false

mutual

/-- Match a clause at a node after the captures `caps`, then continue with `k`; the
first success of the continuation is the result. -/
def matchClause (t : SyntaxTree) (c : Clause) (id : Nat) (caps : List Capture)
    (k : List Capture → Option (List Capture)) : Option (List Capture) :=
  match c with
  | .mk node children _ capture =>
    if !nodeSatisfies t node id || forbidden t id children then none
    else
      let caps := caps ++ (capture.map fun l => ⟨l, id⟩).toList
      matchChildren t children 0 id caps k

/-- Meet the child constraints of a node from child position `cursor` on, then continue
with `k`. -/
def matchChildren (t : SyntaxTree) (cs : List Constraint) (cursor : Nat) (id : Nat)
    (caps : List Capture) (k : List Capture → Option (List Capture)) : Option (List Capture) :=
  match cs with
  | [] => k caps
  | .field name c :: rest =>
    (t.childrenByField id name).findSome? fun child =>
      matchClause t c child caps fun caps' => matchChildren t rest cursor id caps' k
  | .positional c :: rest =>
    (List.range' cursor (t.childCount id - cursor)).findSome? fun index =>
      match t.child? id index with
      | some child => matchClause t c child caps fun caps' => matchChildren t rest (index + 1) id caps' k
      | none => none
  | .absent _ :: rest => matchChildren t rest cursor id caps k

end

/-- The text of the node bound to a label. -/
def capturedText (t : SyntaxTree) (caps : List Capture) (label : String) : Option String :=
  (caps.find? (·.label == label)).map fun c => t.text c.node

/-- Whether a predicate holds of the captures; a predicate whose captures are unbound holds. -/
def predicateHolds (t : SyntaxTree) (caps : List Capture) : Predicate → Bool
  | .eq capture operand negate =>
    match capturedText t caps capture with
    | none => true
    | some left =>
      match operand with
      | .text s => (left == s) != negate
      | .capture other =>
        match capturedText t caps other with
        | some right => (left == right) != negate
        | none => true
  | .regex capture re negate =>
    match capturedText t caps capture with
    | none => true
    | some s => re.isMatch s != negate

mutual

/-- Whether the predicates of a clause and of all its sub-clauses hold. -/
def predicatesHold (t : SyntaxTree) (caps : List Capture) : Clause → Bool
  | .mk _ children predicates _ =>
    predicates.all (predicateHolds t caps) && constraintPredicatesHold t caps children

/-- Whether the predicates under a list of constraints hold. -/
def constraintPredicatesHold (t : SyntaxTree) (caps : List Capture) : List Constraint → Bool
  | [] => true
  | .field _ c :: rest => predicatesHold t caps c && constraintPredicatesHold t caps rest
  | .positional c :: rest => predicatesHold t caps c && constraintPredicatesHold t caps rest
  | .absent _ :: rest => constraintPredicatesHold t caps rest

end

/-- Match a top-level clause at a node: structure first, then the predicates. -/
def matchTop (t : SyntaxTree) (c : Clause) (id : Nat) : Option (List Capture) :=
  matchClause t c id [] fun caps => if predicatesHold t caps c then some caps else none

/-- The matches of every clause at one node, in clause order. -/
def matchesAt (t : SyntaxTree) (p : Compiled) (id : Nat) : List Found :=
  (p.clauses.zipIdx).filterMap fun (c, i) =>
    (matchTop t c id).map fun caps => ⟨i, id, caps⟩

/-- Where the walk goes after a node: the next node, or in non-overlapping mode past the
subtree of a node where something matched. -/
def nextAfter (t : SyntaxTree) (p : Compiled) (id : Nat) (found : List Found) : Nat :=
  if p.mode == .nonOverlapping && !found.isEmpty then max (id + 1) (t.subtreeEnd id)
  else id + 1

theorem lt_nextAfter (t : SyntaxTree) (p : Compiled) (id : Nat) (found : List Found) :
    id < nextAfter t p id found := by
  unfold nextAfter
  split
  · exact Nat.lt_of_lt_of_le (Nat.lt_succ_self id) (Nat.le_max_left _ _)
  · exact Nat.lt_succ_self id

/-- The matches at the nodes from `next` up to `stop`, in document order. -/
def matchesFrom (t : SyntaxTree) (p : Compiled) (next stop : Nat) : List Found :=
  if _h : next < stop then
    have := lt_nextAfter t p next (matchesAt t p next)
    matchesAt t p next ++ matchesFrom t p (nextAfter t p next (matchesAt t p next)) stop
  else []
termination_by stop - next

/-- The matches of a pattern in the subtree of a node. -/
def evaluateIn (t : SyntaxTree) (p : Compiled) (root : Nat) : List Found :=
  matchesFrom t p root (t.subtreeEnd root)

/-- The matches of a pattern in a whole tree. -/
def evaluate (t : SyntaxTree) (p : Compiled) : List Found :=
  evaluateIn t p 0

end Match
end ShapeSearch
