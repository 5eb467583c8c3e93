import ShapeSearch.Match.Engine

/-!
# The search as the engine runs it

`Match.matchClause` passes capture lists from call to call as values.  The engine itself
keeps one capture list and changes it in place: a clause pushes its own capture, hands the
list to the search of its child constraints, and on failure cuts the list back to its
length before the push.  The rest of the search is a closure that is handed the list and
answers whether the search is done; each child constraint wraps it in a new closure that
first meets the remaining constraints of its node.  Nothing in that shape bounds the
recursion: the closures are called from inside the calls they were made in.

This module writes that search down as the engine runs it.  A closure for the remaining
constraints of a node is kept as the data it holds (`Pending`: the constraints, the first
child position they may use and the node), and the closure that ends the chain is a
function of the capture list (`Continue`) that answers `none` where it would not return.
The three searches, `searchClause`, `searchChildren` and `tryChildren` (the loop over the
candidate children of one constraint), recurse on what is left to meet along the whole
chain of frames and, within one constraint, on the candidates left to try.

The iterator over matches is written down the same way: `Matches.pull` hands out the
matches found at the last node visited, and otherwise visits nodes one after another
(`Matches.visit`), jumping past the subtree of a node where something matched in
non-overlapping mode.
-/

namespace ShapeSearch

namespace Pattern

/-! ### What a search leaves to meet

A clause search hands the search of its children a longer chain of pending frames, so no
argument of the searches shrinks.  What does is the number of constraints left to meet
along the whole chain, each counted with the clause under it, and within one constraint the
candidate children left to try. -/

mutual

/-- What a clause leaves to meet: its constraints, each counted with the clause under it. -/
def Clause.weight : Clause → Nat
  | .mk _ cs _ _ => Clause.constraintWeight cs + 1

/-- What a list of constraints leaves to meet. -/
def Clause.constraintWeight : List Constraint → Nat
  | [] => 0
  | .field _ c :: rest => c.weight + Clause.constraintWeight rest + 3
  | .positional c :: rest => c.weight + Clause.constraintWeight rest + 3
  | .absent _ :: rest => Clause.constraintWeight rest + 1

end

end Pattern

namespace Match

open Pattern

/-- The rest of a search that a child constraint hands on with the clause it tries: the
constraints still to meet at a node and the first child position they may use. -/
structure Pending where
  constraints : List Constraint
  cursor : Nat
  node : Nat

/-- The end of a chain of searches: given the capture list, whether the search is done and
the list it leaves; `none` when it does not return. -/
abbrev Continue := List Capture → Option (Bool × List Capture)

/-- Whether a constraint asks for a child; absent fields are checked before the search. -/
def Constraint.onChild : Constraint → Bool
  | .absent _ => false
  | _ => true

/-- The children at the given positions of a node, each with the position after it, up to
the first position without a child. -/
def positions (t : SyntaxTree) (id : Nat) : List Nat → List (Nat × Nat)
  | [] => []
  | i :: is =>
    match t.child? id i with
    | some child => (child, i + 1) :: positions t id is
    | none => []

/-- What pending frames leave to meet, one more for each frame. -/
def pendingWeight : List Pending → Nat
  | [] => 0
  | p :: ps => Clause.constraintWeight p.constraints + 1 + pendingWeight ps

/-- Dropping the absent fields leaves no more to meet. -/
theorem constraintWeight_filter_le (cs : List Constraint) :
    Clause.constraintWeight (cs.filter Constraint.onChild) ≤ Clause.constraintWeight cs := by
  induction cs with
  | nil => exact Nat.le_refl _
  | cons c rest ih =>
    cases c <;>
      simp only [List.filter, Constraint.onChild, Clause.constraintWeight] <;> omega

mutual

/-- Match a clause at a node after the captures `caps`, then go on with the pending
searches and `k`.  On failure the list is cut back to its length on entry. -/
def searchClause (t : SyntaxTree) (k : Continue) (c : Clause) (id : Nat)
    (pending : List Pending) (caps : List Capture) : Option (Bool × List Capture) :=
  match c with
  | .mk node children _ capture =>
    if !nodeSatisfies t node id || forbidden t id children then some (false, caps)
    else do
      let (found, caps') ← searchChildren t k (children.filter Constraint.onChild) 0 id pending
        (caps ++ (capture.map fun l => ⟨l, id⟩).toList)
      if found then some (true, caps') else some (false, caps'.take caps.length)
termination_by (c.weight + pendingWeight pending, 0)
decreasing_by
  have := constraintWeight_filter_le children
  apply Prod.Lex.left
  simp only [Clause.weight]
  omega

/-- Meet the constraints of a node from child position `cursor` on, then go on with the
pending searches, innermost first, and in the end with `k`. -/
def searchChildren (t : SyntaxTree) (k : Continue) (cs : List Constraint) (cursor id : Nat)
    (pending : List Pending) (caps : List Capture) : Option (Bool × List Capture) :=
  match cs with
  | [] =>
    match pending with
    | [] => k caps
    | p :: ps => searchChildren t k p.constraints p.cursor p.node ps caps
  | .field name c :: rest =>
    tryChildren t k c ((t.childrenByField id name).map fun child => (child, cursor)) rest id
      pending caps
  | .positional c :: rest =>
    tryChildren t k c (positions t id (List.range' cursor (t.childCount id - cursor))) rest id
      pending caps
  | .absent _ :: rest => searchChildren t k rest cursor id pending caps
termination_by (Clause.constraintWeight cs + pendingWeight pending, 0)
decreasing_by
  all_goals
    apply Prod.Lex.left
    simp only [Clause.constraintWeight, pendingWeight]
    omega

/-- Try a clause on candidate children in turn, each with the position the remaining
constraints `rest` of node `id` go on from, until the search succeeds. -/
def tryChildren (t : SyntaxTree) (k : Continue) (c : Clause) (cands : List (Nat × Nat))
    (rest : List Constraint) (id : Nat) (pending : List Pending) (caps : List Capture) :
    Option (Bool × List Capture) :=
  match cands with
  | [] => some (false, caps)
  | (child, next) :: more => do
    let (found, caps') ← searchClause t k c child (⟨rest, next, id⟩ :: pending) caps
    if found then some (true, caps') else tryChildren t k c more rest id pending caps'
termination_by (c.weight + Clause.constraintWeight rest + pendingWeight pending + 2, cands.length)
decreasing_by
  · apply Prod.Lex.left
    simp only [pendingWeight]
    omega
  · exact Prod.Lex.right _ (Nat.lt_succ_self _)

end

/-- A top-level clause at a node, as the engine matches it: a search from no captures that
ends with the test of the clause's predicates, answering the captures when it succeeds.
The outer `none` stands for a search that does not return. -/
def searchTop (t : SyntaxTree) (c : Clause) (id : Nat) : Option (Option (List Capture)) :=
  (searchClause t (fun caps => some (predicatesHold t caps c, caps)) c id [] []).map
    fun r => if r.1 then some r.2 else none

/-- The state of a walk over the matches of a subtree: the next node to visit, the node to
stop at, and the matches found at the last node visited that are not handed out yet. -/
structure Matches where
  next : Nat
  stop : Nat
  pending : List Found
  deriving Repr, DecidableEq

namespace Matches

/-- A walk over the subtree of `root`. -/
def start (t : SyntaxTree) (root : Nat) : Matches :=
  ⟨root, t.subtreeEnd root, []⟩

/-- Visit the next node: queue the matches of every clause there, and move on to the node
after it, or in non-overlapping mode, when something matched, to the end of its subtree. -/
def visit (t : SyntaxTree) (p : Compiled) (m : Matches) : Matches :=
  let found := matchesAt t p m.next
  { next := if p.mode == .nonOverlapping && !found.isEmpty then t.subtreeEnd m.next
      else m.next + 1
    stop := m.stop
    pending := found }

/-- A visit that queues no match moves on to the next node. -/
theorem visit_next_of_pending_eq_nil {t : SyntaxTree} {p : Compiled} {m : Matches}
    (h : (m.visit t p).pending = []) : (m.visit t p).next = m.next + 1 := by
  simp only [visit] at h ⊢
  simp [h]

/-- The next match and the walk after it: a queued match first, else nodes are visited until
one queues a match or the walk reaches its stop.  The loop is written out one visit deep: a
visit that queues a match hands it out at once, and one that queues none has moved on to
the next node, which is what bounds the loop. -/
def pull (t : SyntaxTree) (p : Compiled) (m : Matches) : Option Found × Matches :=
  match m.pending with
  | f :: rest => (some f, { m with pending := rest })
  | [] =>
    if m.stop ≤ m.next then (none, m)
    else
      match _h : (m.visit t p).pending with
      | f :: rest => (some f, { m.visit t p with pending := rest })
      | [] => pull t p (m.visit t p)
termination_by m.stop - m.next
decreasing_by
  rw [visit_next_of_pending_eq_nil _h]
  show m.stop - (m.next + 1) < m.stop - m.next
  omega

end Matches

end Match
end ShapeSearch
