import ShapeSearch.Syntax.Source
import ShapeSearch.Tree.Builder

/-!
# Concrete syntax trees

A parser builds a concrete tree: tokens with their byte spans, zero-width tokens
the parser inserted where one was missing, and nodes over children, each child
with the field it occupies.  A node spans from the start of its first child to the
end of its last one.

Comments are placed after parsing: each goes to the lowest node that has tokens on
both sides of it, between the children it separates, and a comment with nothing
of a node around it goes to the root.

Lowering walks the tree in pre-order and replays it as building steps, so the
arena it gives is the tree itself, node for node.
-/

namespace ShapeSearch
namespace Syntax

/-- A concrete syntax tree. -/
inductive Cst where
  | token (kind : String) (named : Bool) (start stop : Nat)
  | missing (kind : String) (named : Bool) (pos : Nat)
  | node (kind : String) (named : Bool) (start stop : Nat) (children : List (Option String × Cst))
  deriving Repr, Inhabited

namespace Cst

/-- The kind of the tree's top node. -/
def kind : Cst → String
  | token k .. | missing k .. | node k .. => k

/-- Whether the top node is named. -/
def named : Cst → Bool
  | token _ n .. | missing _ n _ | node _ n .. => n

/-- Where the tree starts. -/
def start : Cst → Nat
  | token _ _ s _ => s
  | missing _ _ p => p
  | node _ _ s _ _ => s

/-- Where the tree ends. -/
def stop : Cst → Nat
  | token _ _ _ e => e
  | missing _ _ p => p
  | node _ _ _ e _ => e

/-- A node over children, spanning them; without children it is empty at `pos`. -/
def make (kind : String) (named : Bool) (children : List (Option String × Cst)) (pos : Nat) : Cst :=
  match children.head?, children.getLast? with
  | some (_, first), some (_, last) => node kind named first.start last.stop children
  | _, _ => node kind named pos pos children

/-- A named node over children without fields. -/
def named' (kind : String) (children : List Cst) (pos : Nat) : Cst :=
  make kind true (children.map fun c => (none, c)) pos

/-- The children of a node, none for a token. -/
def children : Cst → List (Option String × Cst)
  | node _ _ _ _ cs => cs
  | _ => []

mutual

/-- Put an extra among a node's children: into the child with tokens on both of its
sides, else in order between the children. -/
def placeAmong (extra : Cst) : List (Option String × Cst) → List (Option String × Cst)
  | [] => [(none, extra)]
  | (f, c) :: rest =>
    match c with
    | node k n s e cs =>
      if s < extra.start && extra.stop ≤ e then (f, node k n s e (placeAmong extra cs)) :: rest
      else if extra.stop ≤ s then (none, extra) :: (f, node k n s e cs) :: rest
      else (f, node k n s e cs) :: placeAmong extra rest
    | other =>
      if extra.stop ≤ other.start then (none, extra) :: (f, other) :: rest
      else (f, other) :: placeAmong extra rest
decreasing_by
  all_goals
    simp only [List.cons.sizeOf_spec, Prod.mk.sizeOf_spec, Cst.node.sizeOf_spec]
    omega

end

mutual

/-- Whether a token of a tree, or a node without children, overlaps the byte range from
`a` to `b`. -/
def touches (a b : Nat) : Cst → Bool
  | token _ _ s e => s < b && a < e
  | missing .. => false
  | node _ _ s e [] => s < b && a < e
  | node _ _ _ _ (c :: cs) => touchesAny a b (c :: cs)

/-- Whether a token of some children overlaps the byte range from `a` to `b`. -/
def touchesAny (a b : Nat) : List (Option String × Cst) → Bool
  | [] => false
  | (_, c) :: rest => touches a b c || touchesAny a b rest

end

/-- Put a node after the last children of a list, inside the last child while that is a
node with children of its own: a stray token at the end of the source stays with the
innermost construct that ends before it. -/
def appendInnermost (extra : Cst) : List (Option String × Cst) → List (Option String × Cst)
  | [] => [(none, extra)]
  | [(f, node k n s e cs)] =>
    if cs.isEmpty then [(f, node k n s e cs), (none, extra)]
    else [(f, node k n s extra.stop (appendInnermost extra cs))]
  | [(f, other)] => [(f, other), (none, extra)]
  | c :: rest => c :: appendInnermost extra rest

/-- The root node of a source of a given size: it spans from its first child to the
end of the source, and holds the extras where they belong. -/
def root (kind : String) (children : List (Option String × Cst)) (extras : List Cst) (size : Nat) :
    Cst :=
  let cs := extras.foldl (fun acc x => placeAmong x acc) children
  match cs.head? with
  | some (_, first) => node kind true first.start size cs
  | none => node kind true size size cs

mutual

/-- The building steps that replay a tree in pre-order. -/
def steps (src : Source) (field : Option String) : Cst → List Builder.Step
  | token k n s e => [.leaf ⟨k, n, field, ⟨s, e, src.point s, src.point e⟩⟩]
  | missing k n p => [.openNode ⟨k, n, field, ⟨p, p, src.point p, src.point p⟩⟩, .markMissing, .close]
  | node k n s e cs =>
    .openNode ⟨k, n, field, ⟨s, e, src.point s, src.point e⟩⟩ :: stepsOf src cs ++ [.close]

/-- The building steps of a list of children. -/
def stepsOf (src : Source) : List (Option String × Cst) → List Builder.Step
  | [] => []
  | (f, c) :: rest => steps src f c ++ stepsOf src rest

end

/-- The first failure among step outcomes. -/
def firstFailure : List (Except TreeError (Option Nat)) → Option TreeError
  | [] => none
  | .error e :: _ => some e
  | .ok _ :: rest => firstFailure rest

/-- Lower a tree into the arena: the first step that fails, if one does, is the error. -/
def lower (language : String) (src : Source) (t : Cst) : Except TreeError SyntaxTree :=
  let (outcomes, tree) := SyntaxTree.build language src.bytes (steps src none t)
  match firstFailure outcomes with
  | some e => .error e
  | none => tree

end Cst

end Syntax
end ShapeSearch
