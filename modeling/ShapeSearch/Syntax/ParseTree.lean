import ShapeSearch.Tree.Builder

/-!
# Lowering a parser library's tree through a cursor

A parser library hands over its tree as nodes that each carry a kind, whether the node
is named, its span and whether the parser inserted it, with children each under the
field it occupies.  The tree is read through a cursor that starts at the root and can
go to the first child, to the next sibling and back to the parent, each move reporting
whether it was possible.  Here the cursor is a zipper over the tree: the node it is on,
that node's field, and for each level above it the parent's own data and the siblings
on either side.

Lowering copies the tree into the arena in pre-order with two nested loops.  The outer
loop opens the node under the cursor, marks it missing if the parser inserted it, and
goes down to its first child; a node without children is closed, and the inner loop
moves on to the next sibling, or climbs to the parent and closes it, until it cannot
climb above the root and the tree is finished.  The first building step that fails is
the lowering's error.

Each turn of the loops lowers a measure of the cursor: three for each node not yet
reached, one for each level above the cursor, and one while climbing.
-/

namespace ShapeSearch

namespace Builder

/-- A step's builder if the step succeeded, else the step's error. -/
def result {α : Type} (r : Builder × Except TreeError α) : Except TreeError Builder :=
  r.2.map fun _ => r.1

/-- Mark the innermost open node missing when the parser inserted it. -/
def markMissingIf (missing : Bool) (b : Builder) : Except TreeError Builder :=
  if missing then result b.markMissing else pure b

end Builder

/-- A parse tree as a parser library hands it over. -/
inductive ParseTree where
  | node (kind : String) (named : Bool) (span : Span) (missing : Bool)
      (children : List (Option String × ParseTree))
  deriving Repr, Inhabited

namespace ParseTree

/-- The kind of the top node. -/
def kind : ParseTree → String
  | node k .. => k

/-- Whether the top node is named. -/
def named : ParseTree → Bool
  | node _ n .. => n

/-- The span of the top node. -/
def span : ParseTree → Span
  | node _ _ s .. => s

/-- Whether the parser inserted the top node. -/
def missing : ParseTree → Bool
  | node _ _ _ m _ => m

/-- The children of the top node, each under its field. -/
def children : ParseTree → List (Option String × ParseTree)
  | node _ _ _ _ cs => cs

mutual

/-- The number of nodes of a tree. -/
def size : ParseTree → Nat
  | node _ _ _ _ cs => listSize cs + 1

/-- The number of nodes of a list of trees. -/
def listSize : List (Option String × ParseTree) → Nat
  | [] => 0
  | (_, c) :: rest => c.size + listSize rest

end

@[simp] theorem size_node (k : String) (n : Bool) (s : Span) (m : Bool)
    (cs : List (Option String × ParseTree)) : (node k n s m cs).size = listSize cs + 1 := by
  simp [size]

@[simp] theorem listSize_nil : listSize [] = 0 := by
  simp [listSize]

@[simp] theorem listSize_cons (f : Option String) (c : ParseTree)
    (rest : List (Option String × ParseTree)) :
    listSize ((f, c) :: rest) = c.size + listSize rest := by
  simp [listSize]

theorem size_pos (t : ParseTree) : 0 < t.size := by
  cases t
  simp

theorem listSize_append (as bs : List (Option String × ParseTree)) :
    listSize (as ++ bs) = listSize as + listSize bs := by
  induction as with
  | nil => simp
  | cons a rest ih =>
      obtain ⟨f, c⟩ := a
      simp [ih]
      omega

/-- One level above a cursor: the parent's own data and field, and the siblings of the
node below, those before it nearest first. -/
structure Frame where
  kind : String
  named : Bool
  span : Span
  missing : Bool
  field : Option String
  before : List (Option String × ParseTree)
  after : List (Option String × ParseTree)
  deriving Inhabited

/-- A cursor: the node it is on, the field of that node, and the levels up to the root. -/
structure Cursor where
  node : ParseTree
  field : Option String
  path : List Frame
  deriving Inhabited

namespace Cursor

/-- A cursor on the root of a tree; the root occupies no field. -/
def ofRoot (t : ParseTree) : Cursor :=
  ⟨t, none, []⟩

/-- Go to the first child, if there is one. -/
def gotoFirstChild (c : Cursor) : Option Cursor :=
  match c.node with
  | .node k n s m ((f, x) :: rest) => some ⟨x, f, ⟨k, n, s, m, c.field, [], rest⟩ :: c.path⟩
  | .node _ _ _ _ [] => none

/-- Go to the next sibling, if there is one. -/
def gotoNextSibling (c : Cursor) : Option Cursor :=
  match c.path with
  | fr :: up =>
    match fr.after with
    | (f, x) :: rest =>
      some ⟨x, f, { fr with before := (c.field, c.node) :: fr.before, after := rest } :: up⟩
    | [] => none
  | [] => none

/-- Go to the parent, if there is one. -/
def gotoParent (c : Cursor) : Option Cursor :=
  match c.path with
  | fr :: up =>
    some ⟨.node fr.kind fr.named fr.span fr.missing
      (fr.before.reverse ++ (c.field, c.node) :: fr.after), fr.field, up⟩
  | [] => none

/-- The field of the node the cursor is on. -/
def fieldName (c : Cursor) : Option String :=
  c.field

/-- The nodes after the cursor's subtree that are still to be reached: the later siblings
of the cursor's node and of each node above it. -/
def rest (c : Cursor) : Nat :=
  c.path.foldr (fun fr n => listSize fr.after + n) 0

/-- Going down lowers the measure: the first child's subtree and its later siblings are
the node's subtree less the node, and one level is added. -/
theorem gotoFirstChild_measure {c c' : Cursor} (h : c.gotoFirstChild = some c') :
    3 * (c'.node.size + c'.rest) + c'.path.length + 2 ≤
      3 * (c.node.size + c.rest) + c.path.length := by
  unfold gotoFirstChild at h
  split at h
  · rename_i k n s m f x cs hc
    cases h
    simp only [rest, hc, size_node, listSize_cons, List.foldr_cons, List.length_cons]
    omega
  · cases h

/-- Moving to the next sibling reaches a node that was still to be reached. -/
theorem gotoNextSibling_measure {c c' : Cursor} (h : c.gotoNextSibling = some c') :
    3 * (c'.node.size + c'.rest) + c'.path.length = 3 * c.rest + c.path.length := by
  unfold gotoNextSibling at h
  split at h
  · rename_i fr up hp
    split at h
    · rename_i f x more ha
      cases h
      simp only [rest, hp, ha, List.foldr_cons, listSize_cons, List.length_cons]
      omega
    · cases h
  · cases h

/-- Climbing from a last child leaves a level and reaches no new node. -/
theorem gotoParent_measure {c c' : Cursor} (hs : c.gotoNextSibling = none)
    (h : c.gotoParent = some c') : c'.rest = c.rest ∧ c'.path.length + 1 = c.path.length := by
  unfold gotoParent at h
  split at h
  · rename_i fr up hp
    cases h
    have ha : fr.after = [] := by
      unfold gotoNextSibling at hs
      rw [hp] at hs
      cases hfa : fr.after with
      | nil => rfl
      | cons a more =>
          obtain ⟨f, x⟩ := a
          simp [hfa] at hs
    simp [rest, hp, ha]
  · cases h

end Cursor

-- the moves' equations are read only by the termination proofs
set_option linter.unusedVariables false in
mutual

/-- The outer loop: open the node under the cursor, mark it missing if the parser
inserted it, then go down to its first child, or close it and move on. -/
def visit (b : Builder) (c : Cursor) : Except TreeError SyntaxTree := do
  let b ← Builder.result (b.openNode ⟨c.node.kind, c.node.named, c.fieldName, c.node.span⟩)
  let b ← b.markMissingIf c.node.missing
  match h : c.gotoFirstChild with
  | some c' => visit b c'
  | none =>
    let b ← Builder.result b.close
    climb b c
termination_by 3 * (c.node.size + c.rest) + c.path.length
decreasing_by
  · have := Cursor.gotoFirstChild_measure h
    omega
  · have := size_pos c.node
    omega

/-- The inner loop: move to the next sibling and visit it, or climb to the parent and
close it, or finish the tree when the cursor is on the root. -/
def climb (b : Builder) (c : Cursor) : Except TreeError SyntaxTree :=
  match hs : c.gotoNextSibling with
  | some c' => visit b c'
  | none =>
    match hp : c.gotoParent with
    | none => b.finish
    | some c' => do
      let b ← Builder.result b.close
      climb b c'
termination_by 3 * c.rest + c.path.length + 1
decreasing_by
  · have := Cursor.gotoNextSibling_measure hs
    omega
  · have := Cursor.gotoParent_measure hs hp
    omega

end

/-- Lower a tree into the arena over a source, walking it with a cursor from the root. -/
def lower (t : ParseTree) (language : String) (source : ByteArray) :
    Except TreeError SyntaxTree :=
  visit (Builder.new language source) (Cursor.ofRoot t)

end ParseTree

end ShapeSearch
