import ShapeSearch.Tree.Builder
import ShapeSearch.Proofs.Tree.Shape

/-!
# What building steps do to the arena

A builder's nodes are read as a tree (`Builder.tree`), and each building step is
described once by what it does to parent links, children lists, spans and subtree
ends:

* a successful `openNode` appends a node whose parent is the innermost open node,
  lists it last among that node's children and puts it on the stack;
* `close` fixes the innermost open node's subtree end at the current size and pops it;
* `markMissing` touches none of these.

Later proofs use these equations and never unfold the steps again.
-/

namespace ShapeSearch

namespace Builder

/-- The tree a builder holds so far. -/
def tree (b : Builder) : SyntaxTree :=
  { language := b.language, source := b.source, nodes := b.nodes, errors := b.errors }

@[simp] theorem tree_size (b : Builder) : b.tree.size = b.nodes.size := rfl

@[simp] theorem tree_source (b : Builder) : b.tree.source = b.source := rfl

theorem getD_push (a : Array Node) (x : Node) (n : Nat) :
    (a.push x).getD n default = if n = a.size then x else a.getD n default := by
  simp only [Array.getD_eq_getD_getElem?, Array.getElem?_push]
  split <;> simp

theorem getD_modify (a : Array Node) (f : Node → Node) (p n : Nat) :
    (a.modify p f).getD n default =
      if p = n ∧ n < a.size then f (a.getD n default) else a.getD n default := by
  simp only [Array.getD_eq_getD_getElem?, Array.getElem?_modify]
  by_cases h : p = n
  · subst h
    by_cases hn : p < a.size <;> simp [hn]
  · simp [h]

theorem getD_of_size_le {a : Array Node} {n : Nat} (h : a.size ≤ n) :
    a.getD n default = default := by
  simp [Array.getElem?_eq_none h]

/-- A finished tree is the builder's tree, with nothing open and at least one node. -/
theorem finish_eq_ok {b : Builder} {t : SyntaxTree} (h : b.finish = .ok t) :
    t = b.tree ∧ b.stack = [] ∧ 0 < b.nodes.size := by
  unfold finish at h
  by_cases hs : b.stack.isEmpty
  · by_cases hn : b.nodes.isEmpty
    · simp [hs, hn] at h
    · simp only [hs, hn, Bool.not_true, Bool.false_eq_true, if_false] at h
      cases h
      refine ⟨rfl, List.isEmpty_iff.mp hs, ?_⟩
      simpa [Array.isEmpty_iff_size_eq_zero, Nat.pos_iff_ne_zero] using hn
  · simp [hs] at h

section Open

variable {b : Builder} {spec : NodeSpec}

/-- The node a successful opening appends. -/
theorem openNode_getD (h : b.openProblem spec = none) (n : Nat) :
    (b.openNode spec).1.nodes.getD n default =
      if n = b.nodes.size then
        { kind := spec.kind, named := spec.named, field := spec.field, span := spec.span,
          parent := b.stack.head?, children := #[], subtreeEnd := b.nodes.size + 1,
          missing := false }
      else if b.stack.head? = some n ∧ n < b.nodes.size then
        { b.nodes.getD n default with
          children := (b.nodes.getD n default).children.push b.nodes.size }
      else b.nodes.getD n default := by
  simp only [openNode, h]
  cases hs : b.stack with
  | nil =>
      simp only [getD_push, List.head?_nil, reduceCtorEq, false_and, if_false]
  | cons p rest =>
      simp only [getD_push, getD_modify, Array.size_modify, List.head?_cons, Option.some.injEq]

theorem openNode_size (h : b.openProblem spec = none) :
    (b.openNode spec).1.nodes.size = b.nodes.size + 1 := by
  simp only [openNode, h]
  cases b.stack <;> simp

theorem openNode_stack (h : b.openProblem spec = none) :
    (b.openNode spec).1.stack = b.nodes.size :: b.stack := by
  simp [openNode, h]

theorem openNode_source (h : b.openProblem spec = none) :
    (b.openNode spec).1.source = b.source := by
  simp [openNode, h]

theorem openNode_result (h : b.openProblem spec = none) :
    (b.openNode spec).2 = .ok b.nodes.size := by
  simp [openNode, h]

theorem openNode_parentOf (h : b.openProblem spec = none) (n : Nat) :
    (b.openNode spec).1.tree.parentOf n =
      if n = b.nodes.size then b.stack.head? else b.tree.parentOf n := by
  simp only [SyntaxTree.parentOf, SyntaxTree.nodeAt, tree, openNode_getD h]
  split_ifs <;> rfl

theorem openNode_spanOf (h : b.openProblem spec = none) (n : Nat) :
    (b.openNode spec).1.tree.spanOf n =
      if n = b.nodes.size then spec.span else b.tree.spanOf n := by
  simp only [SyntaxTree.spanOf, SyntaxTree.nodeAt, tree, openNode_getD h]
  split_ifs <;> rfl

theorem openNode_subtreeEnd (h : b.openProblem spec = none) (n : Nat) :
    (b.openNode spec).1.tree.subtreeEnd n =
      if n = b.nodes.size then b.nodes.size + 1 else b.tree.subtreeEnd n := by
  simp only [SyntaxTree.subtreeEnd, SyntaxTree.nodeAt, tree, openNode_getD h]
  split_ifs <;> rfl

/-- The new node is listed last among the children of the innermost open node. -/
theorem openNode_children (h : b.openProblem spec = none) (n : Nat) :
    (b.openNode spec).1.tree.children n =
      b.tree.children n ++
        if b.stack.head? = some n ∧ n < b.nodes.size then [b.nodes.size] else [] := by
  simp only [SyntaxTree.children, SyntaxTree.nodeAt, tree, openNode_getD h]
  by_cases hn : n = b.nodes.size
  · subst hn
    simp only [if_true, getD_of_size_le (Nat.le_refl _), Nat.lt_irrefl, and_false, if_false,
      List.append_nil]
    rfl
  · simp only [hn, if_false]
    split_ifs <;> simp

/-- What a successful opening was checked for. -/
theorem openProblem_eq_none (h : b.openProblem spec = none) :
    spec.span.startByte ≤ spec.span.endByte ∧ spec.span.endByte ≤ b.source.size ∧
      match b.stack with
      | p :: _ =>
        (b.tree.spanOf p).contains spec.span = true ∧
          ∀ l, (b.tree.children p).getLast? = some l →
            (b.tree.spanOf l).endByte ≤ spec.span.startByte
      | [] => b.nodes.size = 0 := by
  unfold openProblem at h
  dsimp only at h
  split at h
  · cases h
  · rename_i hs
    simp only [Bool.or_eq_true, decide_eq_true_eq, not_or, Nat.not_lt] at hs
    refine ⟨hs.1, hs.2, ?_⟩
    cases hst : b.stack with
    | cons p rest =>
      rw [hst] at h
      dsimp only at h ⊢
      split at h
      · cases h
      · rename_i hc
        simp only [Bool.not_eq_true', Bool.not_eq_false] at hc
        refine ⟨hc, fun l hl => ?_⟩
        have hback : (b.nodes.getD p default).children.back? = some l := by
          simpa [SyntaxTree.children, SyntaxTree.nodeAt, tree] using hl
        rw [hback] at h
        dsimp only at h
        split at h
        · cases h
        · rename_i hov
          exact Nat.le_of_not_lt hov
    | nil =>
      rw [hst] at h
      dsimp only at h ⊢
      split at h
      · rename_i he
        simpa [Array.isEmpty_iff_size_eq_zero] using he
      · cases h

theorem openNode_of_problem {e : TreeError} (h : b.openProblem spec = some e) :
    b.openNode spec = (b, .error e) := by
  simp [openNode, h]

theorem leaf_of_ok (h : b.openProblem spec = none) :
    (b.leaf spec).1 = ((b.openNode spec).1.close).1 := by
  have hr := openNode_result h
  unfold leaf
  split
  · rename_i b' id hb
    rw [hb]
  · rename_i b' e hb
    rw [hb] at hr
    cases hr

theorem leaf_of_problem {e : TreeError} (h : b.openProblem spec = some e) :
    (b.leaf spec).1 = b := by
  simp [leaf, openNode_of_problem h]

end Open

section Close

variable {b : Builder} {p : Nat} {rest : List Nat}

theorem close_getD (hs : b.stack = p :: rest) (n : Nat) :
    (b.close).1.nodes.getD n default =
      if p = n ∧ n < b.nodes.size then
        { b.nodes.getD n default with subtreeEnd := b.nodes.size }
      else b.nodes.getD n default := by
  simp only [close, hs]
  rw [getD_modify]

theorem close_eq (hs : b.stack = p :: rest) :
    (b.close).2 = .ok () ∧ (b.close).1.stack = rest ∧
      (b.close).1.nodes.size = b.nodes.size ∧ (b.close).1.source = b.source := by
  simp [close, hs]

theorem close_parentOf (hs : b.stack = p :: rest) :
    (b.close).1.tree.parentOf = b.tree.parentOf := by
  funext n
  simp only [SyntaxTree.parentOf, SyntaxTree.nodeAt, tree, close_getD hs]
  split_ifs <;> rfl

theorem close_spanOf (hs : b.stack = p :: rest) :
    (b.close).1.tree.spanOf = b.tree.spanOf := by
  funext n
  simp only [SyntaxTree.spanOf, SyntaxTree.nodeAt, tree, close_getD hs]
  split_ifs <;> rfl

theorem close_children (hs : b.stack = p :: rest) :
    (b.close).1.tree.children = b.tree.children := by
  funext n
  simp only [SyntaxTree.children, SyntaxTree.nodeAt, tree, close_getD hs]
  split_ifs <;> rfl

theorem close_subtreeEnd (hs : b.stack = p :: rest) (n : Nat) :
    (b.close).1.tree.subtreeEnd n =
      if p = n ∧ n < b.nodes.size then b.nodes.size else b.tree.subtreeEnd n := by
  simp only [SyntaxTree.subtreeEnd, SyntaxTree.nodeAt, tree, close_getD hs]
  split_ifs <;> rfl

theorem close_of_stack_nil (hs : b.stack = []) : (b.close).1 = b := by
  simp [close, hs]

end Close

section Missing

variable {b : Builder} {p : Nat} {rest : List Nat}

theorem markMissing_getD (hs : b.stack = p :: rest) (n : Nat) :
    (b.markMissing).1.nodes.getD n default =
      if p = n ∧ n < b.nodes.size then { b.nodes.getD n default with missing := true }
      else b.nodes.getD n default := by
  simp only [markMissing, hs]
  rw [getD_modify]

/-- Marking a node missing changes no link, span or range, and keeps the stack. -/
theorem markMissing_frame (hs : b.stack = p :: rest) :
    (b.markMissing).1.tree.parentOf = b.tree.parentOf ∧
      (b.markMissing).1.tree.children = b.tree.children ∧
      (b.markMissing).1.tree.spanOf = b.tree.spanOf ∧
      (b.markMissing).1.tree.subtreeEnd = b.tree.subtreeEnd ∧
      (b.markMissing).1.stack = b.stack ∧ (b.markMissing).1.nodes.size = b.nodes.size ∧
      (b.markMissing).1.source = b.source := by
  refine ⟨?_, ?_, ?_, ?_, ?_, ?_, ?_⟩
  all_goals first
    | funext n
      simp only [SyntaxTree.parentOf, SyntaxTree.children, SyntaxTree.spanOf,
        SyntaxTree.subtreeEnd, SyntaxTree.nodeAt, tree, markMissing_getD hs]
      split_ifs <;> rfl
    | simp [markMissing, hs]

theorem markMissing_of_stack_nil (hs : b.stack = []) : (b.markMissing).1 = b := by
  simp [markMissing, hs]

end Missing

end Builder

end ShapeSearch
