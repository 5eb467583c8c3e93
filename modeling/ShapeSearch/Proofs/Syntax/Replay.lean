import ShapeSearch.Syntax.ParseTree
import ShapeSearch.Proofs.Tree.Building

/-!
# Replaying a parse tree into the arena

`ParseTree.replay` builds a tree in pre-order, stopping at the first building step that
fails: open the node under its field, mark it missing if the parser inserted it, replay
its children, close it.  What it builds is described here without the builder:

* `ParseTree.fits`: every node's span passes the checks of opening it: ordered and
  within the source, within the parent's span, and starting no earlier than the end of
  the previous sibling;
* `ParseTree.arena`: the nodes in pre-order, each with its kind, name flag, field, span
  and missing flag, its parent's id, its children's ids and the end of its subtree's ids;
* `ParseTree.sites`: the error sites in pre-order, an error site for each named `ERROR`
  node and then a missing site for each missing node.

`replay_new` says that replaying from an empty builder succeeds exactly when the tree
fits, and then holds the arena and the sites.  It rests on `replay_toOption` and
`replayAll_toOption`, proved together by induction on the tree: with the parent open on
top of the stack, replaying subtrees either fails, exactly when one of their spans does
not fit, or appends their nodes and sites and lists them as the parent's children
(`Builder.afterChildren`).
-/

namespace ShapeSearch

namespace Node

/-- A node with more children listed after its own. -/
def withChildren (ids : List Nat) (n : Node) : Node :=
  { n with children := n.children ++ ids.toArray }

theorem withChildren_nil (n : Node) : n.withChildren [] = n := by
  simp [withChildren]

theorem withChildren_singleton (i : Nat) :
    Node.withChildren [i] = fun n => { n with children := n.children.push i } := by
  funext n
  simp [withChildren]

theorem withChildren_append (as bs : List Nat) (n : Node) :
    (n.withChildren as).withChildren bs = n.withChildren (as ++ bs) := by
  simp [withChildren, Array.append_assoc, List.append_toArray]

end Node

namespace Builder

/-- The end of the last child listed so far under a node: the next child may not start
before it. -/
def lastChildEnd (b : Builder) (p : Nat) : Option Nat :=
  (b.nodes.getD p default).children.back?.map fun l => (b.nodes.getD l default).span.endByte

end Builder

namespace ParseTree

mutual

/-- Replay a tree as building steps in pre-order, stopping at the first that fails: open
the node under its field, mark it missing if it is, replay its children, close it. -/
def replay (b : Builder) (field : Option String) : ParseTree → Except TreeError Builder
  | node k n s m cs => do
    let b ← Builder.result (b.openNode ⟨k, n, field, s⟩)
    let b ← b.markMissingIf m
    let b ← replayAll b cs
    Builder.result b.close

/-- Replay a list of trees in turn. -/
def replayAll (b : Builder) : List (Option String × ParseTree) → Except TreeError Builder
  | [] => pure b
  | (f, c) :: rest => do
    let b ← c.replay b f
    replayAll b rest

end

theorem replayAll_cons (b : Builder) (f : Option String) (c : ParseTree)
    (rest : List (Option String × ParseTree)) :
    replayAll b ((f, c) :: rest) = c.replay b f >>= fun b' => replayAll b' rest := by
  simp [replayAll]

/-- Whether a span passes the checks of opening a node: ordered and within the source,
within the parent's span, and starting no earlier than the previous sibling's end. -/
def spanFits (size : Nat) (parent : Option Span) (prev : Option Nat) (s : Span) : Bool :=
  decide (s.startByte ≤ s.endByte) && decide (s.endByte ≤ size) &&
    parent.all (fun p => p.contains s) && prev.all fun e => decide (e ≤ s.startByte)

mutual

/-- Whether the spans of a tree pass the checks of opening its nodes, under a parent with
a span and after a previous sibling with an end, if there are. -/
def fitsUnder (size : Nat) (parent : Option Span) (prev : Option Nat) : ParseTree → Bool
  | node _ _ s _ cs => spanFits size parent prev s && fitsAmong size s none cs

/-- Whether the spans of trees opened in turn under a parent pass the checks. -/
def fitsAmong (size : Nat) (parent : Span) (prev : Option Nat) :
    List (Option String × ParseTree) → Bool
  | [] => true
  | (_, c) :: rest =>
    c.fitsUnder size (some parent) prev && fitsAmong size parent (some c.span.endByte) rest

end

/-- Whether every node's span passes the checks of opening it, the root's with no parent
and no previous sibling. -/
def fits (t : ParseTree) (size : Nat) : Bool :=
  t.fitsUnder size none none

/-- The ids of subtrees laid out one after another from `id`. -/
def childIds (id : Nat) : List (Option String × ParseTree) → List Nat
  | [] => []
  | (_, c) :: rest => id :: childIds (id + c.size) rest

mutual

/-- A tree's nodes in pre-order as the arena holds them, the top one at `id` under
`parent` in `field`: its kind, name flag, span and missing flag, its children's ids and
the end of its subtree's ids; then its children's subtrees in turn. -/
def arena (field : Option String) (parent : Option Nat) (id : Nat) : ParseTree → List Node
  | node k n s m cs =>
    { kind := k, named := n, field, span := s, parent,
      children := (childIds (id + 1) cs).toArray, subtreeEnd := id + 1 + listSize cs,
      missing := m } :: arenaOf id (id + 1) cs

/-- The nodes of subtrees under `parent`, laid out one after another from `id`. -/
def arenaOf (parent : Nat) (id : Nat) : List (Option String × ParseTree) → List Node
  | [] => []
  | (f, c) :: rest => c.arena f (some parent) id ++ arenaOf parent (id + c.size) rest

end

/-- The error sites of a node at `id`: an error site if it is a named `ERROR` node, then
a missing site if the parser inserted it. -/
def ownSites (id : Nat) (kind : String) (named : Bool) (span : Span) (missing : Bool) :
    List ErrorSite :=
  (if named && kind == "ERROR" then [⟨.error, id, span⟩] else []) ++
    (if missing then [⟨.missing, id, span⟩] else [])

mutual

/-- The error sites of a tree whose top node is at `id`, in pre-order. -/
def sites (id : Nat) : ParseTree → List ErrorSite
  | node k n s m cs => ownSites id k n s m ++ sitesOf (id + 1) cs

/-- The error sites of subtrees laid out one after another from `id`. -/
def sitesOf (id : Nat) : List (Option String × ParseTree) → List ErrorSite
  | [] => []
  | (_, c) :: rest => c.sites id ++ sitesOf (id + c.size) rest

end

/-- The tree that lowering is to give: the nodes in pre-order and their error sites. -/
def arenaTree (t : ParseTree) (language : String) (source : ByteArray) : SyntaxTree :=
  { language, source, nodes := (t.arena none none 0).toArray, errors := (t.sites 0).toArray }

theorem childIds_append (id : Nat) (as bs : List (Option String × ParseTree)) :
    childIds id (as ++ bs) = childIds id as ++ childIds (id + listSize as) bs := by
  induction as generalizing id with
  | nil => simp [childIds]
  | cons a rest ih =>
      obtain ⟨f, c⟩ := a
      simp only [List.cons_append, childIds, ih, listSize_cons, List.cons_append, Nat.add_assoc]

mutual

theorem length_arena : ∀ (t : ParseTree) (f : Option String) (parent : Option Nat) (id : Nat),
    (t.arena f parent id).length = t.size
  | node k n s m cs, f, parent, id => by
    simp [arena, length_arenaOf cs id (id + 1)]

theorem length_arenaOf : ∀ (cs : List (Option String × ParseTree)) (parent id : Nat),
    (arenaOf parent id cs).length = listSize cs
  | [], parent, id => by simp [arenaOf]
  | (f, c) :: rest, parent, id => by
    simp [arenaOf, length_arena c f (some parent) id, length_arenaOf rest parent (id + c.size)]

end

theorem arenaOf_append (parent id : Nat) (as bs : List (Option String × ParseTree)) :
    arenaOf parent id (as ++ bs) = arenaOf parent id as ++ arenaOf parent (id + listSize as) bs := by
  induction as generalizing id with
  | nil => simp [arenaOf]
  | cons a rest ih =>
      obtain ⟨f, c⟩ := a
      simp only [List.cons_append, arenaOf, ih, listSize_cons, List.append_assoc, Nat.add_assoc]

theorem sitesOf_append (id : Nat) (as bs : List (Option String × ParseTree)) :
    sitesOf id (as ++ bs) = sitesOf id as ++ sitesOf (id + listSize as) bs := by
  induction as generalizing id with
  | nil => simp [sitesOf]
  | cons a rest ih =>
      obtain ⟨f, c⟩ := a
      simp only [List.cons_append, sitesOf, ih, listSize_cons, List.append_assoc, Nat.add_assoc]

end ParseTree

namespace Builder

open ParseTree

/-- A builder after subtrees under the open node `p`: their nodes appended and listed as
`p`'s children, their sites appended. -/
def afterChildren (b : Builder) (p : Nat) (cs : List (Option String × ParseTree)) : Builder :=
  { b with
    nodes := b.nodes.modify p (Node.withChildren (childIds b.nodes.size cs)) ++
      (arenaOf p b.nodes.size cs).toArray
    errors := b.errors ++ (sitesOf b.nodes.size cs).toArray }

section Arrays

theorem modify_append_of_lt {a c : Array Node} {p : Nat} (f : Node → Node) (h : p < a.size) :
    (a ++ c).modify p f = a.modify p f ++ c := by
  apply Array.ext_getElem?
  intro j
  simp only [Array.getElem?_modify, Array.getElem?_append, Array.size_modify]
  by_cases hj : j < a.size
  · simp [hj]
  · have hpj : p ≠ j := by omega
    simp [hj, hpj]

theorem modify_modify (a : Array Node) (p : Nat) (f g : Node → Node) :
    (a.modify p f).modify p g = a.modify p (g ∘ f) := by
  apply Array.ext_getElem?
  intro j
  simp only [Array.getElem?_modify]
  by_cases hpj : p = j
  · subst hpj
    cases a[p]? <;> simp
  · simp [hpj]

theorem modify_push_size (a : Array Node) (x : Node) (f : Node → Node) :
    (a.push x).modify a.size f = a.push (f x) := by
  apply Array.ext_getElem?
  intro j
  simp only [Array.getElem?_modify, Array.getElem?_push]
  by_cases hj : j = a.size
  · subst hj
    simp
  · simp [hj, Ne.symm hj]

theorem modify_withChildren_nil (a : Array Node) (p : Nat) :
    a.modify p (Node.withChildren []) = a := by
  apply Array.ext_getElem?
  intro j
  simp only [Array.getElem?_modify]
  by_cases hpj : p = j
  · subst hpj
    cases a[p]? <;> simp [Node.withChildren_nil]
  · simp [hpj]

end Arrays

section AfterChildren

variable {b : Builder} {p : Nat}

@[simp] theorem afterChildren_stack (cs : List (Option String × ParseTree)) :
    (b.afterChildren p cs).stack = b.stack := rfl

@[simp] theorem afterChildren_source (cs : List (Option String × ParseTree)) :
    (b.afterChildren p cs).source = b.source := rfl

@[simp] theorem afterChildren_language (cs : List (Option String × ParseTree)) :
    (b.afterChildren p cs).language = b.language := rfl

theorem afterChildren_size (cs : List (Option String × ParseTree)) :
    (b.afterChildren p cs).nodes.size = b.nodes.size + listSize cs := by
  simp [afterChildren, length_arenaOf]

theorem afterChildren_nil : b.afterChildren p [] = b := by
  simp [afterChildren, childIds, arenaOf, sitesOf, modify_withChildren_nil]

/-- Subtrees replayed in two runs are the subtrees of both runs. -/
theorem afterChildren_append (hp : p < b.nodes.size) (as bs : List (Option String × ParseTree)) :
    (b.afterChildren p as).afterChildren p bs = b.afterChildren p (as ++ bs) := by
  simp only [afterChildren, childIds_append, arenaOf_append, sitesOf_append,
    List.append_toArray, Array.append_assoc, Array.size_append, Array.size_modify,
    List.size_toArray, length_arenaOf]
  rw [modify_append_of_lt _ (by simpa using hp), modify_modify]
  simp [Function.comp_def, Node.withChildren_append, Array.append_assoc]

/-- The parent keeps its span and lists the subtrees' top nodes after its children. -/
theorem getD_afterChildren_parent (hp : p < b.nodes.size) (cs : List (Option String × ParseTree)) :
    (b.afterChildren p cs).nodes.getD p default =
      (b.nodes.getD p default).withChildren (childIds b.nodes.size cs) := by
  simp only [afterChildren, Array.getD_eq_getD_getElem?, Array.getElem?_append,
    Array.size_modify, hp, if_true, Array.getElem?_modify]
  simp [Array.getElem?_eq_getElem hp]

/-- After one subtree, the last child of the parent is the subtree's top node, which ends
where the subtree's span ends. -/
theorem lastChildEnd_afterChildren (hp : p < b.nodes.size) (f : Option String) (t : ParseTree) :
    (b.afterChildren p [(f, t)]).lastChildEnd p = some t.span.endByte := by
  have htop : ((b.afterChildren p [(f, t)]).nodes.getD b.nodes.size default).span = t.span := by
    cases t
    simp [afterChildren, Array.getD_eq_getD_getElem?, arenaOf, arena, span]
  have hback : ((b.afterChildren p [(f, t)]).nodes.getD p default).children.back? =
      some b.nodes.size := by
    simp [getD_afterChildren_parent hp, Node.withChildren, childIds]
  simp only [lastChildEnd, hback, Option.map_some, htop]

end AfterChildren

section Steps

variable {b : Builder}

theorem ok_bind {α β : Type} (a : α) (g : α → Except TreeError β) :
    (Except.ok a >>= g) = g a := rfl

theorem error_bind {α β : Type} (e : TreeError) (g : α → Except TreeError β) :
    (Except.error e >>= g : Except TreeError β) = .error e := rfl

theorem toOption_bind {α β : Type} (x : Except TreeError α) (g : α → Except TreeError β) :
    (x >>= g).toOption = x.toOption.bind fun a => (g a).toOption := by
  cases x <;> rfl

theorem eq_ok_of_toOption {α : Type} {x : Except TreeError α} {a : α}
    (h : x.toOption = some a) : x = .ok a := by
  cases x <;> simp_all [Except.toOption]

theorem exists_error_of_toOption {α : Type} {x : Except TreeError α} (h : x.toOption = none) :
    ∃ e, x = .error e := by
  cases x with
  | error e => exact ⟨e, rfl⟩
  | ok a => cases h

/-- What opening checks, under an open parent: `spanFits` with the parent's span and the
end of its last child. -/
theorem openProblem_eq_none_iff {spec : NodeSpec} {p : Nat} {rest : List Nat}
    (hs : b.stack = p :: rest) :
    b.openProblem spec = none ↔
      spanFits b.source.size (some (b.nodes.getD p default).span) (b.lastChildEnd p)
        spec.span = true := by
  unfold openProblem
  simp only [hs, lastChildEnd]
  cases hback : (b.nodes.getD p default).children.back? with
  | none =>
      simp only [spanFits, Span.contains, Option.map_none, Option.all_none, Option.all_some]
      split_ifs <;> simp_all <;> omega
  | some l =>
      simp only [spanFits, Span.contains, Option.map_some, Option.all_some]
      split_ifs <;> simp_all <;> omega

/-- What opening the root checks: `spanFits` with no parent and no previous sibling. -/
theorem openProblem_eq_none_iff_root {spec : NodeSpec} (hs : b.stack = [])
    (hn : b.nodes.size = 0) :
    b.openProblem spec = none ↔ spanFits b.source.size none none spec.span = true := by
  unfold openProblem
  simp only [hs, spanFits, Array.size_eq_zero_iff.mp hn, Array.isEmpty_empty, Option.all_none]
  split_ifs <;> simp_all
  omega

theorem result_openNode_of_problem {spec : NodeSpec} {e : TreeError}
    (h : b.openProblem spec = some e) : result (b.openNode spec) = .error e := by
  simp [result, openNode_of_problem h, Except.map]

/-- Opening under an open parent appends the node, lists it last among the parent's
children, puts it on the stack and records its error site if it has one. -/
theorem result_openNode {spec : NodeSpec} {p : Nat} {rest : List Nat} (hs : b.stack = p :: rest)
    (h : b.openProblem spec = none) :
    result (b.openNode spec) = .ok { b with
      nodes := (b.nodes.modify p (Node.withChildren [b.nodes.size])).push
        { kind := spec.kind, named := spec.named, field := spec.field, span := spec.span,
          parent := some p, children := #[], subtreeEnd := b.nodes.size + 1, missing := false }
      stack := b.nodes.size :: b.stack
      errors := b.errors ++ (ownSites b.nodes.size spec.kind spec.named spec.span false).toArray } := by
  cases hc : spec.named && spec.kind == "ERROR" <;>
    simp [result, openNode, h, hs, Node.withChildren_singleton, ownSites, hc, Except.map]

/-- Opening the root appends it alone. -/
theorem result_openNode_root {spec : NodeSpec} (hs : b.stack = []) (h : b.openProblem spec = none) :
    result (b.openNode spec) = .ok { b with
      nodes := b.nodes.push
        { kind := spec.kind, named := spec.named, field := spec.field, span := spec.span,
          parent := none, children := #[], subtreeEnd := b.nodes.size + 1, missing := false }
      stack := [b.nodes.size]
      errors := b.errors ++ (ownSites b.nodes.size spec.kind spec.named spec.span false).toArray } := by
  cases hc : spec.named && spec.kind == "ERROR" <;>
    simp [result, openNode, h, hs, ownSites, hc, Except.map]

/-- Marking the node just opened, when the parser inserted it, sets its flag and records
its missing site. -/
theorem markMissingIf_opened (b : Builder) (A : Array Node) (x : Node) (i : Nat)
    (st : List Nat) (es : Array ErrorSite) (m : Bool) (hid : i = A.size)
    (hmissing : x.missing = false) :
    ({ b with nodes := A.push x, stack := i :: st, errors := es } : Builder).markMissingIf m =
      .ok { b with
        nodes := A.push ({ x with missing := m } : Node)
        stack := i :: st
        errors := es ++ (if m then [⟨.missing, i, x.span⟩] else []).toArray } := by
  subst hid
  cases m with
  | false =>
      have hsame : { x with missing := false } = x := by
        cases x
        simp_all
      simp only [markMissingIf, Bool.false_eq_true, if_false, hsame]
      rfl
  | true =>
      simp [markMissingIf, result, markMissing, modify_push_size, Except.map]

theorem result_close {q : Nat} {rest : List Nat} (hs : b.stack = q :: rest) :
    result b.close = .ok { b with
      nodes := b.nodes.modify q (fun n => { n with subtreeEnd := b.nodes.size }), stack := rest } := by
  simp [result, close, hs, Except.map]

/-- After a node is opened (and marked), replaying its children and closing it gives the
node its children's ids and its subtree's end, after which come the children's nodes. -/
theorem replayAll_close (b : Builder) (A : Array Node) (x : Node) (i : Nat) (st : List Nat)
    (es : Array ErrorSite) (cs : List (Option String × ParseTree)) (hsize : i = A.size)
    (hchildren : x.children = #[])
    (hcs : (replayAll { b with nodes := A.push x, stack := i :: st, errors := es } cs).toOption =
      if fitsAmong b.source.size
          (({ b with nodes := A.push x, stack := i :: st, errors := es } : Builder).nodes.getD i
            default).span
          (({ b with nodes := A.push x, stack := i :: st, errors := es } : Builder).lastChildEnd i)
          cs then
        some (({ b with nodes := A.push x, stack := i :: st, errors := es } : Builder).afterChildren
          i cs)
      else none) :
    (replayAll { b with nodes := A.push x, stack := i :: st, errors := es } cs >>= fun b' =>
        result b'.close).toOption =
      if fitsAmong b.source.size x.span none cs then
        some { b with
          nodes := A.push
              { x with children := (childIds (i + 1) cs).toArray,
                       subtreeEnd := i + 1 + listSize cs } ++
            (arenaOf i (i + 1) cs).toArray
          stack := st
          errors := es ++ (sitesOf (i + 1) cs).toArray }
      else none := by
  subst hsize
  have hget : (A.push x).getD A.size default = x := by
    rw [getD_push, if_pos rfl]
  have hlast : ({ b with nodes := A.push x, stack := A.size :: st, errors := es } : Builder).lastChildEnd
      A.size = none := by
    simp [lastChildEnd, hget, hchildren]
  rw [hlast] at hcs
  simp only [hget] at hcs
  rw [toOption_bind, hcs]
  split
  · have hstack : (({ b with nodes := A.push x, stack := A.size :: st, errors := es } :
        Builder).afterChildren A.size cs).stack = A.size :: st := rfl
    simp only [Option.bind_some]
    rw [result_close hstack]
    have hlt : A.size < (A.push (x.withChildren (childIds (A.size + 1) cs))).size := by simp
    simp only [afterChildren, modify_push_size, Array.size_push]
    rw [modify_append_of_lt _ hlt, modify_push_size]
    simp [Node.withChildren, hchildren, length_arenaOf, Nat.add_assoc, Nat.add_comm 1 (listSize cs),
      Except.toOption]
  · rfl

mutual

/-- **Replaying a subtree under an open parent** fails exactly when one of its spans does not
pass opening's checks, and otherwise appends its nodes and sites and lists it under the
parent. -/
theorem replay_toOption : ∀ (t : ParseTree) (b : Builder) (f : Option String) (p : Nat)
    (rest : List Nat), b.stack = p :: rest → p < b.nodes.size →
    (t.replay b f).toOption =
      if t.fitsUnder b.source.size (some (b.nodes.getD p default).span) (b.lastChildEnd p) then
        some (b.afterChildren p [(f, t)]) else none
  | .node k n s m cs, b, f, p, rest, hs, hp => by
    rw [replay]
    cases hfit : spanFits b.source.size (some (b.nodes.getD p default).span) (b.lastChildEnd p) s with
    | false =>
        have hbad : b.openProblem ⟨k, n, f, s⟩ ≠ none := by
          rw [ne_eq, openProblem_eq_none_iff hs]
          exact ne_true_of_eq_false hfit
        obtain ⟨e, hprob⟩ := Option.ne_none_iff_exists'.mp hbad
        rw [result_openNode_of_problem hprob, error_bind]
        simp only [fitsUnder, hfit, Bool.false_and, Bool.false_eq_true, if_false]
        rfl
    | true =>
        have hprob : b.openProblem ⟨k, n, f, s⟩ = none := (openProblem_eq_none_iff hs).mpr hfit
        rw [result_openNode hs hprob, ok_bind, markMissingIf_opened, ok_bind, replayAll_close]
        case hid => simp
        case hsize => simp
        case hmissing => rfl
        case hchildren => rfl
        case hcs => exact replayAll_toOption cs _ _ _ rfl (by simp)
        simp only [fitsUnder, hfit, Bool.true_and]
        split
        · simp [afterChildren, childIds, arenaOf, arena, sitesOf, sites, ownSites,
            Array.append_assoc, List.append_toArray]
        · rfl

/-- **Replaying subtrees in turn under an open parent**: each is checked after the one
before it, and their nodes and sites follow one another. -/
theorem replayAll_toOption : ∀ (cs : List (Option String × ParseTree)) (b : Builder) (p : Nat)
    (rest : List Nat), b.stack = p :: rest → p < b.nodes.size →
    (replayAll b cs).toOption =
      if fitsAmong b.source.size (b.nodes.getD p default).span (b.lastChildEnd p) cs then
        some (b.afterChildren p cs) else none
  | [], b, p, rest, hs, hp => by
    simp only [replayAll, fitsAmong, if_true, afterChildren_nil]
    rfl
  | (f, x) :: more, b, p, rest, hs, hp => by
    rw [replayAll_cons, toOption_bind, replay_toOption x b f p rest hs hp, fitsAmong]
    cases hx : x.fitsUnder b.source.size (some (b.nodes.getD p default).span) (b.lastChildEnd p) with
    | false => rfl
    | true =>
        have hp' : p < (b.afterChildren p [(f, x)]).nodes.size := by
          rw [afterChildren_size]
          omega
        simp only [if_true, Option.bind_some, Bool.true_and]
        rw [replayAll_toOption more _ p rest (by simp [hs]) hp', afterChildren_source,
          getD_afterChildren_parent hp, lastChildEnd_afterChildren hp, afterChildren_append hp]
        rfl

end

/-- **Replaying a tree from an empty builder** succeeds exactly when the tree fits the
source, and then holds the tree's nodes in pre-order and its error sites. -/
theorem replay_new (t : ParseTree) (language : String) (source : ByteArray) :
    (t.replay (Builder.new language source) none).toOption =
      if t.fits source.size then
        some { Builder.new language source with
          nodes := (t.arena none none 0).toArray, errors := (t.sites 0).toArray }
      else none := by
  obtain ⟨k, n, s, m, cs⟩ := t
  rw [replay]
  have hs : (Builder.new language source).stack = [] := rfl
  have hn : (Builder.new language source).nodes.size = 0 := rfl
  cases hfit : spanFits source.size none none s with
  | false =>
      have hbad : (Builder.new language source).openProblem ⟨k, n, none, s⟩ ≠ none := by
        rw [ne_eq, openProblem_eq_none_iff_root hs hn]
        exact ne_true_of_eq_false hfit
      obtain ⟨e, hprob⟩ := Option.ne_none_iff_exists'.mp hbad
      rw [result_openNode_of_problem hprob, error_bind]
      simp only [fits, fitsUnder, hfit, Bool.false_and, Bool.false_eq_true, if_false]
      rfl
  | true =>
      have hprob : (Builder.new language source).openProblem ⟨k, n, none, s⟩ = none :=
        (openProblem_eq_none_iff_root hs hn).mpr hfit
      rw [result_openNode_root hs hprob, ok_bind, markMissingIf_opened, ok_bind, replayAll_close]
      case hid => simp
      case hsize => simp
      case hmissing => rfl
      case hchildren => rfl
      case hcs => exact replayAll_toOption cs _ _ _ rfl (by simp)
      have hsrc : (Builder.new language source).source = source := rfl
      simp only [fits, fitsUnder, hfit, Bool.true_and, hsrc]
      split
      · simp [Builder.new, arena, sites, ownSites, List.append_toArray]
      · rfl

end Steps

end Builder

end ShapeSearch
