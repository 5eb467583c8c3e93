import ShapeSearch.Tree.Basic

/-!
# Building syntax trees

A tree is built by steps in pre-order: open a node as the next child of the
innermost open node, mark the innermost open node as missing, close it, or add
a leaf (open and close at once).  A step that fails leaves the builder exactly as
it was.  Opening fails, in this order of checks, when

* the span is reversed or ends past the source;
* the span is not inside the span of the open node;
* the span starts before the end of the open node's last child;
* no node is open while a root already exists.

Marking and closing fail when no node is open.  Finishing fails when nodes are
still open or there is no node at all.  Opening a named `ERROR` node and marking a
node missing record an error site.
-/

namespace ShapeSearch

/-- Why a building step failed. -/
inductive TreeError where
  | outsideSource (kind : String) (startByte endByte size : Nat)
  | escapesParent (kind parentKind : String)
  | overlapsSibling (kind siblingKind : String)
  | secondRoot (kind : String)
  | missingWithoutNode
  | closeWithoutNode
  | leftOpen (count : Nat)
  | noRoot
  deriving Repr, DecidableEq, Inhabited

namespace TreeError

/-- The sentence describing the failure. -/
def message : TreeError → String
  | .outsideSource kind s e n =>
    "span " ++ toString s ++ ".." ++ toString e ++ " of `" ++ kind ++ "` is outside the source (" ++
      toString n ++ " bytes)"
  | .escapesParent kind p => "`" ++ kind ++ "` escapes its parent `" ++ p ++ "`"
  | .overlapsSibling kind s => "`" ++ kind ++ "` overlaps its previous sibling `" ++ s ++ "`"
  | .secondRoot kind => "second root node `" ++ kind ++ "`"
  | .missingWithoutNode => "mark_missing with no open node"
  | .closeWithoutNode => "close with no open node"
  | .leftOpen n => toString n ++ " node(s) left open"
  | .noRoot => "tree has no root"

end TreeError

/-- What opening a node says about it. -/
structure NodeSpec where
  kind : String
  named : Bool
  field : Option String
  span : Span
  deriving Repr, DecidableEq, Inhabited

/-- A tree under construction: the nodes so far, the open nodes (innermost first) and
the error sites. -/
structure Builder where
  language : String
  source : ByteArray
  nodes : Array Node
  stack : List Nat
  errors : Array ErrorSite

namespace Builder

/-- An empty builder for a language and source. -/
def new (language : String) (source : ByteArray) : Builder :=
  { language, source, nodes := #[], stack := [], errors := #[] }

/-- Why a node with this spec may not be opened now, if it may not. -/
def openProblem (b : Builder) (spec : NodeSpec) : Option TreeError :=
  let s := spec.span
  if s.startByte > s.endByte || s.endByte > b.source.size then
    some (.outsideSource spec.kind s.startByte s.endByte b.source.size)
  else
    match b.stack with
    | p :: _ =>
      let parent := b.nodes.getD p default
      if !parent.span.contains s then some (.escapesParent spec.kind parent.kind)
      else
        match parent.children.back? with
        | some prev =>
          let sibling := b.nodes.getD prev default
          if sibling.span.endByte > s.startByte then some (.overlapsSibling spec.kind sibling.kind)
          else none
        | none => none
    | [] => if b.nodes.isEmpty then none else some (.secondRoot spec.kind)

/-- Open a node as the next child of the innermost open node; give its id.  On failure
the builder comes back as it was. -/
def openNode (b : Builder) (spec : NodeSpec) : Builder × Except TreeError Nat :=
  match b.openProblem spec with
  | some e => (b, .error e)
  | none =>
    let id := b.nodes.size
    let node : Node :=
      { kind := spec.kind, named := spec.named, field := spec.field, span := spec.span,
        parent := b.stack.head?, children := #[], subtreeEnd := id + 1, missing := false }
    let nodes := match b.stack with
      | p :: _ => (b.nodes.modify p fun n => { n with children := n.children.push id }).push node
      | [] => b.nodes.push node
    let errors := if spec.named && spec.kind == "ERROR" then
        b.errors.push ⟨.error, id, spec.span⟩
      else b.errors
    ({ b with nodes, stack := id :: b.stack, errors }, .ok id)

/-- Flag the innermost open node as inserted by the parser. -/
def markMissing (b : Builder) : Builder × Except TreeError Unit :=
  match b.stack with
  | id :: _ =>
    let span := (b.nodes.getD id default).span
    ({ b with nodes := b.nodes.modify id (fun n => { n with missing := true }),
              errors := b.errors.push ⟨.missing, id, span⟩ }, .ok ())
  | [] => (b, .error .missingWithoutNode)

/-- Close the innermost open node. -/
def close (b : Builder) : Builder × Except TreeError Unit :=
  match b.stack with
  | id :: rest =>
    let size := b.nodes.size
    ({ b with nodes := b.nodes.modify id (fun n => { n with subtreeEnd := size }), stack := rest },
      .ok ())
  | [] => (b, .error .closeWithoutNode)

/-- Open and close a childless node; give its id. -/
def leaf (b : Builder) (spec : NodeSpec) : Builder × Except TreeError Nat :=
  match b.openNode spec with
  | (b, .ok id) => ((b.close).1, .ok id)
  | (b, .error e) => (b, .error e)

/-- The finished tree: no node may be left open and there must be a root. -/
def finish (b : Builder) : Except TreeError SyntaxTree :=
  if !b.stack.isEmpty then .error (.leftOpen b.stack.length)
  else if b.nodes.isEmpty then .error .noRoot
  else .ok { language := b.language, source := b.source, nodes := b.nodes, errors := b.errors }

/-- One building step. -/
inductive Step where
  | openNode (spec : NodeSpec)
  | leaf (spec : NodeSpec)
  | markMissing
  | close
  deriving Repr, DecidableEq, Inhabited

/-- Take one step; an opening step gives the id of its node. -/
def step (b : Builder) : Step → Builder × Except TreeError (Option Nat)
  | .openNode spec => let (b, r) := b.openNode spec; (b, r.map some)
  | .leaf spec => let (b, r) := b.leaf spec; (b, r.map some)
  | .markMissing => let (b, r) := b.markMissing; (b, r.map fun _ => none)
  | .close => let (b, r) := b.close; (b, r.map fun _ => none)

/-- Take the steps in order, after the outcomes `done` of earlier ones: a failed step
changes nothing and the later ones still run.  Gives the builder at the end and the
outcome of every step. -/
def stepsFrom (b : Builder) (done : Array (Except TreeError (Option Nat))) :
    List Step → Builder × Array (Except TreeError (Option Nat))
  | [] => (b, done)
  | s :: rest =>
    let (b, r) := b.step s
    b.stepsFrom (done.push r) rest

/-- Take the steps in order: a failed step changes nothing and the later ones still
run.  Gives the builder at the end and the outcome of every step. -/
def steps (b : Builder) (ss : List Step) : Builder × List (Except TreeError (Option Nat)) :=
  let (b, outcomes) := b.stepsFrom #[] ss
  (b, outcomes.toList)

end Builder

/-- Build a tree over a source by steps: the outcome of every step and the finished tree. -/
def SyntaxTree.build (language : String) (source : ByteArray) (steps : List Builder.Step) :
    List (Except TreeError (Option Nat)) × Except TreeError SyntaxTree :=
  let (b, outcomes) := (Builder.new language source).steps steps
  (outcomes, b.finish)

end ShapeSearch
