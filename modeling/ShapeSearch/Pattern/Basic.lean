import ShapeSearch.Regex.Match

/-!
# Compiled patterns

A pattern is a list of top-level clauses.  A clause tests one node (a named
kind, an anonymous literal, any named node, or any node at all), constrains its
children, filters the match by predicates, and may bind the node to a capture
label.  The child constraints are a child in a field, a child in order (later
positional constraints use later children), or the absence of any child in a
field.  A predicate compares a capture's text with a string or with another
capture's text (`#eq?`), or tests it against a regular expression (`#match?`);
either may be negated (`#not-eq?`, `#not-match?`).

A compiled regular expression is kept together with the text it came from and
the proof that compiling that text gives it; two of them are equal exactly when
their texts are.
-/

namespace ShapeSearch
namespace Pattern

/-- A regular expression compiled from its text. -/
structure TextRegex where
  source : String
  program : Regex.Program
  compiled : Regex.compile source = .ok program

namespace TextRegex

/-- Two compiled expressions with the same text are the same. -/
theorem ext_source {a b : TextRegex} (h : a.source = b.source) : a = b := by
  cases a with
  | mk s p hp =>
    cases b with
    | mk t q hq =>
      simp only at h
      subst h
      have : p = q := by rw [hp] at hq; injection hq
      subst this
      rfl

instance : DecidableEq TextRegex := fun a b =>
  if h : a.source = b.source then isTrue (ext_source h)
  else isFalse (fun e => h (congrArg TextRegex.source e))

/-- Compile the text of a regular expression. -/
def ofSource (source : String) : Except Regex.Failure TextRegex :=
  match h : Regex.compile source with
  | .ok program => .ok ⟨source, program, h⟩
  | .error e => .error e

/-- Whether some part of a text matches. -/
def isMatch (r : TextRegex) (text : String) : Bool :=
  r.program.isMatch text

end TextRegex

/-- What a clause requires of the node itself. -/
inductive NodeTest where
  | named (kind : String)
  | anonymous (literal : String)
  | anyNamed
  | any
  deriving Repr, DecidableEq, Inhabited

/-- The right side of `#eq?`: another capture or a string. -/
inductive Operand where
  | capture (name : String)
  | text (value : String)
  deriving Repr, DecidableEq, Inhabited

/-- A text filter on the captures of a match. -/
inductive Predicate where
  | eq (capture : String) (operand : Operand) (negate : Bool)
  | regex (capture : String) (re : TextRegex) (negate : Bool)
  deriving DecidableEq

mutual

/-- A clause: a node test, child constraints, predicates and an optional capture label. -/
inductive Clause where
  | mk (node : NodeTest) (children : List Constraint) (predicates : List Predicate)
      (capture : Option String)

/-- A constraint on the children of the node a clause tests. -/
inductive Constraint where
  | field (name : String) (clause : Clause)
  | positional (clause : Clause)
  | absent (name : String)

end

deriving instance BEq for Clause

namespace Clause

/-- The node test of a clause. -/
def node : Clause → NodeTest
  | mk n _ _ _ => n

/-- The child constraints of a clause, in written order. -/
def children : Clause → List Constraint
  | mk _ cs _ _ => cs

/-- The predicates of a clause, in written order. -/
def predicates : Clause → List Predicate
  | mk _ _ ps _ => ps

/-- The capture label of a clause, if any. -/
def capture : Clause → Option String
  | mk _ _ _ c => c

/-- A clause with its test only. -/
def ofNode (node : NodeTest) : Clause :=
  mk node [] [] none

/-- A clause bound to a capture label. -/
def withCapture (c : Clause) (label : String) : Clause :=
  mk c.node c.children c.predicates (some label)

mutual

/-- The capture labels of a clause and its sub-clauses, in pre-order, with repeats. -/
def labels : Clause → List String
  | mk _ children _ capture => capture.toList ++ constraintLabels children

/-- The capture labels under a list of constraints, in order. -/
def constraintLabels : List Constraint → List String
  | [] => []
  | .field _ c :: rest => labels c ++ constraintLabels rest
  | .positional c :: rest => labels c ++ constraintLabels rest
  | .absent _ :: rest => constraintLabels rest

end

end Clause

/-- Keep the first occurrence of each element. -/
def firstOccurrences : List String → List String
  | [] => []
  | x :: xs => x :: (firstOccurrences xs).filter (· != x)

/-- Whether nested occurrences are reported. -/
inductive MatchMode where
  | all
  | nonOverlapping
  deriving Repr, DecidableEq, Inhabited

/-- A compiled structural query for one grammar. -/
structure Compiled where
  language : String
  clauses : List Clause
  captureNames : List String
  mode : MatchMode
  deriving BEq

/-- The capture labels of all clauses, each once, in order of first appearance. -/
def captureNamesOf (clauses : List Clause) : List String :=
  firstOccurrences (clauses.flatMap Clause.labels)

end Pattern
end ShapeSearch
