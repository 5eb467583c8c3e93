import ShapeSearch.Pattern.Compile

/-!
# The grammar of pattern text

Which token sequences are patterns, and which clauses they stand for.  The relations read
a prefix of a token list and name what follows it: `ClauseOf ts c rest` says that `ts`
starts with the tokens of one clause, standing for `c`, and goes on with `rest`.  The
grammar is

```
pattern := clause+
clause  := node capture?
node    := "(" (kind | "_") item* ")" | string | "_"
item    := field clause | absentField | clause | "(" predicate arg* ")"
arg     := capture | string
```

and a predicate has exactly two arguments, the first a capture; its name is `eq?` or
`match?`, once prefixed by `not-` when it is negated, and the second argument of `#match?`
is a string that compiles as a regular expression.  `PredicateOf` admits only such
predicates.

What compiling checks against a vocabulary is said of the clauses (`Clause.ValidIn`): the
kinds and fields they name are known, the capture labels of a top-level clause are
distinct, and every capture its predicates name is one of them.
-/

namespace ShapeSearch
namespace Pattern

/-- The token an operand is written as. -/
def Operand.token : Operand → Token
  | .capture name => .capture name
  | .text value => .text value

/-- The name of a predicate, with `not-` in front when it is negated. -/
def negatedName : Bool → String → String
  | false, base => base
  | true, base => "not-" ++ base

/-- `PredicateOf ts p rest`: `ts` starts with a predicate standing for `p`, then `rest`. -/
inductive PredicateOf : List Token → Predicate → List Token → Prop
  | eq (negate : Bool) (capture : String) (operand : Operand) (rest : List Token) :
      PredicateOf
        (.openParen :: .predicate (negatedName negate "eq?") :: .capture capture ::
          operand.token :: .closeParen :: rest)
        (.eq capture operand negate) rest
  | regex (negate : Bool) (capture source : String) (re : TextRegex) (rest : List Token)
      (hre : TextRegex.ofSource source = .ok re) :
      PredicateOf
        (.openParen :: .predicate (negatedName negate "match?") :: .capture capture ::
          .text source :: .closeParen :: rest)
        (.regex capture re negate) rest

mutual

/-- `ClauseOf ts c rest`: `ts` starts with a clause standing for `c`, then `rest`. -/
inductive ClauseOf : List Token → Clause → List Token → Prop
  | plain {ts : List Token} {c : Clause} {rest : List Token}
      (node : NodeOf ts c rest) :
      ClauseOf ts c rest
  | captured {ts : List Token} {c : Clause} {rest : List Token} (label : String)
      (node : NodeOf ts c (.capture label :: rest)) :
      ClauseOf ts (c.withCapture label) rest

/-- `NodeOf ts c rest`: `ts` starts with a node standing for `c`, then `rest`. -/
inductive NodeOf : List Token → Clause → List Token → Prop
  | named {ts : List Token} {cs : List Constraint} {ps : List Predicate} {rest : List Token}
      (kind : String) (items : ItemsOf ts cs ps (.closeParen :: rest)) :
      NodeOf (.openParen :: .kind kind :: ts) (.mk (.named kind) cs ps none) rest
  | anyNamed {ts : List Token} {cs : List Constraint} {ps : List Predicate} {rest : List Token}
      (items : ItemsOf ts cs ps (.closeParen :: rest)) :
      NodeOf (.openParen :: .wildcard :: ts) (.mk .anyNamed cs ps none) rest
  | anonymous (literal : String) (rest : List Token) :
      NodeOf (.text literal :: rest) (.ofNode (.anonymous literal)) rest
  | any (rest : List Token) :
      NodeOf (.wildcard :: rest) (.ofNode .any) rest

/-- `ItemsOf ts cs ps rest`: `ts` starts with items of a node, whose child constraints
stand for `cs` and whose predicates for `ps`, each in written order, then `rest`. -/
inductive ItemsOf : List Token → List Constraint → List Predicate → List Token → Prop
  | nil (rest : List Token) :
      ItemsOf rest [] [] rest
  | field {ts mid rest : List Token} {c : Clause} {cs : List Constraint} {ps : List Predicate}
      (name : String) (child : ClauseOf ts c mid) (items : ItemsOf mid cs ps rest) :
      ItemsOf (.field name :: ts) (.field name c :: cs) ps rest
  | absent {ts rest : List Token} {cs : List Constraint} {ps : List Predicate}
      (name : String) (items : ItemsOf ts cs ps rest) :
      ItemsOf (.absentField name :: ts) (.absent name :: cs) ps rest
  | positional {ts mid rest : List Token} {c : Clause} {cs : List Constraint}
      {ps : List Predicate} (child : ClauseOf ts c mid) (items : ItemsOf mid cs ps rest) :
      ItemsOf ts (.positional c :: cs) ps rest
  | predicate {ts mid rest : List Token} {p : Predicate} {cs : List Constraint}
      {ps : List Predicate} (pred : PredicateOf ts p mid) (items : ItemsOf mid cs ps rest) :
      ItemsOf ts cs (p :: ps) rest

end

/-- `PatternOf ts cs`: `ts` is one or more clauses, standing for `cs`. -/
inductive PatternOf : List Token → List Clause → Prop
  | last {ts : List Token} {c : Clause} (clause : ClauseOf ts c []) :
      PatternOf ts [c]
  | cons {ts rest : List Token} {c : Clause} {cs : List Clause}
      (clause : ClauseOf ts c rest) (more : PatternOf rest cs) :
      PatternOf ts (c :: cs)

/-! ### What a derivation starts with -/

/-- Whether a token list starts with a capture. -/
def startsWithCapture : List Token → Bool
  | .capture _ :: _ => true
  | _ => false

theorem NodeOf.not_startsWithCapture {ts : List Token} {c : Clause} {rest : List Token}
    (h : NodeOf ts c rest) : startsWithCapture ts = false := by
  cases h <;> rfl

theorem ClauseOf.not_startsWithCapture {ts : List Token} {c : Clause} {rest : List Token}
    (h : ClauseOf ts c rest) : startsWithCapture ts = false := by
  cases h with
  | plain node => exact node.not_startsWithCapture
  | captured _ node => exact node.not_startsWithCapture

/-- Items followed by something other than a capture do not start with one: no item does. -/
theorem ItemsOf.not_startsWithCapture {ts rest : List Token} {cs : List Constraint}
    {ps : List Predicate} (h : ItemsOf ts cs ps rest) (hr : startsWithCapture rest = false) :
    startsWithCapture ts = false := by
  cases h with
  | nil => exact hr
  | field => rfl
  | absent => rfl
  | positional child => exact child.not_startsWithCapture
  | predicate pred => cases pred <;> rfl

theorem PatternOf.not_startsWithCapture {ts : List Token} {cs : List Clause}
    (h : PatternOf ts cs) : startsWithCapture ts = false := by
  cases h with
  | last clause => exact clause.not_startsWithCapture
  | cons clause => exact clause.not_startsWithCapture

/-- A clause never starts the way a predicate does, with `(` and a predicate name. -/
theorem ClauseOf.not_predicate_start {ts rest : List Token} {c : Clause} {name : String}
    {more : List Token} (h : ClauseOf ts c rest) :
    ts ≠ .openParen :: .predicate name :: more := by
  have hnode : ∀ {c' rest'}, NodeOf ts c' rest' → ts ≠ .openParen :: .predicate name :: more := by
    intro c' rest' node
    cases node <;> simp
  cases h with
  | plain node => exact hnode node
  | captured _ node => exact hnode node

/-! ### The checks against a vocabulary -/

/-- The captures a predicate names. -/
def Predicate.captures : Predicate → List String
  | .eq capture (.capture other) _ => [capture, other]
  | .eq capture (.text _) _ => [capture]
  | .regex capture _ _ => [capture]

/-- A node test names only what the vocabulary knows. -/
def NodeTest.KnownIn (V : Vocabulary) : NodeTest → Prop
  | .named kind => V.hasNamed kind = true
  | .anonymous literal => V.hasAnonymous literal = true
  | .anyNamed => True
  | .any => True

namespace Clause

mutual

/-- The captures named by the predicates of a clause and of its sub-clauses. -/
def predicateCaptures : Clause → List String
  | mk _ children predicates _ =>
    predicates.flatMap Predicate.captures ++ constraintPredicateCaptures children

/-- The captures named by the predicates under a list of constraints. -/
def constraintPredicateCaptures : List Constraint → List String
  | [] => []
  | .field _ c :: rest => predicateCaptures c ++ constraintPredicateCaptures rest
  | .positional c :: rest => predicateCaptures c ++ constraintPredicateCaptures rest
  | .absent _ :: rest => constraintPredicateCaptures rest

end

mutual

/-- A clause names only kinds and fields the vocabulary knows. -/
def KnownIn (V : Vocabulary) : Clause → Prop
  | mk node children _ _ => node.KnownIn V ∧ ConstraintsKnownIn V children

/-- Constraints name only kinds and fields the vocabulary knows. -/
def ConstraintsKnownIn (V : Vocabulary) : List Constraint → Prop
  | [] => True
  | .field name c :: rest => V.hasField name = true ∧ KnownIn V c ∧ ConstraintsKnownIn V rest
  | .positional c :: rest => KnownIn V c ∧ ConstraintsKnownIn V rest
  | .absent name :: rest => V.hasField name = true ∧ ConstraintsKnownIn V rest

end

/-- What compiling checks of a top-level clause. -/
structure ValidIn (V : Vocabulary) (c : Clause) : Prop where
  known : c.KnownIn V
  distinct : c.labels.Nodup
  bound : ∀ name ∈ c.predicateCaptures, name ∈ c.labels

/-! A capture after a node binds one more label and changes nothing else. -/

theorem labels_withCapture {c : Clause} (h : c.capture = none) (label : String) :
    (c.withCapture label).labels = label :: c.labels := by
  cases c with
  | mk test cs ps cap =>
    simp only [capture] at h
    subst h
    rfl

theorem predicateCaptures_withCapture (c : Clause) (label : String) :
    (c.withCapture label).predicateCaptures = c.predicateCaptures := by
  cases c
  rfl

theorem knownIn_withCapture {V : Vocabulary} (c : Clause) (label : String) :
    (c.withCapture label).KnownIn V ↔ c.KnownIn V := by
  cases c
  rfl

end Clause

theorem NodeOf.capture_eq_none {ts rest : List Token} {c : Clause} (h : NodeOf ts c rest) :
    c.capture = none := by
  cases h <;> rfl

/-- A clause starts with `(`, a string or `_`, so not the way items end or other items
start. -/
theorem ClauseOf.head {ts rest : List Token} {c : Clause} (h : ClauseOf ts c rest) :
    ∃ t more, ts = t :: more ∧ t ≠ .closeParen ∧ (∀ name, t ≠ .field name) ∧
      ∀ name, t ≠ .absentField name := by
  have hnode : ∀ {c' rest'}, NodeOf ts c' rest' → ∃ t more, ts = t :: more ∧
      t ≠ .closeParen ∧ (∀ name, t ≠ .field name) ∧ ∀ name, t ≠ .absentField name := by
    intro c' rest' node
    cases node <;> exact ⟨_, _, rfl, by simp, by simp, by simp⟩
  cases h with
  | plain node => exact hnode node
  | captured _ node => exact hnode node

theorem PredicateOf.head {ts rest : List Token} {p : Predicate} (h : PredicateOf ts p rest) :
    ∃ name more, ts = .openParen :: .predicate name :: more := by
  cases h <;> exact ⟨_, _, rfl⟩

end Pattern
end ShapeSearch
