import ShapeSearch.Pattern.Lexer
import ShapeSearch.Pattern.Basic
import ShapeSearch.Grammar.Vocabulary

/-!
# Compiling pattern text

`Pattern.compile` turns pattern text into a `Compiled` pattern for one
vocabulary, following the grammar

```
pattern := clause+
clause  := node capture?
node    := "(" (kind | "_") item* ")" | string | "_"
item    := field clause | absentField | clause | "(" predicate arg* ")"
arg     := capture | string
```

with these checks, each failing at the place it names:

* a named kind, an anonymous string and a field must be in the vocabulary;
* a node carries at most one capture, and a label is bound at most once in one
  top-level clause;
* a predicate has exactly two arguments, the first a capture; its name is `eq?`
  or `match?`, optionally after `not-`; the second argument of `#match?` is a
  string holding a valid regular expression;
* a predicate may not stand at the top level, and every capture it names must
  be bound somewhere in its top-level clause (checked when that clause ends).

The parser reads the token list from the left.  Each reader returns what it
read, the captures bound and referenced so far, and the tokens after it, which
are fewer than it was given (`Rest`): that is what the recursion is measured by.
Only the items of a node hand their tokens on unread, to the clause reader.
-/

namespace ShapeSearch
namespace Pattern

/-- What compiling reads besides the tokens: the text, for places, and the vocabulary. -/
structure Context where
  text : String
  vocabulary : Vocabulary

/-- The captures bound in the current top-level clause, and those its predicates
name, each with the offset of the argument. -/
structure Scope where
  bound : List String
  referenced : List (String × Nat)

/-- The tokens left after a reader took at least one of `ts`. -/
abbrev Rest (ts : List Lexeme) := { r : List Lexeme // r.length < ts.length }

namespace Rest

/-- What is left after a reader that started one token later. -/
def cons {ts : List Lexeme} (l : Lexeme) (r : Rest ts) : Rest (l :: ts) :=
  ⟨r.1, by have := r.2; simp only [List.length_cons]; omega⟩

/-- What is left after two readers, the second one started on what the first left. -/
def trans {ts : List Lexeme} (r : Rest ts) (r' : Rest r.1) : Rest ts :=
  ⟨r'.1, Nat.lt_trans r'.2 r.2⟩

end Rest

/-- What reading a clause gives: the clause, the scope after it, and the tokens left. -/
abbrev Reading (ts : List Lexeme) := Except PatternError (Clause × Scope × Rest ts)

namespace Context

/-- The place of a byte offset in the pattern text. -/
def place (cx : Context) (offset : Nat) : Position :=
  Position.ofText cx.text offset

/-- Fail with a syntax problem at an offset. -/
def syntaxError {α : Type} (cx : Context) (offset : Nat) (p : SyntaxProblem) :
    Except PatternError α :=
  .error (.malformed p (cx.place offset))

/-- Fail with a predicate problem at an offset. -/
def predicateError {α : Type} (cx : Context) (offset : Nat) (p : PredicateProblem) :
    Except PatternError α :=
  .error (.invalidPredicate p (cx.place offset))

/-- Check a field name against the vocabulary. -/
def checkField (cx : Context) (name : String) (at_ : Nat) : Except PatternError Unit :=
  if cx.vocabulary.hasField name then .ok () else .error (.unknownField name (cx.place at_))

end Context

/-- Split off a leading `not-`: whether a predicate is negated, and its base name. -/
def splitNegation (name : String) : Bool × String :=
  match name.toList with
  | 'n' :: 'o' :: 't' :: '-' :: base => (true, String.ofList base)
  | _ => (false, name)

/-- The captures among a predicate's arguments, in order. -/
def argumentCaptures (args : List (Operand × Nat)) : List (String × Nat) :=
  args.filterMap fun
    | (.capture c, at_) => some (c, at_)
    | (.text _, _) => none

variable (cx : Context)

/-- Read the arguments of a predicate up to its `)`; `openAt` is where the predicate opens. -/
def readArgs (openAt : Nat) (name : String) :
    (ts : List Lexeme) → Except PatternError (List (Operand × Nat) × Rest ts)
  | [] => cx.syntaxError openAt .unclosedParen
  | ⟨.closeParen, _⟩ :: rest => .ok ([], ⟨rest, by simp⟩)
  | ⟨.capture c, at_⟩ :: rest =>
    (readArgs openAt name rest).map fun (args, r) => ((.capture c, at_) :: args, r.cons _)
  | ⟨.text s, at_⟩ :: rest =>
    (readArgs openAt name rest).map fun (args, r) => ((.text s, at_) :: args, r.cons _)
  | ⟨other, at_⟩ :: _ => cx.predicateError at_ (.unexpectedArgument other name)

/-- Read a predicate after its `(` at `openAt` and its name at `nameAt`: the predicate, the
captures it names, and the tokens after its `)`. -/
def readPredicate (openAt : Nat) (name : String) (nameAt : Nat) (ts : List Lexeme) :
    Except PatternError (Predicate × List (String × Nat) × Rest ts) := do
  let (given, r) ← readArgs cx openAt name ts
  let (negate, base) := splitNegation name
  match given with
  | [(.capture capture, _), (second, secondAt)] =>
    if base == "eq?" then
      pure (.eq capture second negate, argumentCaptures given, r)
    else if base == "match?" then
      match second with
      | .text source =>
        match TextRegex.ofSource source with
        | .ok re => pure (.regex capture re negate, argumentCaptures given, r)
        | .error e => .error (.invalidRegex e (cx.place secondAt))
      | .capture _ => cx.predicateError secondAt (.regexNotString name)
    else cx.predicateError nameAt (.unknownPredicate name)
  | [(.text _, firstAt), _] => cx.predicateError firstAt (.firstNotCapture name)
  | _ => cx.predicateError nameAt (.wrongArity name)

/-- Read the capture a node may carry, after the node. -/
def readCapture {ts : List Lexeme} (clause : Clause) (sc : Scope) (r : Rest ts) : Reading ts :=
  match r with
  | ⟨⟨.capture name, capAt⟩ :: more, h⟩ =>
    match more.head? with
    | some ⟨.capture _, secondAt⟩ => cx.syntaxError secondAt .secondCapture
    | _ =>
      if sc.bound.contains name then .error (.duplicateCapture name (cx.place capAt))
      else
        .ok (clause.withCapture name, { sc with bound := sc.bound ++ [name] },
          ⟨more, Nat.lt_of_succ_lt h⟩)
  | r => .ok (clause, sc, r)

mutual

/-- Read a clause: a node and the capture it may carry. -/
def readClause (sc : Scope) (ts : List Lexeme) : Reading ts := do
  let (clause, sc, r) ← readNode sc ts
  readCapture cx clause sc r
termination_by (ts.length, 1)

/-- Read a node: `( kind item* )`, a string or `_`. -/
def readNode (sc : Scope) : (ts : List Lexeme) → Reading ts
  | [] => cx.syntaxError cx.text.utf8ByteSize .expectedNode
  | ⟨.openParen, at_⟩ :: rest =>
    (readBody at_ sc rest).map fun (c, sc, r) => (c, sc, r.cons _)
  | ⟨.text literal, at_⟩ :: rest =>
    if cx.vocabulary.hasAnonymous literal then
      .ok (Clause.ofNode (.anonymous literal), sc, ⟨rest, by simp⟩)
    else .error (.unknownNodeType literal (cx.place at_))
  | ⟨.wildcard, _⟩ :: rest => .ok (Clause.ofNode .any, sc, ⟨rest, by simp⟩)
  | ⟨.closeParen, at_⟩ :: _ => cx.syntaxError at_ .unexpectedClose
  | ⟨.capture name, at_⟩ :: _ => cx.syntaxError at_ (.captureWithoutNode name)
  | ⟨other, at_⟩ :: _ => cx.syntaxError at_ (.expectedNodeFound other)
termination_by ts => (ts.length, 0)

/-- Read the rest of `( kind item* )` after its `(` at `openAt`. -/
def readBody (openAt : Nat) (sc : Scope) : (ts : List Lexeme) → Reading ts
  | [] => cx.syntaxError openAt .unclosedParen
  | ⟨.wildcard, _⟩ :: rest =>
    (readItems openAt .anyNamed [] [] sc rest).map fun (c, sc, r) => (c, sc, r.cons _)
  | ⟨.kind k, at_⟩ :: rest =>
    if cx.vocabulary.hasNamed k then
      (readItems openAt (.named k) [] [] sc rest).map fun (c, sc, r) => (c, sc, r.cons _)
    else .error (.unknownNodeType k (cx.place at_))
  | ⟨other, at_⟩ :: _ => cx.syntaxError at_ (.expectedNodeType other)
termination_by ts => (ts.length, 0)

/-- Read the items of a node up to its `)`, after the child constraints and predicates
read so far. -/
def readItems (openAt : Nat) (node : NodeTest) (children : List Constraint)
    (predicates : List Predicate) (sc : Scope) : (ts : List Lexeme) → Reading ts
  | [] => cx.syntaxError openAt .unclosedParen
  | ⟨.closeParen, _⟩ :: rest => .ok (.mk node children predicates none, sc, ⟨rest, by simp⟩)
  | ⟨.field name, at_⟩ :: rest => do
    cx.checkField name at_
    let (child, sc, r) ← readClause sc rest
    let (c, sc, r') ← readItems openAt node (children ++ [.field name child]) predicates sc r.1
    pure (c, sc, (r.cons _).trans r')
  | ⟨.absentField name, at_⟩ :: rest => do
    cx.checkField name (at_ + 1)
    let (c, sc, r) ← readItems openAt node (children ++ [.absent name]) predicates sc rest
    pure (c, sc, r.cons _)
  | ⟨.openParen, predAt⟩ :: ⟨.predicate name, nameAt⟩ :: rest => do
    let (p, refs, r) ← readPredicate cx predAt name nameAt rest
    let (c, sc, r') ← readItems openAt node children (predicates ++ [p])
      { sc with referenced := sc.referenced ++ refs } r.1
    pure (c, sc, ((r.cons _).cons _).trans r')
  | ts => do
    let (child, sc, r) ← readClause sc ts
    let (c, sc, r') ← readItems openAt node (children ++ [.positional child]) predicates sc r.1
    pure (c, sc, r.trans r')
termination_by ts => (ts.length, 2)

end

/-- After a top-level clause: the first capture its predicates name that it does not bind. -/
def checkReferences (sc : Scope) : Except PatternError Unit :=
  match sc.referenced.find? (fun (name, _) => !sc.bound.contains name) with
  | some (name, at_) => .error (.unknownCapture name (cx.place at_))
  | none => .ok ()

/-- Read every top-level clause, each with a scope of its own. -/
def readPattern : (ts : List Lexeme) → Except PatternError (List Clause)
  | [] => .ok []
  | ⟨.openParen, at_⟩ :: ⟨.predicate _, _⟩ :: _ => cx.syntaxError at_ .predicateOutsideNode
  | ts => do
    let (clause, sc, r) ← readClause cx ⟨[], []⟩ ts
    checkReferences cx sc
    let clauses ← readPattern r.1
    pure (clause :: clauses)
termination_by ts => ts.length

/-- Compile pattern text for a language with the given vocabulary. -/
def compile (text : String) (language : String) (vocabulary : Vocabulary) :
    Except PatternError Compiled := do
  let tokens ← match tokenize text with
    | .ok ts => pure ts
    | .error (p, at_) => throw (.malformed p (Position.ofText text at_))
  let clauses ← readPattern ⟨text, vocabulary⟩ tokens.toList
  if clauses.isEmpty then throw (.malformed .emptyPattern (Position.ofText text 0))
  pure { language, clauses, captureNames := captureNamesOf clauses, mode := .all }

end Pattern
end ShapeSearch
