import ShapeSearch.Regex.Footprint
import ShapeSearch.Text.Properties

/-!
# Searching text with a regular expression

A resolved expression is compiled into a nondeterministic automaton: states that
read one character of a set, states that test an assertion, forks and jumps,
and one accepting state.  Searching runs all threads of the automaton side by
side over the text, starting a new thread at every position, so a text matches
when some substring does; this is the question `#match?` asks.

Each round visits every state at most once, and there is one round per
character, so a search takes time proportional to the text length times the
automaton size.
-/

namespace ShapeSearch
namespace Regex

/-- One state of the automaton. -/
inductive Inst where
  | chars (set : CharSet) (next : Nat)
  | look (l : Look) (next : Nat)
  | fork (a b : Nat)
  | jump (next : Nat)
  | accept
  deriving Inhabited

/-- A compiled expression: its states and the state a search starts in. -/
structure Program where
  insts : Array Inst
  start : Nat
  deriving Inhabited

namespace Program

/-- Add a state; give its number. -/
def push (insts : Array Inst) (i : Inst) : Array Inst × Nat :=
  let n := insts.size
  (insts.push i, n)

mutual

/-- Add the states for `h`, continuing to state `next`; give the state to enter. -/
def comp (insts : Array Inst) (h : Hir) (next : Nat) : Array Inst × Nat :=
  match h with
  | .empty => (insts, next)
  | .chars s => push insts (.chars s next)
  | .look l => push insts (.look l next)
  | .seq items => compSeq insts items next
  | .alt branches => compAlt insts branches next
  | .capture body => comp insts body next
  | .rep body min max _ =>
    -- the optional tail: `max - min` nested optional copies, or a loop
    let (insts, tail) := match max with
      | none =>
        let (insts, loop) := push insts (.fork 0 0)
        let (insts, bodyStart) := comp insts body loop
        (insts.setIfInBounds loop (.fork bodyStart next), loop)
      | some m => compOptional insts body (m - min) next
    compRequired insts body min tail

/-- Add `n` copies of `body` in a row before `next`. -/
def compRequired (insts : Array Inst) (body : Hir) (n : Nat) (next : Nat) : Array Inst × Nat :=
  match n with
  | 0 => (insts, next)
  | k + 1 =>
    let (insts, rest) := compRequired insts body k next
    comp insts body rest

/-- Add `n` nested optional copies of `body` before `next`. -/
def compOptional (insts : Array Inst) (body : Hir) (n : Nat) (next : Nat) : Array Inst × Nat :=
  match n with
  | 0 => (insts, next)
  | k + 1 =>
    let (insts, rest) := compOptional insts body k next
    let (insts, bodyStart) := comp insts body rest
    push insts (.fork bodyStart next)

/-- Add a sequence before `next`. -/
def compSeq (insts : Array Inst) (items : List Hir) (next : Nat) : Array Inst × Nat :=
  match items with
  | [] => (insts, next)
  | h :: rest =>
    let (insts, restStart) := compSeq insts rest next
    comp insts h restStart

/-- Add alternatives before `next`; an empty alternation matches nothing. -/
def compAlt (insts : Array Inst) (branches : List Hir) (next : Nat) : Array Inst × Nat :=
  match branches with
  | [] => push insts (.chars CharSet.empty next)
  | [h] => comp insts h next
  | h :: rest =>
    let (insts, a) := comp insts h next
    let (insts, b) := compAlt insts rest next
    push insts (.fork a b)

end

/-- Compile a resolved expression. -/
def ofHir (h : Hir) : Program :=
  let (insts, start) := comp #[Inst.accept] h 0
  { insts, start }

/-- Whether a character counts as a word character for a boundary test. -/
def wordAt (unicode : Bool) : Option Char → Bool
  | some c => if unicode then isWordChar c else c.isAlphanum || c == '_'
  | none => false

/-- Whether an assertion holds between the characters `prev` and `next`. -/
def holds (l : Look) (prev next : Option Char) : Bool :=
  match l with
  | .textStart => prev.isNone
  | .textEnd => next.isNone
  | .lineStart crlf =>
    match prev with
    | none => true
    | some '\n' => true
    | some '\r' => crlf && next != some '\n'
    | _ => false
  | .lineEnd crlf =>
    match next with
    | none => true
    | some '\n' => !(crlf && prev == some '\r')
    | some '\r' => crlf
    | _ => false
  | .word kind unicode =>
    let a := wordAt unicode prev
    let b := wordAt unicode next
    match kind with
    | .boundary => a != b
    | .notBoundary => a == b
    | .start => !a && b
    | .stop => a && !b
    | .startHalf => !a
    | .stopHalf => !b

/-- Follow forks, jumps and assertions from the states on the stack, marking every state
reached; at most `fuel` states are taken off the stack. -/
def closure (p : Program) (prev next : Option Char) :
    Nat → List Nat → Array Bool → Array Bool
  | 0, _, marked => marked
  | _, [], marked => marked
  | fuel + 1, s :: stack, marked =>
    if marked.getD s true then closure p prev next fuel stack marked
    else
      let marked := marked.setIfInBounds s true
      match p.insts[s]? with
      | some (.fork a b) => closure p prev next fuel (a :: b :: stack) marked
      | some (.jump n) => closure p prev next fuel (n :: stack) marked
      | some (.look l n) =>
        if holds l prev next then closure p prev next fuel (n :: stack) marked
        else closure p prev next fuel stack marked
      | _ => closure p prev next fuel stack marked

/-- The states that read `c` in the marked set, moved past it. -/
def stepOver (p : Program) (marked : Array Bool) (c : Char) : List Nat :=
  (List.range p.insts.size).filterMap fun s =>
    if marked.getD s false then
      match p.insts[s]? with
      | some (.chars set n) => if set.contains c then some n else none
      | _ => none
    else none

/-- Whether the accepting state (state 0) is marked. -/
def accepted (marked : Array Bool) : Bool :=
  marked.getD 0 false

/-- Run the threads over the rest of the text; `prev` is the character before it. -/
def run (p : Program) (prev : Option Char) : List Char → List Nat → Bool
  | [], live =>
    let marked := closure p prev none (3 * p.insts.size + 2) (p.start :: live)
      (Array.replicate p.insts.size false)
    accepted marked
  | c :: rest, live =>
    let marked := closure p prev (some c) (3 * p.insts.size + 2) (p.start :: live)
      (Array.replicate p.insts.size false)
    accepted marked || run p (some c) rest (stepOver p marked c)

/-- Whether some part of the text matches. -/
def isMatch (p : Program) (text : String) : Bool :=
  run p none text.toList []

end Program

/-- Why a regular expression does not compile: it does not read, or its automata would
take more memory than allowed. -/
inductive Failure where
  | unreadable (e : Error)
  | tooBig (limit : Nat)
  deriving Repr, DecidableEq, Inhabited

/-- The message of a failure. -/
def Failure.render : Failure → String
  | .unreadable e => e.render
  | .tooBig limit => "Compiled regex exceeds size limit of " ++ toString limit ++ " bytes."

/-- Read, resolve and compile a regular expression, refusing one whose automata would
be too big. -/
def compile (pattern : String) : Except Failure Program :=
  match resolve pattern with
  | .error e => .error (.unreadable e)
  | .ok h => if Footprint.fits h then .ok (Program.ofHir h) else .error (.tooBig Footprint.sizeLimit)

end Regex
end ShapeSearch
