import ShapeSearch.Regex.Canonical
import Std.Data.HashMap

/-!
# How much memory the automata of an expression take

An expression is run by two automata over UTF-8 bytes, one reading forward and one
reading backward, and neither may take more than `sizeLimit` bytes; an expression whose
automata would take more is refused.  This module builds both automata from the
canonical form of the expression (`Regex.Canonical`), state by state, counting bytes.

A state takes 32 bytes; a state that branches on byte ranges takes 8 more for each range,
and a fork 4 more for each branch.  States are numbered in the order they are added, and
the numbers matter: sets of characters are built through tables of bounded size whose
slots are found by hashing state numbers, and two entries that hash to one slot evict each
other, so that a state evicted is built again when it is needed next.

* Reading forward, a set is a tree of branching states over the byte ranges of its UTF-8
  sequences, built deepest state first; a state whose branches equal those of the state
  in its slot (of 10000) is that state.
* Reading backward, a set is a fork with a chain of one state per range for each
  sequence; a chain state is keyed by its range and the state it goes to, and found
  again through its slot (of 1000).
* A set of ASCII characters is one state branching on its ranges and one state after it.
* Alternatives that are all literals are a trie of their bytes, read backward when the
  automaton reads backward.
* A capturing group adds two states to the forward automaton; alternatives add a fork and
  a state joining them; repetitions are unrolled, with a fork for each optional copy and
  for each loop.

An alternation of 3000 literals or more is searched for without automata, so it is never
refused.
-/

namespace ShapeSearch
namespace Regex
namespace Footprint

/-- The most bytes an automaton may take. -/
def sizeLimit : Nat := 10 * 1024 * 1024

/-- The bytes a state takes. -/
def stateSize : Nat := 32

/-! ## Byte-range sequences -/

/-- The largest code point UTF-8 encodes in `n` bytes. -/
def maxEncoded : Nat → Nat
  | 1 => 0x7F
  | 2 => 0x7FF
  | 3 => 0xFFFF
  | _ => 0x10FFFF

/-- One step of splitting a range of code points `[s, e]` towards ranges whose encodings
have one length and differ only where every byte value in between occurs: the part to go
on splitting and the part to split after it, or nothing when no split is needed.  The
surrogates are cut out first, then the range is cut where the encoding length changes,
then where a lower byte does not run through all its values. -/
def splitRange (s e : Nat) : Option ((Nat × Nat) × (Nat × Nat)) :=
  if s < 0xE000 && 0xD7FF < e then some ((s, 0xD7FF), (0xE000, e))
  else
    match [1, 2, 3].find? (fun i => s ≤ maxEncoded i && maxEncoded i < e) with
    | some i => some ((s, maxEncoded i), (maxEncoded i + 1, e))
    | none =>
      if e ≤ 0x7F then none
      else
        let block (i : Nat) : Nat := Nat.pow 2 (6 * i)
        let low (i : Nat) : Bool := s % block i != 0
        let high (i : Nat) : Bool := e % block i != block i - 1
        match [1, 2, 3].find? (fun i => s / block i != e / block i && (low i || high i)) with
        | some i =>
          if low i then some ((s, s - s % block i + block i - 1), (s - s % block i + block i, e))
          else some ((s, e - e % block i - 1), (e - e % block i, e))
        | none => none

/-- The byte-range sequences of the ranges on a stack, in order, within `fuel` steps. -/
def sequencesOf : Nat → List (Nat × Nat) → List (List (Nat × Nat))
  | 0, _ => []
  | _ + 1, [] => []
  | fuel + 1, (s, e) :: stack =>
    if e < s then sequencesOf fuel stack
    else
      match splitRange s e with
      | some (first, later) => sequencesOf fuel (first :: later :: stack)
      | none =>
        let seq := if e ≤ 0x7F then [(s, e)] else (utf8Bytes s).zip (utf8Bytes e)
        seq :: sequencesOf fuel stack

/-- The byte-range sequences that encode the characters of a set, in ascending order. -/
def utf8Sequences (s : CharSet) : List (List (Nat × Nat)) :=
  s.ranges.flatMap fun r => sequencesOf 256 [r]

/-! ## Counting states -/

/-- The states added so far and the bytes they hold beyond their fixed size. -/
structure Tally where
  states : Nat
  extra : Nat

/-- The bytes of the states counted. -/
def Tally.bytes (t : Tally) : Nat := stateSize * t.states + t.extra

/-- Building steps: they stop as soon as the automaton grows past the limit. -/
abbrev BuildM := StateT Tally (Except Unit)

/-- Add some states holding `extra` bytes between them beyond their fixed size. -/
def addStates (count extra : Nat) : BuildM Unit := do
  let t ← get
  let t' : Tally := { states := t.states + count, extra := t.extra + extra }
  if t'.bytes > sizeLimit then throw ()
  set t'

/-- Add a state holding `extra` bytes beyond its fixed size; give its number. -/
def addState (extra : Nat) : BuildM Nat := do
  let t ← get
  addStates 1 extra
  pure t.states

/-- Add a branch to a fork. -/
def addBranch : BuildM Unit :=
  addStates 0 4

/-- Point a state to another: a fork gains a branch, any other state only changes. -/
def pointFrom (fork : Bool) : BuildM Unit :=
  if fork then addBranch else pure ()

/-! ## Hashing -/

/-- The starting value of the FNV-1a hash. -/
def fnvOffset : UInt64 := 14695981039346656037

/-- The multiplier of the FNV-1a hash. -/
def fnvPrime : UInt64 := 1099511628211

/-- Mix a number into a hash. -/
def mix (h : UInt64) (x : Nat) : UInt64 :=
  (h ^^^ x.toUInt64) * fnvPrime

/-! ## Sets read forward -/

/-- A branch of a state: a byte range and the state it goes to. -/
abbrev Edge := Nat × Nat × Nat

/-- A state of the tree still being built: its finished branches, and the range of its
last branch while the state that branch goes to is not built yet. -/
structure Pending where
  edges : Array Edge
  last : Option (Nat × Nat)

/-- A pending state's branches, the last one going to `next`. -/
def Pending.close (p : Pending) (next : Nat) : Array Edge :=
  match p.last with
  | some (a, b) => p.edges.push (a, b, next)
  | none => p.edges

/-- The slot of a branching state in the table of 10000. -/
def edgesSlot (edges : Array Edge) : Nat :=
  (edges.foldl (fun h (a, b, next) => mix (mix (mix h a) b) next) fnvOffset).toNat % 10000

/-- The forward tree of a set while it is built: the state after the set, the pending
states from the top down, and the table of built states by slot. -/
structure Tree where
  target : Nat
  stack : Array Pending
  table : Std.HashMap Nat (Array Edge × Nat)

namespace Tree

/-- The state with these branches: the one in their slot when it has the same branches,
else a new one, which takes the slot. -/
def state (t : Tree) (edges : Array Edge) : BuildM (Tree × Nat) := do
  let slot := edgesSlot edges
  match t.table.get? slot with
  | some (e, id) => if e == edges then return (t, id) else pure ()
  | none => pure ()
  let id ← addState (8 * edges.size)
  pure ({ t with table := t.table.insert slot (edges, id) }, id)

/-- Let the last branch of the top pending state go to `next`. -/
def closeTop (t : Tree) (next : Nat) : Tree :=
  match t.stack.back? with
  | some p => { t with stack := t.stack.pop.push { edges := p.close next, last := none } }
  | none => t

/-- Build the pending states above the first `keep + 1`, the top one first, each going
to the one built before it and the first to the state after the set; the last branch of
the pending state left on top goes to the last one built.  There are no more rounds than
pending states. -/
def closeFrom (t : Tree) (keep : Nat) : BuildM Tree :=
  go t t.target t.stack.size
where
  /-- The rounds, building one state each. -/
  go (t : Tree) (next : Nat) : Nat → BuildM Tree
    | 0 => pure (t.closeTop next)
    | fuel + 1 =>
      match t.stack.back? with
      | some p =>
        if keep + 1 < t.stack.size then do
          let (t, id) ← state { t with stack := t.stack.pop } (p.close next)
          go t id fuel
        else pure (t.closeTop next)
      | none => pure (t.closeTop next)

/-- How many pending states, from the bottom, have a last branch over the ranges a
sequence starts with. -/
def shared : List Pending → List (Nat × Nat) → Nat
  | p :: ps, r :: rs => if p.last == some r then 1 + shared ps rs else 0
  | _, _ => 0

/-- Put the ranges of a sequence past its shared start on the stack: the first as the
last branch of the top state, each other one as a new pending state. -/
def push (t : Tree) : List (Nat × Nat) → Tree
  | [] => t
  | r :: rest =>
    let stack := match t.stack.back? with
      | some p => t.stack.pop.push { p with last := some r }
      | none => t.stack
    { t with stack := stack ++ (rest.map fun r => ({ edges := #[], last := some r } : Pending)).toArray }

/-- Add the next sequence of the set. -/
def add (t : Tree) (seq : List (Nat × Nat)) : BuildM Tree := do
  let n := shared t.stack.toList seq
  let t ← t.closeFrom n
  pure (t.push (seq.drop n))

/-- Build what is still pending, down to the first state. -/
def finish (t : Tree) : BuildM Unit := do
  let t ← t.closeFrom 0
  let root := (t.stack.back?.map (·.edges)).getD #[]
  let _ ← state { t with stack := t.stack.pop } root

end Tree

/-- Build the forward states of a set from its sequences. -/
def forwardSet (seqs : List (List (Nat × Nat))) : BuildM Unit := do
  let target ← addState 0
  let t : Tree := { target, stack := #[{ edges := #[], last := none }], table := {} }
  let t ← seqs.foldlM Tree.add t
  t.finish

/-! ## Sets read backward -/

/-- The slot of a chain state in the table of 1000: the state it goes to and its range. -/
def chainSlot (next a b : Nat) : Nat :=
  (mix (mix (mix fnvOffset next) a) b).toNat % 1000

/-- The chain states of a set: table of chain states by slot, keyed by the state they go
to and their range. -/
abbrev Chains := Std.HashMap Nat ((Nat × Nat × Nat) × Nat)

/-- Build the chain of one sequence, reading its ranges from the first, after the state
`next`; give the table and the state the chain starts with. -/
def chain (acc : Chains × Nat) (r : Nat × Nat) : BuildM (Chains × Nat) := do
  let (table, next) := acc
  let key := (next, r.1, r.2)
  let slot := chainSlot next r.1 r.2
  match table.get? slot with
  | some (k, id) => if k == key then return (table, id) else pure ()
  | none => pure ()
  let id ← addState 0
  pure (table.insert slot (key, id), id)

/-- Build the backward states of a set from its sequences: a fork, the state after the
set, and a chain for each sequence, each a branch of the fork. -/
def backwardSet (seqs : List (List (Nat × Nat))) : BuildM Unit := do
  let _ ← addState 0
  let after ← addState 0
  let _ ← seqs.foldlM (fun (table : Chains) seq => do
    let (table, _) ← seq.foldlM chain (table, after)
    addBranch
    pure table) {}

/-- Build the states of a set. -/
def setStates (backward : Bool) (s : CharSet) : BuildM Unit := do
  if s.ranges.all (·.2 ≤ 0x7F) then
    let _ ← addState 0
    let _ ← addState (8 * s.ranges.length)
  else if backward then backwardSet (utf8Sequences s)
  else forwardSet (utf8Sequences s)

/-! ## Alternations of literals -/

/-- A state of the trie of some literals: its branches by byte, in ascending order within
each run, and the ends of the runs after which a literal ends here. -/
structure TrieNode where
  edges : List (Nat × Nat)
  runs : Array (Nat × Nat)
  deriving Inhabited

/-- A fresh trie state. -/
def TrieNode.fresh : TrieNode := { edges := [], runs := #[] }

/-- A literal ends here and nothing goes on. -/
def TrieNode.isLeaf (n : TrieNode) : Bool := !n.runs.isEmpty && n.edges.isEmpty

/-- Where the run still open starts. -/
def TrieNode.openStart (n : TrieNode) : Nat :=
  match n.runs.back? with
  | some (_, e) => e
  | none => 0

/-- The state a byte leads to from a trie state, within its open run, added when there is
none. -/
def trieChild (t : Array TrieNode) (node b : Nat) : Array TrieNode × Nat :=
  let n := t.getD node TrieNode.fresh
  let start := n.openStart
  let active := n.edges.drop start
  match active.find? (·.1 == b) with
  | some (_, child) => (t, child)
  | none =>
    let child := t.size
    let pos := start + (active.filter (·.1 < b)).length
    let n' := { n with edges := n.edges.take pos ++ [(b, child)] ++ n.edges.drop pos }
    ((t.setIfInBounds node n').push TrieNode.fresh, child)

/-- Add a literal to the trie; one that goes through the end of an earlier one can never
be preferred to it and is left out. -/
def trieAdd (t : Array TrieNode) (bytes : List Nat) : Array TrieNode :=
  go t 0 bytes
where
  /-- Follow the bytes from a trie state. -/
  go (t : Array TrieNode) (node : Nat) : List Nat → Array TrieNode
    | [] =>
      let n := t.getD node TrieNode.fresh
      if n.edges.isEmpty && !n.runs.isEmpty then t
      else t.setIfInBounds node { n with runs := n.runs.push (n.openStart, n.edges.length) }
    | b :: rest =>
      if (t.getD node TrieNode.fresh).isLeaf then t
      else
        let (t, child) := trieChild t node b
        go t child rest

/-- The states and extra bytes of a trie state: a state for each run with branches (one
range, or a branching state), and a fork over those states with a branch to the end of
the literals for each run after the first. -/
def TrieNode.tally (n : TrieNode) : Nat × Nat :=
  let lengths := n.runs.toList.map (fun (a, b) => b - a) ++ [n.edges.length - n.openStart]
  let filled := lengths.filter (· > 0)
  let ranges := (filled.filter (· > 1)).foldl (fun acc k => acc + 8 * k) 0
  (filled.length + 1, ranges + 4 * (filled.length + n.runs.size))

/-- Build the states of alternatives that are all literals: the state after them, and the
tally of every trie state a literal goes on from. -/
def trieStates (backward : Bool) (lits : List (List Nat)) : BuildM Unit :=
  let t := lits.foldl (fun t bytes => trieAdd t (if backward then bytes.reverse else bytes))
    #[TrieNode.fresh]
  let (count, extra) := t.foldl (fun (acc : Nat × Nat) n =>
    if n.isLeaf then acc else (acc.1 + n.tally.1, acc.2 + n.tally.2)) (1, 0)
  addStates count extra

/-- The bytes of a literal node. -/
def literalOf : Node → Option (List Nat)
  | .literal bytes => some bytes
  | _ => none

/-! ## Expressions -/

/-- `n` copies of a part in a row, or an empty state for none; whether the last ends in
a fork. -/
def exactly (one : BuildM Bool) (n : Nat) : BuildM Bool := do
  if n == 0 then
    let _ ← addState 0
    return false
  let mut fork ← one
  for _ in [1:n] do
    pointFrom fork
    fork ← one
  return fork

/-- `n` optional copies of a part, after a part ending in a fork or not: each behind a
fork of its own with a branch to the state after them all; whether the last ends in a
fork. -/
def optional (one : BuildM Bool) (n : Nat) (fork : Bool) : BuildM Bool := do
  let mut fork := fork
  for _ in [0:n] do
    let _ ← addState 0
    let next ← one
    pointFrom fork
    addBranch
    addBranch
    fork := next
  return fork

/-- The states of a repetition of a part; `bodyMin` is the fewest bytes the part reads.
A loop over a part that may match the empty text is an optional run of one or more
copies.  Whether the repetition ends in a fork. -/
def repeatStates (one : BuildM Bool) (bodyMin : Option Nat) (min : Nat) (max : Option Nat) :
    BuildM Bool :=
  match min, max with
  | 0, some 1 => do
    let _ ← addState 0
    let fork ← one
    let _ ← addState 0
    addBranch
    addBranch
    pointFrom fork
    pure false
  | 0, none =>
    if bodyMin.any (· > 0) then do
      let _ ← addState 0
      let fork ← one
      addBranch
      pointFrom fork
      pure true
    else do
      let fork ← one
      let _ ← addState 0
      pointFrom fork
      addBranch
      let _ ← addState 0
      let _ ← addState 0
      addBranch
      addBranch
      addBranch
      pure false
  | 1, none => do
    let fork ← one
    let _ ← addState 0
    pointFrom fork
    addBranch
    pure true
  | n + 2, none => do
    let first ← exactly one (n + 1)
    let last ← one
    let _ ← addState 0
    pointFrom first
    pointFrom last
    addBranch
    pure true
  | min, some max =>
    if min == max then exactly one min
    else do
      let fork ← exactly one min
      let _ ← addState 0
      let last ← optional one (max - min) fork
      pointFrom last
      pure false

mutual

/-- Build the states of a node, reading forward or backward; whether it ends in a fork. -/
def build (backward : Bool) : Node → BuildM Bool
  | .empty | .look _ => do
    let _ ← addState 0
    pure false
  | .literal bytes => do
    addStates bytes.length 0
    pure false
  | .set s => do
    setStates backward s
    pure false
  | .group _ body =>
    if backward then build backward body
    else do
      let _ ← addState 0
      let fork ← build backward body
      let _ ← addState 0
      pointFrom fork
      pure false
  | .concat items => if backward then buildRowBack backward items else buildRow backward items
  | .alternation branches =>
    match branches.mapM literalOf with
    | some lits => do
      trieStates backward lits
      pure false
    | none => buildChoice backward branches
  | .rep body min max _ => repeatStates (build backward body) (Node.minLen body) min max

/-- Parts in a row, built first to last; whether the last ends in a fork. -/
def buildRow (backward : Bool) : List Node → BuildM Bool
  | [] => do
    let _ ← addState 0
    pure false
  | [n] => build backward n
  | n :: rest => do
    let fork ← build backward n
    pointFrom fork
    buildRow backward rest

/-- Parts in a row, built last to first; whether the first ends in a fork. -/
def buildRowBack (backward : Bool) : List Node → BuildM Bool
  | [] => do
    let _ ← addState 0
    pure false
  | [n] => build backward n
  | n :: rest => do
    let fork ← buildRowBack backward rest
    pointFrom fork
    build backward n

/-- Alternatives: the first two, then a fork and the state joining them, then the rest;
each alternative is a branch of the fork and goes to the joining state. -/
def buildChoice (backward : Bool) : List Node → BuildM Bool
  | [] => do
    let _ ← addState 0
    pure false
  | [n] => build backward n
  | a :: b :: rest => do
    let fa ← build backward a
    let fb ← build backward b
    let _ ← addState 0
    let _ ← addState 0
    addBranch
    pointFrom fa
    addBranch
    pointFrom fb
    buildChoiceRest backward rest
    pure false

/-- The alternatives after the first two. -/
def buildChoiceRest (backward : Bool) : List Node → BuildM Unit
  | [] => pure ()
  | n :: rest => do
    let fork ← build backward n
    addBranch
    pointFrom fork
    buildChoiceRest backward rest

end

/-- The automaton of a canonical expression, reading forward or backward: a loop over any
byte that lets a match start anywhere, unless every match is anchored at that end (one
empty state then); the capturing group of the whole match when reading forward; the
expression; and the accepting state. -/
def automaton (backward : Bool) (n : Node) : BuildM Unit := do
  let anchored := if backward then n.endsWith .textEnd else n.startsWith .textStart
  if anchored then
    let _ ← addState 0
  else
    let _ ← addState 0
    let _ ← addState 0
    let _ ← addState 8
    addBranch
  if backward then
    let fork ← build true n
    let _ ← addState 0
    pointFrom fork
  else
    let _ ← addState 0
    let fork ← build false n
    let _ ← addState 0
    pointFrom fork
    let _ ← addState 0
  if !anchored then addBranch

/-- Whether an automaton stays within the limit. -/
def within (backward : Bool) (n : Node) : Bool :=
  match (automaton backward n).run { states := 0, extra := 0 } with
  | .ok _ => true
  | .error _ => false

/-- Whether a canonical expression is an alternation of 3000 literals or more. -/
def manyLiterals : Node → Bool
  | .alternation branches => branches.length ≥ 3000 && (branches.mapM literalOf).isSome
  | _ => false

/-- Whether both automata of an expression stay within the limit. -/
def fits (h : Hir) : Bool :=
  let n := (canonical 1 h).1
  manyLiterals n || (within false n && within true n)

end Footprint
end Regex
end ShapeSearch
