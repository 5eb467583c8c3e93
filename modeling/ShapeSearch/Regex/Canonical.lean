import ShapeSearch.Regex.Resolve

/-!
# The form an expression is built in

Before its automata are built, a resolved expression is put in a canonical form
(`Node`), whose constructors simplify as they go:

* a set of one character is the literal of its UTF-8 bytes, and adjacent literals of a
  sequence are one literal;
* sequences and alternations are flattened, and a sequence drops its empty parts;
* alternatives that are all single characters, or all sets, are one set;
* alternatives that are all sequences starting with the same parts have those parts
  lifted out in front of an alternation of the rests;
* a repetition of a part that only matches the empty text repeats at most once, and
  repetitions of no copy and of exactly one copy are the empty expression and the part.

Capturing groups are numbered in order, so that two groups are never equal.
-/

namespace ShapeSearch
namespace Regex

/-- The UTF-8 bytes of a code point. -/
def utf8Bytes (c : Nat) : List Nat :=
  (String.utf8EncodeChar (Char.ofNat c)).map (·.toNat)

/-- An expression in the form its automata are built from. -/
inductive Node where
  /-- Matches the empty text. -/
  | empty
  /-- Reads these bytes, at least one. -/
  | literal (bytes : List Nat)
  /-- Reads one character of a set that is not a single character; the empty set never
  matches. -/
  | set (s : CharSet)
  /-- A zero-width assertion. -/
  | look (l : Look)
  /-- A repetition, lazy unless greedy. -/
  | rep (body : Node) (min : Nat) (max : Option Nat) (greedy : Bool)
  /-- A capturing group and its number. -/
  | group (index : Nat) (body : Node)
  /-- At least two parts in a row. -/
  | concat (items : List Node)
  /-- At least two alternatives. -/
  | alternation (branches : List Node)
  deriving Inhabited, BEq

namespace Node

/-- The expression that never matches. -/
def never : Node := .set CharSet.empty

/-- A set: one character is its literal. -/
def ofSet (s : CharSet) : Node :=
  match s.ranges with
  | [(a, b)] => if a == b then .literal (utf8Bytes a) else .set s
  | _ => .set s

/-- Join adjacent literals. -/
def joinLiterals : List Node → List Node
  | [] => []
  | .literal a :: rest =>
    match joinLiterals rest with
    | .literal b :: more => .literal (a ++ b) :: more
    | more => .literal a :: more
  | n :: rest => n :: joinLiterals rest

/-- Parts in a row: nested sequences flattened, empty parts dropped, literals joined. -/
def sequence (items : List Node) : Node :=
  let flat := items.flatMap fun
    | .concat xs => xs
    | .empty => []
    | n => [n]
  match joinLiterals flat with
  | [] => .empty
  | [n] => n
  | ns => .concat ns

/-- The character a literal spells, when it spells exactly one. -/
def singleChar : Node → Option Nat
  | .literal bytes =>
    match String.fromUTF8? (ByteArray.mk (bytes.map (·.toUInt8)).toArray) with
    | some s =>
      match s.toList with
      | [c] => some c.toNat
      | _ => none
    | none => none
  | _ => none

/-- The set of a set node. -/
def setOf : Node → Option CharSet
  | .set s => some s
  | _ => none

/-- The parts of a sequence node. -/
def partsOf : Node → Option (List Node)
  | .concat xs => some xs
  | _ => none

/-- How many parts two sequences start with in common. -/
def commonParts : List Node → List Node → Nat
  | a :: as, b :: bs => if a == b then 1 + commonParts as bs else 0
  | _, _ => 0

/-- Alternatives, given as at least two flattened branches.  Lifting a common start out
leaves rests that start differently, so one level of lifting is all there is; `fuel`
bounds it. -/
def choiceOf : Nat → List Node → Node
  | fuel, branches =>
    match branches.mapM singleChar with
    | some cs => ofSet (CharSet.normalize (cs.map fun c => (c, c)))
    | none =>
      match branches.mapM setOf with
      | some ss => ofSet (ss.foldl CharSet.union CharSet.empty)
      | none =>
        match fuel, branches.mapM partsOf with
        | fuel + 1, some (first :: rest) =>
          let n := rest.foldl (fun n xs => Nat.min n (commonParts first xs)) first.length
          if n == 0 then .alternation branches
          else
            let rests := (first :: rest).map fun xs => sequence (xs.drop n)
            let flat := rests.flatMap fun
              | .alternation xs => xs
              | r => [r]
            let tail := match flat with
              | [] => never
              | [r] => r
              | _ => choiceOf fuel flat
            sequence (first.take n ++ [tail])
        | _, _ => .alternation branches

/-- Alternatives: nested alternations flattened; no alternative never matches. -/
def choice (branches : List Node) : Node :=
  let flat := branches.flatMap fun
    | .alternation xs => xs
    | n => [n]
  match flat with
  | [] => never
  | [n] => n
  | _ => choiceOf 2 flat

/-- The fewest bytes a match reads, if it can match at all. -/
def minLen : Node → Option Nat
  | .empty | .look _ => some 0
  | .literal bytes => some bytes.length
  | .set s =>
    match s.ranges with
    | (a, _) :: _ => some (utf8Bytes a).length
    | [] => none
  | .rep body min _ _ => (minLen body).map (· * min)
  | .group _ body => minLen body
  | .concat items => minLenSum items
  | .alternation branches => minLenLeast branches
where
  /-- The sum over parts in a row. -/
  minLenSum : List Node → Option Nat
    | [] => some 0
    | n :: rest => do pure ((← minLen n) + (← minLenSum rest))
  /-- The least over alternatives. -/
  minLenLeast : List Node → Option Nat
    | [] => none
    | [n] => minLen n
    | n :: rest => do pure (Nat.min (← minLen n) (← minLenLeast rest))

/-- The most bytes a match reads, if there is a bound. -/
def maxLen : Node → Option Nat
  | .empty | .look _ => some 0
  | .literal bytes => some bytes.length
  | .set s =>
    match s.ranges.getLast? with
    | some (_, b) => some (utf8Bytes b).length
    | none => none
  | .rep body _ max _ => do pure ((← maxLen body) * (← max))
  | .group _ body => maxLen body
  | .concat items => maxLenSum items
  | .alternation branches => maxLenMost branches
where
  /-- The sum over parts in a row. -/
  maxLenSum : List Node → Option Nat
    | [] => some 0
    | n :: rest => do pure ((← maxLen n) + (← maxLenSum rest))
  /-- The most over alternatives. -/
  maxLenMost : List Node → Option Nat
    | [] => none
    | [n] => maxLen n
    | n :: rest => do pure (Nat.max (← maxLen n) (← maxLenMost rest))

/-- A repetition: a part that only matches the empty text repeats at most once; no copy
is the empty expression and exactly one copy is the part. -/
def repetition (body : Node) (min : Nat) (max : Option Nat) (greedy : Bool) : Node :=
  let (min, max) :=
    if maxLen body == some 0 then (Nat.min min 1, some (Nat.min (max.getD 1) 1)) else (min, max)
  if min == 0 && max == some 0 then .empty
  else if min == 1 && max == some 1 then body
  else .rep body min max greedy

/-- Whether every match starts with the assertion `l`: the assertions a sequence starts
with are those of its parts up to the first that may read something. -/
def startsWith (l : Look) : Node → Bool
  | .look l' => l' == l
  | .rep body min _ _ => min > 0 && startsWith l body
  | .group _ body => startsWith l body
  | .concat items => startsWithAll l items
  | .alternation branches => startsWithEach l branches
  | _ => false
where
  /-- Through the parts of a sequence, from the first. -/
  startsWithAll (l : Look) : List Node → Bool
    | [] => false
    | n :: rest => startsWith l n || (maxLen n == some 0 && startsWithAll l rest)
  /-- For every alternative. -/
  startsWithEach (l : Look) : List Node → Bool
    | [] => true
    | n :: rest => startsWith l n && startsWithEach l rest

/-- Whether every match ends with the assertion `l`: the assertions a sequence ends
with are those of its parts back to the last that may read something. -/
def endsWith (l : Look) : Node → Bool
  | .look l' => l' == l
  | .rep body min _ _ => min > 0 && endsWith l body
  | .group _ body => endsWith l body
  | .concat items => endsWithAll l items
  | .alternation branches => endsWithEach l branches
  | _ => false
where
  /-- Through the parts of a sequence: a part counts when every part after it only
  matches the empty text. -/
  endsWithAll (l : Look) : List Node → Bool
    | [] => false
    | n :: rest => endsWithAll l rest || (rest.all (maxLen · == some 0) && endsWith l n)
  /-- For every alternative. -/
  endsWithEach (l : Look) : List Node → Bool
    | [] => true
    | n :: rest => endsWith l n && endsWithEach l rest

end Node

mutual

/-- The canonical form of a resolved expression; capturing groups are numbered from
`next` on, and the number after the last is given back. -/
def canonical (next : Nat) : Hir → Node × Nat
  | .empty => (.empty, next)
  | .chars s => (Node.ofSet s, next)
  | .look l => (.look l, next)
  | .capture body =>
    let (b, after) := canonical (next + 1) body
    (.group next b, after)
  | .rep body min max greedy =>
    let (b, after) := canonical next body
    (Node.repetition b min max greedy, after)
  | .seq items =>
    let (ns, after) := canonicalAll next items
    (Node.sequence ns, after)
  | .alt branches =>
    let (ns, after) := canonicalAll next branches
    (Node.choice ns, after)

/-- The canonical forms of a list of expressions, groups numbered in order. -/
def canonicalAll (next : Nat) : List Hir → List Node × Nat
  | [] => ([], next)
  | h :: rest =>
    let (n, mid) := canonical next h
    let (ns, after) := canonicalAll mid rest
    (n :: ns, after)

end

end Regex
end ShapeSearch
