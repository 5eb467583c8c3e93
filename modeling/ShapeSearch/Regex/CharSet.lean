import ShapeSearch.Text.CaseFold

/-!
# Sets of characters

A class of a regular expression denotes a set of characters, kept as a list of
inclusive ranges of code points in ascending order, pairwise disjoint and not
adjacent (`CharSet.normalize` brings any list of ranges into that form).  The
set operations of bracketed classes, negation and closing a set under case
variants are all computed on these ranges.
-/

namespace ShapeSearch
namespace Regex

/-- The largest code point. -/
def maxCodePoint : Nat := 0x10FFFF

/-- A set of characters as ascending, disjoint, non-adjacent inclusive ranges of code points. -/
structure CharSet where
  ranges : List (Nat × Nat)
  deriving Repr, DecidableEq, Inhabited

namespace CharSet

/-- Merge a range into ascending ranges whose last one is at the head (reversed order). -/
def pushRange (acc : List (Nat × Nat)) (r : Nat × Nat) : List (Nat × Nat) :=
  match acc with
  | (lo, hi) :: rest => if r.1 ≤ hi + 1 then (lo, max hi r.2) :: rest else r :: acc
  | [] => [r]

/-- Sort ranges, drop empty ones and merge the overlapping and adjacent ones. -/
def normalize (rs : List (Nat × Nat)) : CharSet :=
  let sorted := (rs.filter fun r => r.1 ≤ r.2).mergeSort fun a b => a.1 ≤ b.1
  ⟨(sorted.foldl pushRange []).reverse⟩

/-- The empty set. -/
def empty : CharSet := ⟨[]⟩

/-- The set of one character. -/
def single (c : Char) : CharSet := ⟨[(c.toNat, c.toNat)]⟩

/-- The set of the characters between two code points. -/
def range (lo hi : Nat) : CharSet := normalize [(lo, hi)]

/-- Every character. -/
def full : CharSet := ⟨[(0, maxCodePoint)]⟩

/-- Whether a character is in the set. -/
def contains (s : CharSet) (c : Char) : Bool :=
  s.ranges.any fun r => r.1 ≤ c.toNat && c.toNat ≤ r.2

/-- All characters of either set. -/
def union (a b : CharSet) : CharSet := normalize (a.ranges ++ b.ranges)

/-- The gaps between ascending ranges, starting from `next`. -/
def gaps (next : Nat) : List (Nat × Nat) → List (Nat × Nat)
  | [] => if next ≤ maxCodePoint then [(next, maxCodePoint)] else []
  | (lo, hi) :: rest =>
    (if next < lo then [(next, lo - 1)] else []) ++ gaps (hi + 1) rest

/-- The characters not in the set. -/
def complement (s : CharSet) : CharSet := ⟨gaps 0 s.ranges⟩

/-- The characters in both sets. -/
def inter (a b : CharSet) : CharSet := complement (union (complement a) (complement b))

/-- The characters of the first set that are not in the second. -/
def diff (a b : CharSet) : CharSet := inter a (complement b)

/-- The characters in exactly one of the sets. -/
def symmDiff (a b : CharSet) : CharSet := diff (union a b) (inter a b)

/-- Add every case variant of every character of the set. -/
def caseClose (s : CharSet) : CharSet :=
  let variants := caseClasses.toList.filterMap fun (c, cls) =>
    if s.ranges.any (fun r => r.1 ≤ c && c ≤ r.2) then some (cls.map fun v => (v, v)) else none
  normalize (s.ranges ++ variants.flatten)

/-- Whether every character of the set is ASCII. -/
def isAscii (s : CharSet) : Bool :=
  s.ranges.all fun r => r.2 < 128

end CharSet

end Regex
end ShapeSearch
