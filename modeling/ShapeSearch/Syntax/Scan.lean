import ShapeSearch.Syntax.Source

/-!
# Scanning characters

Small scanning steps shared by the lexers: the character at an index, whether a
text starts at an index, and how far a run of characters of a class reaches.
-/

namespace ShapeSearch
namespace Syntax
namespace Source

/-- The character at an index, or NUL past the end. -/
def get (s : Source) (i : Nat) : Char :=
  s.chars.getD i (Char.ofNat 0)

/-- Whether an index is past the last character. -/
def atEnd (s : Source) (i : Nat) : Bool :=
  s.chars.size ≤ i

/-- Whether the characters from an index spell a text. -/
def startsWith (s : Source) (i : Nat) (t : String) : Bool :=
  (t.foldl (fun (acc : Bool × Nat) c => (acc.1 && s.chars[acc.2]? == some c, acc.2 + 1)) (true, i)).1

/-- The first index at or after `i` whose character fails `p` (or the end). -/
def skipWhile (s : Source) (p : Char → Bool) (i : Nat) : Nat :=
  if h : i < s.chars.size then
    if p s.chars[i] then s.skipWhile p (i + 1) else i
  else i
termination_by s.chars.size - i

/-- The first index at or after `i` where the text `t` starts, or the end. -/
def findText (s : Source) (t : String) (i : Nat) : Nat :=
  if i < s.chars.size then
    if s.startsWith i t then i else s.findText t (i + 1)
  else s.chars.size
termination_by s.chars.size - i

theorem le_skipWhile (s : Source) (p : Char → Bool) (i : Nat) : i ≤ s.skipWhile p i := by
  induction i using Source.skipWhile.induct s p with
  | case1 i h hp ih => rw [skipWhile, dif_pos h, if_pos hp]; omega
  | case2 i h hp => exact Nat.le_of_eq (by rw [skipWhile, dif_pos h, if_neg hp])
  | case3 i h => exact Nat.le_of_eq (by rw [skipWhile, dif_neg h])

end Source
end Syntax
end ShapeSearch
