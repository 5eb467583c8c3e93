/-!
# Tables of code point ranges

The property tables write a set of code points as a list of ranges separated by
commas, in ascending order.  A range is one hexadecimal code point, or two joined
by a hyphen: the first and the last of the range, both included.  For instance
`30-39,41-46,61-66` is the set of hexadecimal digits.

`readRanges` turns such a text into the list of its ranges; a piece that is not
a range is skipped.  `inRanges` looks a code point up in ranges kept in an array,
by binary search.
-/

namespace ShapeSearch
namespace Unicode

/-- The value of a hexadecimal numeral written with digits and capitals. -/
def hexNumeral (s : String) : Nat :=
  s.toList.foldl (fun n d => 16 * n + (if d.isDigit then d.toNat - '0'.toNat else d.toNat - 'A'.toNat + 10)) 0

/-- One range of a table: `HHHH` or `HHHH-HHHH`. -/
def readRange (piece : String) : Option (Nat × Nat) :=
  match piece.splitOn "-" with
  | [a] => if a.isEmpty then none else some (hexNumeral a, hexNumeral a)
  | [a, b] => some (hexNumeral a, hexNumeral b)
  | _ => none

/-- The ranges written in a table. -/
def readRanges (text : String) : List (Nat × Nat) :=
  (text.splitOn ",").filterMap readRange

/-- Whether a code point lies in one of the ascending ranges between positions `lo`
and `hi` of an array. -/
def findRange (rs : Array (Nat × Nat)) (cp lo hi : Nat) : Bool :=
  if _h : lo < hi then
    let mid := (lo + hi) / 2
    let r := rs.getD mid (0, 0)
    if cp < r.1 then findRange rs cp lo mid
    else if r.2 < cp then findRange rs cp (mid + 1) hi
    else true
  else false
termination_by hi - lo

/-- Whether a code point lies in one of ascending ranges. -/
def inRanges (rs : Array (Nat × Nat)) (cp : Nat) : Bool :=
  findRange rs cp 0 rs.size

end Unicode
end ShapeSearch
