import ShapeSearch.Text.Utf8
import ShapeSearch.Tree.Basic

/-!
# Source text for parsing

Parsers read a source as a sequence of characters, each with the byte offset at
which it starts.  Bytes that do not form a well-formed character are read as one
character `invalidChar` per maximal ill-formed stretch, and the indices of those
characters are kept, so that a grammar whose tokens accept every character but a
few can still tell an ill-formed stretch from that character itself.  Points are counted in bytes: the row is the number
of newline bytes before an offset and the column the number of bytes since the
last of them.
-/

namespace ShapeSearch
namespace Syntax

/-- The character standing for an ill-formed byte stretch. -/
def invalidChar : Char := Char.ofNat 0xFFFE

/-- A source: its bytes, its characters with their byte offsets, the offsets at
which its lines start, and the ascending indices of the characters that stand for
ill-formed bytes. -/
structure Source where
  bytes : ByteArray
  chars : Array Char
  offsets : Array Nat
  lineStarts : Array Nat
  invalids : Array Nat := #[]
  deriving Inhabited

namespace Source

/-- Decode bytes into characters with their offsets, and the indices of the
characters that stand for ill-formed bytes. -/
def decodeFrom : List UInt8 → Nat → Array Char → Array Nat → Array Nat →
    Array Char × Array Nat × Array Nat
  | [], _, cs, os, bad => (cs, os, bad)
  | b :: rest, at_, cs, os, bad =>
    let (c, bad) := match Utf8.decodeHead (b :: rest) with
      | some (c, _) => (c, bad)
      | none => (invalidChar, bad.push cs.size)
    let n := Utf8.stepLength (b :: rest)
    decodeFrom ((b :: rest).drop n) (at_ + n) (cs.push c) (os.push at_) bad
termination_by bytes => bytes.length
decreasing_by
  have h1 := Utf8.stepLength_pos b rest
  have h2 := Utf8.stepLength_le b rest
  simp only [List.length_drop, List.length_cons] at h2 ⊢
  omega

/-- The offsets at which lines start: zero and one past every newline byte. -/
def lineStartsOf (bytes : ByteArray) : Array Nat :=
  (bytes.toList.zipIdx.foldl (fun acc (b, i) => if b == 10 then acc.push (i + 1) else acc) #[0])

/-- A source from its bytes. -/
def ofBytes (bytes : ByteArray) : Source :=
  let (chars, offsets, invalids) := decodeFrom bytes.toList 0 #[] #[] #[]
  { bytes, chars, offsets, lineStarts := lineStartsOf bytes, invalids }

/-- The number of characters. -/
def length (s : Source) : Nat :=
  s.chars.size

/-- The character at an index, if there is one. -/
def char? (s : Source) (i : Nat) : Option Char :=
  s.chars[i]?

/-- The byte offset of the character at an index; the end of the bytes past the last. -/
def offset (s : Source) (i : Nat) : Nat :=
  s.offsets.getD i s.bytes.size

/-- The last line start at or before an offset, found by halving the range `lo..hi`. -/
def lineOf (s : Source) (byte lo hi : Nat) : Nat :=
  if h : lo + 1 < hi then
    let mid := (lo + hi) / 2
    if s.lineStarts.getD mid 0 ≤ byte then lineOf s byte mid hi else lineOf s byte lo mid
  else lo
termination_by hi - lo

/-- The point of a byte offset: its row and its column in bytes. -/
def point (s : Source) (byte : Nat) : Point :=
  let row := s.lineOf byte 0 s.lineStarts.size
  ⟨row, byte - s.lineStarts.getD row 0⟩

/-- Whether the ascending indices `xs` hold `i` between positions `lo` and `hi`,
found by halving. -/
def holdsBetween (xs : Array Nat) (i lo hi : Nat) : Bool :=
  if lo < hi then
    let mid := (lo + hi) / 2
    let x := xs.getD mid 0
    if x == i then true else if x < i then holdsBetween xs i (mid + 1) hi else holdsBetween xs i lo mid
  else false
termination_by hi - lo

/-- Whether the character at an index stands for ill-formed bytes. -/
def isInvalid (s : Source) (i : Nat) : Bool :=
  !s.invalids.isEmpty && holdsBetween s.invalids i 0 s.invalids.size

/-- The text between two character indices. -/
def slice (s : Source) (start stop : Nat) : String :=
  String.ofList (s.chars.extract start stop).toList

end Source

end Syntax
end ShapeSearch
