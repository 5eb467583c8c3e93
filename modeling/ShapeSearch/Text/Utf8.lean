/-!
# Reading UTF-8

Source files are bytes.  `Utf8.decodeHead` reads one well-formed character at
the start of a byte list.  `Utf8.lossy` reads a whole byte list as text, putting
one replacement character U+FFFD for each maximal ill-formed stretch: the bytes
that begin a sequence and continue it correctly for as long as possible, or a
single byte that can begin no sequence at all.

A well-formed sequence is a lead byte followed by the number of continuation
bytes it announces; the second byte's range is narrowed after `E0`, `ED`, `F0`
and `F4` so that overlong forms, surrogates and values above U+10FFFF are
excluded.
-/

namespace ShapeSearch
namespace Utf8

/-- The replacement character. -/
def replacement : Char := Char.ofNat 0xFFFD

/-- For a lead byte: how many continuation bytes follow and the range of the first one. -/
def leadShape (b : UInt8) : Option (Nat × UInt8 × UInt8) :=
  if 0xC2 ≤ b && b ≤ 0xDF then some (1, 0x80, 0xBF)
  else if b == 0xE0 then some (2, 0xA0, 0xBF)
  else if (0xE1 ≤ b && b ≤ 0xEC) || b == 0xEE || b == 0xEF then some (2, 0x80, 0xBF)
  else if b == 0xED then some (2, 0x80, 0x9F)
  else if b == 0xF0 then some (3, 0x90, 0xBF)
  else if 0xF1 ≤ b && b ≤ 0xF3 then some (3, 0x80, 0xBF)
  else if b == 0xF4 then some (3, 0x80, 0x8F)
  else none

/-- Whether a byte continues a sequence. -/
def isContinuation (b : UInt8) : Bool :=
  0x80 ≤ b && b ≤ 0xBF

/-- How many bytes after the lead byte continue its sequence correctly (at most `need`). -/
def validTail (need : Nat) (lo hi : UInt8) : List UInt8 → Nat
  | [] => 0
  | x :: xs =>
    if need == 0 then 0
    else if lo ≤ x && x ≤ hi then 1 + validTail (need - 1) 0x80 0xBF xs
    else 0

/-- The code point of a lead byte and its continuation bytes. -/
def codePoint (lead : UInt8) (tail : List UInt8) : Nat :=
  let first := match tail.length with
    | 1 => lead.toNat &&& 0x1F
    | 2 => lead.toNat &&& 0x0F
    | _ => lead.toNat &&& 0x07
  tail.foldl (fun n b => n * 64 + (b.toNat &&& 0x3F)) first

/-- One well-formed character at the start of the bytes, with its length; `none` when
the bytes do not start with one. -/
def decodeHead : List UInt8 → Option (Char × Nat)
  | [] => none
  | b :: rest =>
    if b < 0x80 then some (Char.ofNat b.toNat, 1)
    else match leadShape b with
      | some (need, lo, hi) =>
        if validTail need lo hi rest == need then
          some (Char.ofNat (codePoint b (rest.take need)), need + 1)
        else none
      | none => none

/-- The number of bytes one step of lossy reading consumes at the start of the bytes
(at least one when there are bytes). -/
def stepLength : List UInt8 → Nat
  | [] => 0
  | b :: rest =>
    if b < 0x80 then 1
    else match leadShape b with
      | some (need, lo, hi) => 1 + validTail need lo hi rest
      | none => 1

theorem validTail_le (need : Nat) (lo hi : UInt8) (xs : List UInt8) :
    validTail need lo hi xs ≤ xs.length := by
  induction xs generalizing need lo hi with
  | nil => simp [validTail]
  | cons x xs ih =>
    simp only [validTail, List.length_cons]
    split
    · omega
    · split
      · have := ih (need - 1) 0x80 0xBF; omega
      · omega

theorem stepLength_pos (b : UInt8) (rest : List UInt8) : 0 < stepLength (b :: rest) := by
  simp only [stepLength]
  split
  · omega
  · split <;> omega

theorem stepLength_le (b : UInt8) (rest : List UInt8) :
    stepLength (b :: rest) ≤ (b :: rest).length := by
  simp only [stepLength, List.length_cons]
  split
  · omega
  · split
    · rename_i need lo hi _
      have := validTail_le need lo hi rest; omega
    · omega

/-- Read bytes as text, one replacement character per maximal ill-formed stretch. -/
def lossyChars : List UInt8 → List Char
  | [] => []
  | b :: rest =>
    let c := match decodeHead (b :: rest) with
      | some (c, _) => c
      | none => replacement
    c :: lossyChars ((b :: rest).drop (stepLength (b :: rest)))
termination_by bytes => bytes.length
decreasing_by
  have h1 := stepLength_pos b rest
  have h2 := stepLength_le b rest
  simp only [List.length_drop, List.length_cons] at h2 ⊢
  omega

/-- Read bytes as text, one replacement character per maximal ill-formed stretch. -/
def lossy (bytes : ByteArray) : String :=
  String.ofList (lossyChars bytes.toList)

/-- Read a stretch of bytes as text. -/
def lossySlice (bytes : ByteArray) (start stop : Nat) : String :=
  String.ofList (lossyChars ((bytes.toList.drop start).take (stop - start)))

end Utf8
end ShapeSearch
