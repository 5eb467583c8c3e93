import ShapeSearch.Text.Category
import ShapeSearch.Text.Unicode.Ranges
import ShapeSearch.Text.Unicode.Wide

/-!
# Display width

How many terminal columns a text takes: the sum of the columns of its characters,
each counted on its own, so that a sequence drawn as one picture counts as its parts.

* control characters take none;
* nonspacing and enclosing marks and format characters take none, the soft hyphen
  apart, which shows as a hyphen and takes one;
* the Hangul vowel and final consonant jamo of `U+1160`–`U+11FF` take none: they join
  the leading consonant before them into one syllable block;
* wide and fullwidth characters (`Unicode.wideText`) take two;
* every other character takes one.
-/

namespace ShapeSearch

namespace Width

/-- The wide and fullwidth characters. -/
def wideRanges : Array (Nat × Nat) :=
  (Unicode.readRanges Unicode.wideText).toArray

/-- Whether a character is a control character. -/
def isControl (c : Char) : Bool :=
  c.toNat < 0x20 || (0x7F ≤ c.toNat && c.toNat < 0xA0)

/-- Whether a character is a Hangul vowel or final consonant jamo of the conjoining
block. -/
def isJoiningJamo (c : Char) : Bool :=
  0x1160 ≤ c.toNat && c.toNat ≤ 0x11FF

/-- Whether a character is drawn as nothing: a nonspacing or enclosing mark, a format
character other than the soft hyphen, or a joining jamo. -/
def isZeroWidth (c : Char) : Bool :=
  isJoiningJamo c ||
    (c != '\u00AD' &&
      match generalCategory c with
      | .Mn | .Me | .Cf => true
      | _ => false)

/-- The columns one character takes. -/
def charWidth (c : Char) : Nat :=
  if isControl c then 0
  else if isZeroWidth c then 0
  else if Unicode.inRanges wideRanges c.toNat then 2
  else 1

end Width

/-- The columns a text takes. -/
def textWidth (s : String) : Nat :=
  s.toList.foldr (fun c n => Width.charWidth c + n) 0

end ShapeSearch
