import ShapeSearch.Text.Category
import ShapeSearch.Text.Unicode.Binary
import ShapeSearch.Text.Unicode.Age

/-!
# Character properties

Properties of characters that the regular expressions and the grammars ask
about, each defined from the general category table, the property tables and a
few fixed lists of the Unicode standard:

* white space (`isWhiteSpace`): the `White_Space` property, a fixed list;
* alphabetic (`isAlphabetic`): the `Alphabetic` property;
* numeric (`isNumeric`): the three number categories;
* word characters (`isWordChar`): alphabetic, marks, decimal digits, connector
  punctuation and the two joiners, the class that `\w` and `\b` use;
* identifier characters (`isIdentifierStartChar`, `isIdentifierContinueChar`): the
  `XID_Start` and `XID_Continue` properties and the underscore, as version 15.1 of
  the standard has them: the grammars' tables predate the characters that 16.0
  assigned.
-/

namespace ShapeSearch

/-- The `White_Space` property of Unicode. -/
def isWhiteSpace (c : Char) : Bool :=
  let n := c.toNat
  (0x09 ≤ n && n ≤ 0x0D) || n == 0x20 || n == 0x85 || n == 0xA0 || n == 0x1680 ||
    (0x2000 ≤ n && n ≤ 0x200A) || n == 0x2028 || n == 0x2029 || n == 0x202F ||
    n == 0x205F || n == 0x3000

/-- A letter of any kind. -/
def isLetter (c : Char) : Bool :=
  (generalCategory c).major == 'L'

/-- Whether a character is alphabetic. -/
def isAlphabetic (c : Char) : Bool :=
  Unicode.isAlphabetic c

/-- A character of one of the number categories. -/
def isNumeric (c : Char) : Bool :=
  (generalCategory c).major == 'N'

/-- Alphabetic or numeric. -/
def isAlphanumeric (c : Char) : Bool :=
  isAlphabetic c || isNumeric c

/-- A decimal digit of any script (category `Nd`). -/
def isDecimalDigit (c : Char) : Bool :=
  generalCategory c == .Nd

/-- A word character: alphabetic, a mark, a decimal digit, connector punctuation, or a joiner. -/
def isWordChar (c : Char) : Bool :=
  c.isAlphanum || c == '_' ||
    (c.toNat ≥ 0x80 &&
      (isAlphabetic c || (generalCategory c).major == 'M' || generalCategory c == .Nd ||
        generalCategory c == .Pc || c.toNat == 0x200C || c.toNat == 0x200D))

/-- The characters that may start an identifier. -/
def identifierStartRanges : Array (Nat × Nat) :=
  Unicode.propertyRanges "XID_Start"

/-- The characters that may continue an identifier. -/
def identifierContinueRanges : Array (Nat × Nat) :=
  Unicode.propertyRanges "XID_Continue"

/-- The characters that version 16.0 of the standard assigned. -/
def newestRanges : Array (Nat × Nat) :=
  (Unicode.readRanges ((Unicode.addedText "V16_0").getD "")).toArray

/-- Whether a character may start an identifier: the underscore or an `XID_Start`
character assigned before version 16.0. -/
def isIdentifierStartChar (c : Char) : Bool :=
  c == '_' || (c.toNat < 128 && c.isAlpha) ||
    (c.toNat ≥ 128 && Unicode.inRanges identifierStartRanges c.toNat &&
      !Unicode.inRanges newestRanges c.toNat)

/-- Whether a character may continue an identifier: the underscore or an
`XID_Continue` character assigned before version 16.0. -/
def isIdentifierContinueChar (c : Char) : Bool :=
  c == '_' || (c.toNat < 128 && c.isAlphanum) ||
    (c.toNat ≥ 128 && Unicode.inRanges identifierContinueRanges c.toNat &&
      !Unicode.inRanges newestRanges c.toNat)

end ShapeSearch
