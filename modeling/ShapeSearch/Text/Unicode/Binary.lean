import ShapeSearch.Text.Unicode.Letters
import ShapeSearch.Text.Unicode.Identifiers
import ShapeSearch.Text.Unicode.Graphemes
import ShapeSearch.Text.Unicode.Emoji
import ShapeSearch.Text.Unicode.Symbols

/-!
# Binary properties

A binary property says of every character yes or no.  The tables of the binary
properties are kept in five groups (letters and case, identifiers, graphemes,
emoji, and the rest); `binaryPropertyText` finds a table by the full name of
its property in whichever group holds it.
-/

namespace ShapeSearch
namespace Unicode

/-- The table of a binary property, by its full name. -/
def binaryPropertyText (name : String) : Option String :=
  letterPropertyText name <|> identifierPropertyText name <|> graphemePropertyText name <|>
    emojiPropertyText name <|> symbolPropertyText name

/-- The ranges of a binary property, by its full name; none for an unknown name. -/
def propertyRanges (name : String) : Array (Nat × Nat) :=
  (readRanges ((binaryPropertyText name).getD "")).toArray

/-- The alphabetic characters. -/
def alphabeticRanges : Array (Nat × Nat) :=
  propertyRanges "Alphabetic"

/-- Whether a character is alphabetic: a letter, a letter number, or one of the
marks and symbols that stand for letters. -/
def isAlphabetic (c : Char) : Bool :=
  inRanges alphabeticRanges c.toNat

end Unicode
end ShapeSearch
