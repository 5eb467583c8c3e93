import ShapeSearch.Text.Category
import ShapeSearch.Text.Unicode.Binary

/-!
# Text shown with escapes

Messages quote a text in double quotes with every character that would not show
plainly written as an escape: `\0`, `\t`, `\r`, `\n`, `\\` and `\"` for those six, and
`\u{..}` with the code point in lower-case hexadecimal for a character that extends
the grapheme before it or that is not printable.  A character is printable unless its
general category is control, format, surrogate, private use, unassigned, or a
separator (the space excepted), or it is a default-ignorable character: the Hangul
fillers are letters that nothing draws.
-/

namespace ShapeSearch
namespace Escaped

/-- The default-ignorable characters. -/
def ignorableRanges : Array (Nat × Nat) :=
  Unicode.propertyRanges "Default_Ignorable_Code_Point"

/-- The characters that extend a grapheme. -/
def extendRanges : Array (Nat × Nat) :=
  Unicode.propertyRanges "Grapheme_Extend"

/-- Whether a character shows as itself: it is the space, or it is not
default-ignorable and its general category is none of control, format, surrogate,
private use, unassigned and the separators. -/
def isPrintable (c : Char) : Bool :=
  c == ' ' ||
    (!Unicode.inRanges ignorableRanges c.toNat &&
      match generalCategory c with
      | .Cc | .Cf | .Cs | .Co | .Cn | .Zl | .Zp | .Zs => false
      | _ => true)

/-- Whether a character extends the grapheme before it. -/
def extendsGrapheme (c : Char) : Bool :=
  Unicode.inRanges extendRanges c.toNat

/-- A character as `\u{..}` with its code point in lower-case hexadecimal. -/
def unicodeEscape (c : Char) : String :=
  "\\u" ++ "\x7b" ++ String.ofList (Nat.toDigits 16 c.toNat) ++ "\x7d"

/-- A character of a quoted text, escaped where it would not show plainly. -/
def escapeChar (c : Char) : String :=
  match c with
  | '\x00' => "\\0"
  | '\t' => "\\t"
  | '\r' => "\\r"
  | '\n' => "\\n"
  | '\\' => "\\\\"
  | '"' => "\\\""
  | _ =>
    if extendsGrapheme c then unicodeEscape c
    else if isPrintable c then String.singleton c
    else unicodeEscape c

end Escaped

/-- A text in double quotes, each character escaped where it would not show plainly. -/
def quoteEscaped (s : String) : String :=
  "\"" ++ String.join (s.toList.map Escaped.escapeChar) ++ "\""

end ShapeSearch
