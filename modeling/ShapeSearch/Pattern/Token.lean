import ShapeSearch.Text.Escaped

/-!
# Tokens of the pattern language

Pattern text is a sequence of tokens separated by blanks and `;` comments:
parentheses, the wildcard `_`, node kinds, field names written `name:`, absent
fields written `!name`, captures `@name`, predicates `#name` and double-quoted
strings.  Each token remembers the byte offset where it starts, so that errors
can point back into the text.

`Token.describe` is how messages name a token that was not expected.
-/

namespace ShapeSearch
namespace Pattern

/-- A token of pattern text. -/
inductive Token where
  | openParen
  | closeParen
  | wildcard
  | kind (name : String)
  | field (name : String)
  | absentField (name : String)
  | capture (name : String)
  | predicate (name : String)
  | text (value : String)
  deriving Repr, DecidableEq, Inhabited

/-- A token with the byte offset where it starts. -/
structure Lexeme where
  token : Token
  offset : Nat
  deriving Repr, DecidableEq, Inhabited

/-- Characters of kinds and field names: ASCII letters, digits and `_`. -/
def isNameChar (c : Char) : Bool :=
  c.isAlphanum || c == '_'

/-- Characters of capture names: name characters, `.` and `-`. -/
def isCaptureChar (c : Char) : Bool :=
  isNameChar c || c == '.' || c == '-'

/-- Characters of predicate names: name characters, `-` and `?`. -/
def isPredicateChar (c : Char) : Bool :=
  isNameChar c || c == '-' || c == '?'

/-- ASCII white space: space, tab, newline, form feed and carriage return. -/
def isBlank (c : Char) : Bool :=
  c == ' ' || c == '\t' || c == '\n' || c == '\r' || c.toNat == 12

namespace Token

/-- How a message names the token. -/
def describe : Token → String
  | .openParen => "`(`"
  | .closeParen => "`)`"
  | .wildcard => "`_`"
  | .kind s => "`" ++ s ++ "`"
  | .field s => "field `" ++ s ++ ":`"
  | .absentField s => "`!" ++ s ++ "`"
  | .capture s => "capture `@" ++ s ++ "`"
  | .predicate s => "predicate `#" ++ s ++ "`"
  | .text s => "string " ++ quoteEscaped s

end Token

end Pattern
end ShapeSearch
