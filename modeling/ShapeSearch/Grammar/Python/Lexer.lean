import ShapeSearch.Syntax.Lexeme
import ShapeSearch.Text.Category
import ShapeSearch.Text.Properties

/-!
# Tokens of Python

Blanks, line continuations and comments between tokens; identifiers of the
characters the standard allows in identifiers; numbers with their suffixes;
the start of a string with its prefix and quotes; and the operators.

Line breaks are blanks to the lexer.  The parser tells where a logical line ends
by looking for a line break between two tokens (`lineBreakBetween`), and where a
block ends by comparing the indentation of the lines its statements start on
(`indentOf`).
-/

namespace ShapeSearch
namespace Python

open Syntax

/-- Blanks within a line. -/
def isBlank (c : Char) : Bool :=
  c == ' ' || c == '\t' || c == '\r' || c == '\x0c' || c.toNat == 0xFEFF

/-- Characters that can start an identifier. -/
def isIdentifierStart (c : Char) : Bool :=
  isIdentifierStartChar c

/-- Characters that can continue an identifier. -/
def isIdentifierPart (c : Char) : Bool :=
  isIdentifierContinueChar c

/-- Skip blanks, line breaks, line continuations and comments from `i`: the index of the
next token and the comments and line continuations passed. -/
def trivia (s : Source) (i : Nat) (fuel : Nat) : Nat × Comments :=
  match fuel with
  | 0 => (i, [])
  | fuel + 1 =>
    if s.atEnd i then (i, [])
    else
      let c := s.get i
      if isBlank c || c == '\n' then trivia s (s.skipWhile (fun d => isBlank d || d == '\n') i) fuel
      else if c == '\\' && (s.get (i + 1) == '\n' || (s.get (i + 1) == '\r' && s.get (i + 2) == '\n')) then
        let j := if s.get (i + 1) == '\n' then i + 2 else i + 3
        let (k, cs) := trivia s j fuel
        (k, (i, j) :: cs)
      else if c == '#' then
        let j := s.skipWhile (fun d => d != '\n') i
        let (k, cs) := trivia s j fuel
        (k, (i, j) :: cs)
      else (i, [])

/-- The next token index after blanks and comments. -/
def nextStart (s : Source) (i : Nat) : Nat :=
  (trivia s i (s.length + 1)).1

/-- The operators, longest first so that the first that matches is the longest. -/
def operators : List String :=
  ["**=", "//=", ">>=", "<<=", "...", "->", ":=", "**", "//", "<<", ">>", "<=", ">=", "==", "!=",
   "<>", "+=", "-=", "*=", "/=", "%=", "&=", "|=", "^=", "@=",
   "+", "-", "*", "/", "%", "@", "&", "|", "^", "~", "<", ">", "(", ")", "[", "]", "\x7b", "\x7d",
   ",", ":", ".", ";", "=", "!"]

/-- Whether a character is an ASCII hexadecimal digit. -/
def isHexDigit (c : Char) : Bool :=
  c.isDigit || ('a' ≤ c && c ≤ 'f') || ('A' ≤ c && c ≤ 'F')

/-- The end of the groups of digits of a class read from `i`, each a run of digits with
one optional underscore, before the run when `lead` holds and after it otherwise; `i`
itself when no group reads. -/
def groupsEnd (s : Source) (p : Char → Bool) (lead : Bool) : Nat → Nat → Nat
  | 0, i => i
  | fuel + 1, i =>
    if lead then
      let j := if s.get i == '_' then i + 1 else i
      if p (s.get j) then groupsEnd s p lead fuel (s.skipWhile p j) else i
    else if p (s.get i) then
      let j := s.skipWhile p i
      groupsEnd s p lead fuel (if s.get j == '_' then j + 1 else j)
    else i

/-- The end of a number starting at `i`, and whether it is a float.  Decimal digits come
in groups each ending with an optional underscore, the digits of a radix in groups each
starting with one; a prefix with no digit after it leaves only the zero before it. -/
def numberEnd (s : Source) (i : Nat) : Nat × Bool :=
  let fuel := s.length + 1
  let c := s.get i
  let c1 := s.get (i + 1)
  let isLong (d : Char) : Bool := d == 'l' || d == 'L'
  let isImaginary (d : Char) : Bool := d == 'j' || d == 'J'
  let suffix (j : Nat) : Nat := if isLong (s.get j) || isImaginary (s.get j) then j + 1 else j
  let radix (p : Char → Bool) : Option Nat :=
    let j := groupsEnd s p true fuel (i + 2)
    if j > i + 2 then some (if isLong (s.get j) then j + 1 else j) else none
  let decimal (j : Nat) : Nat := groupsEnd s Char.isDigit false fuel j
  let exponent (j : Nat) : Nat :=
    let e := s.get j
    if e == 'e' || e == 'E' then
      let k := if s.get (j + 1) == '+' || s.get (j + 1) == '-' then j + 2 else j + 1
      let m := decimal k
      if m > k then m else j
    else j
  let radixEnd :=
    if c != '0' then none
    else if c1 == 'x' || c1 == 'X' then radix isHexDigit
    else if c1 == 'o' || c1 == 'O' then radix fun d => '0' ≤ d && d ≤ '7'
    else if c1 == 'b' || c1 == 'B' then radix fun d => d == '0' || d == '1'
    else none
  match radixEnd with
  | some j => (j, false)
  | none =>
    let afterInt := decimal i
    if s.get afterInt == '.' then (suffix (exponent (decimal (afterInt + 1))), true)
    else
      let afterExp := exponent afterInt
      if afterExp > afterInt then (suffix afterExp, true) else (suffix afterInt, false)

/-- The letters a string prefix may be made of. -/
def isPrefixLetter (c : Char) : Bool :=
  "rRbBuUfF".contains c

/-- The end of a string's opening starting at `i`, if a string starts there: any run of
prefix letters, then one quote or three. -/
def stringStartEnd (s : Source) (i : Nat) : Option Nat :=
  let j := s.skipWhile isPrefixLetter i
  let q := s.get j
  if q == '"' || q == '\'' then
    if s.get (j + 1) == q && s.get (j + 2) == q then some (j + 3) else some (j + 1)
  else none

/-- The end of a run of characters that start no token. -/
def invalidEnd (s : Source) (i : Nat) (fuel : Nat) : Nat :=
  match fuel with
  | 0 => i
  | fuel + 1 =>
    let c := s.get i
    if s.atEnd i || isIdentifierStart c || c.isDigit || isBlank c || c == '\n' || c == '"' ||
        c == '\'' || c == '#' || (operators.any fun o => o.front == c && s.startsWith i o) then i
    else invalidEnd s (i + 1) fuel

/-- The token starting at `i`: a string start is a quote token covering its prefix and
quotes, a number is told apart as an integer or a float. -/
def scan (s : Source) (i : Nat) : Lexeme :=
  if s.atEnd i then ⟨.eof, i, i⟩
  else
    let c := s.get i
    match stringStartEnd s i with
    | some j => ⟨.quote (s.get (j - 1)), i, j⟩
    | none =>
      if isIdentifierStart c then ⟨.word, i, s.skipWhile isIdentifierPart (i + 1)⟩
      else if c.isDigit || (c == '.' && (s.get (i + 1)).isDigit) then
        let (j, isFloat) := numberEnd s i
        ⟨.special (if isFloat || c == '.' then "float" else "integer"), i, j⟩
      else match operators.find? (fun o => o.front == c && s.startsWith i o) with
        | some o => ⟨.punct o, i, i + o.length⟩
        | none => ⟨.invalid, i, invalidEnd s (i + 1) s.length⟩

/-- The leaf of a comment, or of a line continuation: a backslash and the line break
after it. -/
def extraLeaf (s : Source) (a b : Nat) : Cst :=
  if s.get a == '\\' then .token "line_continuation" true (s.offset a) (s.offset b)
  else plainComment s a b

/-- The lexer of Python. -/
def lexer : Lexer :=
  { trivia := fun s i => trivia s i (s.length + 1), scan := scan, comment := extraLeaf }

/-- Whether a logical line ends between the end of one token and the start of the next: a
line break stands between them that no backslash continues. -/
def lineBreakBetween (s : Source) (prevEnd next : Nat) : Bool :=
  (List.range (next - prevEnd)).any fun k =>
    let i := prevEnd + k
    s.get i == '\n' && !(s.get (i - 1) == '\\' || (s.get (i - 1) == '\r' && s.get (i - 2) == '\\'))

/-- The start of the line holding index `i`, looking back at most `fuel` characters. -/
def lineStartFrom (s : Source) (i : Nat) (fuel : Nat) : Nat :=
  match fuel, i with
  | 0, _ => i
  | _, 0 => 0
  | fuel + 1, j + 1 => if s.get j == '\n' then j + 1 else lineStartFrom s j fuel

/-- The start of the line holding an index. -/
def lineStart (s : Source) (i : Nat) : Nat :=
  lineStartFrom s i i

/-- The indentation of the line holding an index: spaces count one, tabs eight, and a
form feed starts the count again. -/
def indentOf (s : Source) (i : Nat) : Nat :=
  let start := lineStart s i
  ((List.range (i - start)).map fun k => s.get (start + k)).foldl
    (fun n c => if c == ' ' then n + 1 else if c == '\t' then n + 8 else if c == '\x0c' || c == '\r' then 0 else n) 0

end Python
end ShapeSearch
