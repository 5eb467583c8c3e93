import ShapeSearch.Syntax.Lexeme
import ShapeSearch.Text.Category
import ShapeSearch.Text.Properties

/-!
# Tokens of Go

Blanks, line breaks and comments between tokens; identifiers of the characters the
standard allows in identifiers; integer, float and imaginary literals; rune literals; the openings of
interpreted and raw strings; and the operators.

Line breaks are blanks to the lexer.  Where a statement may end, the parser asks
whether a line break stands before the next token (`Syntax.breakBetween`): that
line break ends the statement, and no node stands for it.
-/

namespace ShapeSearch
namespace Go

open Syntax

/-- Blank characters, line breaks included. -/
def isBlank (c : Char) : Bool :=
  c == ' ' || c == '\t' || c == '\n' || c == '\r' || c.toNat == 0xFEFF

/-- Characters that can start an identifier. -/
def isIdentifierStart (c : Char) : Bool :=
  isIdentifierStartChar c

/-- Characters that can continue an identifier. -/
def isIdentifierPart (c : Char) : Bool :=
  isIdentifierContinueChar c

/-- The operators, longest first so that the first that matches is the longest. -/
def operators : List String :=
  ["<<=", ">>=", "&^=", "...", "&&", "||", "<-", "++", "--", "==", "!=", "<=", ">=", ":=", "+=",
   "-=", "*=", "/=", "%=", "&=", "|=", "^=", "<<", ">>", "&^",
   "+", "-", "*", "/", "%", "&", "|", "^", "<", ">", "=", "!", "(", ")", "[", "]", "\x7b", "\x7d",
   ",", ";", ".", ":", "~"]

/-- Whether a character is an ASCII hexadecimal digit. -/
def isHexDigit (c : Char) : Bool :=
  c.isDigit || ('a' ≤ c && c ≤ 'f') || ('A' ≤ c && c ≤ 'F')

/-- The end of a run of digits satisfying `p` from `i`, where an underscore may stand
before any digit but the first. -/
def digitRun (s : Source) (p : Char → Bool) (i : Nat) (fuel : Nat) : Nat :=
  match fuel with
  | 0 => i
  | fuel + 1 =>
    if !s.atEnd i && p (s.get i) then digitRun s p (i + 1) fuel
    else if s.get i == '_' && !s.atEnd (i + 1) && p (s.get (i + 1)) then digitRun s p (i + 2) fuel
    else i

/-- The end of digits satisfying `p` from `i`, if a digit stands there. -/
def digitsEnd (s : Source) (p : Char → Bool) (i : Nat) : Option Nat :=
  if !s.atEnd i && p (s.get i) then some (digitRun s p (i + 1) s.length) else none

/-- The end of digits satisfying `p` from `i` after an optional underscore. -/
def prefixedDigitsEnd (s : Source) (p : Char → Bool) (i : Nat) : Option Nat :=
  match digitsEnd s p i with
  | some e => some e
  | none => if s.get i == '_' then digitsEnd s p (i + 1) else none

/-- The end of an exponent from `j`: one of the marks, an optional sign and decimal
digits. -/
def exponentEnd (s : Source) (marks : List Char) (j : Nat) : Option Nat :=
  if marks.contains (s.get j) then
    let k := if s.get (j + 1) == '+' || s.get (j + 1) == '-' then j + 2 else j + 1
    digitsEnd s Char.isDigit k
  else none

/-- The end of a number starting at `i`, and its kind: the longest of the integer, float
and imaginary literals that start there.  An integer is `0`, a decimal numeral, or a
binary, octal or hexadecimal one after its prefix; a float has a fraction or an
exponent, in decimal or, with a `p` exponent, in hexadecimal; an imaginary literal is
decimal digits, an integer or a float and an `i`.  Underscores stand between digits. -/
def numberEnd (s : Source) (i : Nat) : Nat × String :=
  let c := s.get i
  let c1 := s.get (i + 1)
  let isBinary := fun d : Char => d == '0' || d == '1'
  let isOctal := fun d : Char => '0' ≤ d && d ≤ '7'
  let hexPrefixed := c == '0' && (c1 == 'x' || c1 == 'X')
  let int : Option Nat :=
    if c == '0' then
      let digits :=
        if c1 == 'b' || c1 == 'B' then prefixedDigitsEnd s isBinary (i + 2)
        else if hexPrefixed then prefixedDigitsEnd s isHexDigit (i + 2)
        else if c1 == 'o' || c1 == 'O' then prefixedDigitsEnd s isOctal (i + 2)
        else prefixedDigitsEnd s isOctal (i + 1)
      some (digits.getD (i + 1))
    else digitsEnd s Char.isDigit i
  let decimals := digitsEnd s Char.isDigit i
  let withFraction (d : Nat) : Nat :=
    let e := (digitsEnd s Char.isDigit (d + 1)).getD (d + 1)
    (exponentEnd s ['e', 'E'] e).getD e
  let decimalFloat : Option Nat :=
    if c == '.' then (digitsEnd s Char.isDigit (i + 1)).map fun e => (exponentEnd s ['e', 'E'] e).getD e
    else match decimals with
      | some d => if s.get d == '.' then some (withFraction d) else exponentEnd s ['e', 'E'] d
      | none => none
  let hexFloat : Option Nat :=
    if !hexPrefixed then none
    else
      let mantissa := match prefixedDigitsEnd s isHexDigit (i + 2) with
        | some h => if s.get h == '.' then some ((digitsEnd s isHexDigit (h + 1)).getD (h + 1)) else some h
        | none => if s.get (i + 2) == '.' then digitsEnd s isHexDigit (i + 3) else none
      mantissa.bind (exponentEnd s ['p', 'P'])
  let float := match decimalFloat, hexFloat with
    | some a, some b => some (max a b)
    | some a, none => some a
    | none, b => b
  let imaginary (e : Option Nat) : Option Nat :=
    e.bind fun j => if s.get j == 'i' then some (j + 1) else none
  let candidates : List (Option Nat × String) :=
    [(int, "int_literal"), (float, "float_literal"), (imaginary decimals, "imaginary_literal"),
     (imaginary int, "imaginary_literal"), (imaginary float, "imaginary_literal")]
  candidates.foldl (fun best (e, kind) => match e with
    | some j => if j > best.1 then (j, kind) else best
    | none => best) (i, "int_literal")

/-- Reading a rune literal opened by the quote at `i`: its end and `true` when it is one,
and otherwise how far it reads before it gives out, the quote at least, and `false`.  A
rune holds one character other than a quote or a backslash, a line break included, or
one escape: a letter of the simple escapes, three octal digits, or `x`, `u` or `U` with
two, four or eight hexadecimal digits. -/
def runeScan (s : Source) (i : Nat) : Nat × Bool :=
  let close (e : Nat) : Nat × Bool :=
    if !s.atEnd e && s.get e == '\'' then (e + 1, true) else (e, false)
  let fixed (start count : Nat) (p : Char → Bool) : Nat × Bool :=
    let e := min (start + count) (s.skipWhile p start)
    if e == start + count then close e else (e, false)
  let c := s.get (i + 1)
  if s.atEnd (i + 1) || c == '\'' then (i + 1, false)
  else if c != '\\' then close (i + 2)
  else
    let d := s.get (i + 2)
    if s.atEnd (i + 2) then (i + 2, false)
    else if d == 'x' then fixed (i + 3) 2 isHexDigit
    else if d == 'u' then fixed (i + 3) 4 isHexDigit
    else if d == 'U' then fixed (i + 3) 8 isHexDigit
    else if '0' ≤ d && d ≤ '7' then fixed (i + 2) 3 fun x => '0' ≤ x && x ≤ '7'
    else if "abfnrtv\\'\"".contains d then close (i + 3)
    else (i + 2, false)

/-- How far the escape sequence of a string opened by the backslash at `i` reads, and
whether it is whole: a backslash and one character other than `x`, `u` and `U` (after a
digit, up to two more digits), or `x` and two or more hex digits, or `u` and four, or
`U` and eight. -/
def escapeScan (s : Source) (i : Nat) : Nat × Bool :=
  let d := s.get (i + 1)
  let hexRun (from_ : Nat) : Nat := s.skipWhile isHexDigit from_ - from_
  let fixed (count : Nat) : Nat × Bool :=
    let k := min count (hexRun (i + 2))
    (i + 2 + k, k == count)
  if s.atEnd (i + 1) then (i + 1, false)
  else if d == 'x' then
    let k := hexRun (i + 2)
    (i + 2 + k, k ≥ 2)
  else if d == 'u' then fixed 4
  else if d == 'U' then fixed 8
  else if d.isDigit then
    let r := s.skipWhile Char.isDigit (i + 1) - (i + 1)
    (if r ≥ 2 then i + 1 + min r 3 else i + 2, true)
  else (i + 2, true)

/-- The interpreted string opened at `i`, if its text meets an escape that does not
read. -/
def brokenString (s : Source) (i : Nat) : Option BrokenLiteral :=
  if !s.atEnd i && s.get i == '"' then
    BrokenLiteral.find s (backslashPieces s (escapeScan s)) (fun c => c == '"' || c == '\n')
      "interpreted_string_literal_content" i (i + 1)
  else none

/-- The end of the name or number that starts at `i`, if one does. -/
def operandEnd (s : Source) (i : Nat) : Option Nat :=
  let c := s.get i
  if s.atEnd i then none
  else if isIdentifierStart c then some (s.skipWhile isIdentifierPart (i + 1))
  else if c.isDigit then some (numberEnd s i).1
  else none

/-- The end of the head of a string given up, if one starts at `i`: a string whose text
meets an escape that does not read, before a name or a number that can go on where the
string stood (`BrokenLiteral.givenUp`). -/
def brokenHead (s : Source) (i : Nat) : Option Nat :=
  match brokenString s i with
  | some b =>
    match operandEnd s (s.skipWhile (fun c => c == ' ' || c == '\t') b.reach) with
    | some stop => if b.givenUp s stop then some b.reach else none
    | none => none
  | none => none

/-- Skip blanks, comments and the heads of strings given up from `i`: the index of the
next token and the comments and heads passed.  A comment holds no null character: a line
comment ends before one, and a block comment needs its closing `*/` before any, or its
slash and star are operators. -/
def trivia (s : Source) (i : Nat) (fuel : Nat) : Nat × Comments :=
  match fuel with
  | 0 => (i, [])
  | fuel + 1 =>
    if s.atEnd i then (i, [])
    else if isBlank (s.get i) then trivia s (s.skipWhile isBlank i) fuel
    else if s.startsWith i "//" then
      let j := s.skipWhile (fun c => c != '\n' && c.toNat != 0) i
      let (k, cs) := trivia s j fuel
      (k, (i, j) :: cs)
    else if s.startsWith i "/*" && !s.atEnd (s.findText "*/" (i + 2)) &&
        (s.skipWhile (fun c => c.toNat != 0) i) ≥ s.findText "*/" (i + 2) then
      let j := s.findText "*/" (i + 2) + 2
      let (k, cs) := trivia s j fuel
      (k, (i, j) :: cs)
    else match brokenHead s i with
      | some j =>
        let (k, cs) := trivia s (max j (i + 1)) fuel
        (k, (i, j) :: cs)
      | none => (i, [])

/-- The next token index after blanks and comments. -/
def nextStart (s : Source) (i : Nat) : Nat :=
  (trivia s i (s.length + 1)).1

/-- The tree of a comment, or of the head of a string given up: an error over its quote,
its pieces and the escape that does not read. -/
def commentTree (s : Source) (a b : Nat) : Cst :=
  match brokenString s a with
  | some lit => lit.tree s "\""
  | none => plainComment s a b

/-- The end of a run of characters that start no token. -/
def invalidEnd (s : Source) (i : Nat) (fuel : Nat) : Nat :=
  match fuel with
  | 0 => i
  | fuel + 1 =>
    let c := s.get i
    if s.atEnd i || isIdentifierStart c || c.isDigit || isBlank c || c == '"' || c == '`' || c == '\'' ||
        (operators.any fun o => o.front == c && s.startsWith i o) then i
    else invalidEnd s (i + 1) fuel

/-- The token starting at `i`: string openings are quote tokens, numbers and runes are
special tokens named by their kind. -/
def scan (s : Source) (i : Nat) : Lexeme :=
  if s.atEnd i then ⟨.eof, i, i⟩
  else
    let c := s.get i
    if isIdentifierStart c then ⟨.word, i, s.skipWhile isIdentifierPart (i + 1)⟩
    else if c.isDigit || (c == '.' && (s.get (i + 1)).isDigit) then
      let (j, kind) := numberEnd s i
      ⟨.special kind, i, j⟩
    else if c == '"' then ⟨.quote '"', i, i + 1⟩
    else if c == '`' then ⟨.backtick, i, i + 1⟩
    else if c.toNat == 0 then ⟨.punct "\x00", i, i + 1⟩
    else if c == '\'' then
      match runeScan s i with
      | (j, true) => ⟨.special "rune_literal", i, j⟩
      | (j, false) => ⟨.invalid, i, invalidEnd s j s.length⟩
    else match operators.find? (fun o => o.front == c && s.startsWith i o) with
      | some o => ⟨.punct o, i, i + o.length⟩
      | none => ⟨.invalid, i, invalidEnd s (i + 1) s.length⟩

/-- The lexer of Go. -/
def lexer : Lexer :=
  { trivia := fun s i => trivia s i (s.length + 1), scan := scan, comment := commentTree }

end Go
end ShapeSearch
