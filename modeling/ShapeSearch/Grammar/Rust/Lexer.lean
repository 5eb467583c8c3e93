import ShapeSearch.Syntax.Lexeme
import ShapeSearch.Text.Category
import ShapeSearch.Text.Properties

/-!
# Tokens of Rust

Blanks, line comments and nested block comments between tokens; identifiers,
raw identifiers and lifetimes; integer and float literals with their suffixes;
character literals; the openings of strings and raw strings; and the punctuation.

Tokens made of several `>` or `&` characters are read whole; where the grammar
needs a single character (closing a generic argument list, or a reference), the
parser takes one character of them.
-/

namespace ShapeSearch
namespace Rust

open Syntax

/-- Blank characters. -/
def isBlank (c : Char) : Bool :=
  c == ' ' || c == '\t' || c == '\n' || c == '\r' || c == '\x0c' || c == '\x0b' || c.toNat == 0xFEFF

/-- Characters that can start an identifier. -/
def isIdentifierStart (c : Char) : Bool :=
  isIdentifierStartChar c

/-- Characters that can continue an identifier. -/
def isIdentifierPart (c : Char) : Bool :=
  isIdentifierContinueChar c

/-- The end of a block comment whose text starts at `i`, nested comments included, and
whether it is closed; the end of the source when it is left open. -/
def blockCommentEnd (s : Source) (i : Nat) (depth : Nat) (fuel : Nat) : Nat × Bool :=
  match fuel with
  | 0 => (i, false)
  | fuel + 1 =>
    if s.atEnd i then (i, false)
    else if s.startsWith i "*/" then
      if depth ≤ 1 then (i + 2, true) else blockCommentEnd s (i + 2) (depth - 1) fuel
    else if s.startsWith i "/*" then blockCommentEnd s (i + 2) (depth + 1) fuel
    else blockCommentEnd s (i + 1) depth fuel

/-- The end of a block comment whose text starts at `i`.  The text of a comment left open
stops before the last character of the source: the scanner marks the end of the text
before each character it reads, and the last one is read without a mark after it. -/
def blockTextEnd (s : Source) (i : Nat) : Nat :=
  match blockCommentEnd s i 1 (s.length + 1) with
  | (j, true) => j
  | (_, false) => max i (s.length - 1)

/-- The punctuation, longest first so that the first that matches is the longest. -/
def punctuation : List String :=
  ["<<=", ">>=", "...", "..=", "::", "->", "=>", "==", "!=", "<=", ">=", "&&", "||", "+=", "-=",
   "*=", "/=", "%=", "^=", "&=", "|=", "<<", ">>", "..",
   "+", "-", "*", "/", "%", "^", "!", "&", "|", "=", "<", ">", "@", ".", ",", ";", ":", "#", "$",
   "?", "~", "(", ")", "[", "]", "\x7b", "\x7d", "'"]

/-- Whether a character is an ASCII hexadecimal digit. -/
def isHexDigit (c : Char) : Bool :=
  c.isDigit || ('a' ≤ c && c ≤ 'f') || ('A' ≤ c && c ≤ 'F')

/-- The numeric suffixes. -/
def numberSuffixes : List String :=
  ["u8", "i8", "u16", "i16", "u32", "i32", "u64", "i64", "u128", "i128", "isize", "usize", "f32", "f64"]

/-- The end of a numeric suffix at `i`, if one is there. -/
def suffixEnd (s : Source) (i : Nat) : Nat :=
  match numberSuffixes.find? (s.startsWith i) with
  | some suf => if isIdentifierPart (s.get (i + suf.length)) then i else i + suf.length
  | none => i

/-- The end of a number starting at `i`, and whether it is a float: a number with a
fraction or an exponent.  A float suffix alone leaves an integer literal. -/
def numberEnd (s : Source) (i : Nat) : Nat × Bool :=
  let c := s.get i
  let c1 := s.get (i + 1)
  if c == '0' && (c1 == 'x' || c1 == 'o' || c1 == 'b') then
    let digit : Char → Bool :=
      if c1 == 'x' then isHexDigit else if c1 == 'o' then (fun d => '0' ≤ d && d ≤ '7')
      else (fun d => d == '0' || d == '1')
    let j := s.skipWhile (fun d => digit d || d == '_') (i + 2)
    (suffixEnd s j, false)
  else
    let afterInt := s.skipWhile (fun d => d.isDigit || d == '_') i
    let (afterFrac, isFloat) :=
      if s.get afterInt == '.' && (s.get (afterInt + 1)).isDigit then
        (s.skipWhile (fun d => d.isDigit || d == '_') (afterInt + 1), true)
      else if s.get afterInt == '.' && s.get (afterInt + 1) != '.' &&
          !isIdentifierStart (s.get (afterInt + 1)) then (afterInt + 1, true)
      else (afterInt, false)
    let e := s.get afterFrac
    let (afterExp, isFloat) :=
      if e == 'e' || e == 'E' then
        let k := if s.get (afterFrac + 1) == '+' || s.get (afterFrac + 1) == '-' then afterFrac + 2
          else afterFrac + 1
        if (s.get k).isDigit || s.get k == '_' then (s.skipWhile (fun d => d.isDigit || d == '_') k, true)
        else (afterFrac, isFloat)
      else (afterFrac, isFloat)
    (suffixEnd s afterExp, isFloat)

/-- How many hexadecimal digits, at most `n`, stand in a row from `i`. -/
def hexRun (s : Source) (i : Nat) (n : Nat) : Nat :=
  min n (s.skipWhile isHexDigit i - i)

/-- How far the escape sequence opened by the backslash at `i` reads, and whether it is
whole: a backslash and one character other than `x` and `u`, or `x` and two hex digits,
or `u` and four hex digits, or `u` and hex digits in braces.  An escape cut short reads
up to the first character that cannot go on. -/
def escapeScan (s : Source) (i : Nat) : Nat × Bool :=
  let d := s.get (i + 1)
  if s.atEnd (i + 1) then (i + 1, false)
  else if d == 'u' then
    if s.get (i + 2) == '\x7b' then
      let j := s.skipWhile isHexDigit (i + 3)
      if j > i + 3 && s.get j == '\x7d' then (j + 1, true) else (j, false)
    else
      let k := hexRun s (i + 2) 4
      if k == 4 then (i + 6, true) else (i + 2 + k, false)
  else if d == 'x' then
    let k := hexRun s (i + 2) 2
    if k == 2 then (i + 4, true) else (i + 2 + k, false)
  else (i + 2, true)

/-- The end of a character literal opened by the quote at `i`, if one is there: the
quote, at most one character or whole escape, and the closing quote.  Any character
but a backslash or a quote stands for itself, a line break included. -/
def charEnd (s : Source) (i : Nat) : Option Nat :=
  let c := s.get (i + 1)
  if s.atEnd (i + 1) then none
  else if c == '\'' then some (i + 2)
  else if c == '\\' then
    let (j, whole) := escapeScan s (i + 1)
    if whole && !s.atEnd j && s.get j == '\'' then some (j + 1) else none
  else if !s.atEnd (i + 2) && s.get (i + 2) == '\'' then some (i + 3)
  else none

/-- The end of a raw string's opening at `i` (after any `b` or `c`), and its number of hashes. -/
def rawOpening (s : Source) (i : Nat) : Option (Nat × Nat) :=
  if s.get i == 'r' then
    let j := s.skipWhile (· == '#') (i + 1)
    if s.get j == '"' && (j > i + 1 || true) then some (j + 1, j - (i + 1)) else none
  else none

/-- The string opened at `i`, if its text meets an escape that does not read. -/
def brokenString (s : Source) (i : Nat) : Option BrokenLiteral :=
  let c := s.get i
  if s.atEnd i then none
  else if c == '"' then BrokenLiteral.find s (backslashPieces s (escapeScan s)) (· == '"') "string_content" i (i + 1)
  else if (c == 'b' || c == 'c') && s.get (i + 1) == '"' then
    BrokenLiteral.find s (backslashPieces s (escapeScan s)) (· == '"') "string_content" i (i + 2)
  else none

/-- The end of the name or number that starts at `i`, if one does. -/
def operandEnd (s : Source) (i : Nat) : Option Nat :=
  let c := s.get i
  if s.atEnd i then none
  else if isIdentifierStart c then some (s.skipWhile isIdentifierPart (i + 1))
  else if c.isDigit then some (numberEnd s i).1
  else none

/-- The end of the head of a literal that is given up, if one starts at `i`: a string
whose text meets an escape that does not read, given up before a name or a number that
can go on where the string stood (`BrokenLiteral.givenUp`), or a byte character whose
escape does not read, given up before a name or a number with its letter, its quote and
the escape. -/
def brokenHead (s : Source) (i : Nat) : Option Nat :=
  match brokenString s i with
  | some b =>
    match operandEnd s (s.skipWhile isBlank b.reach) with
    | some stop => if b.givenUp s stop then some b.reach else none
    | none => none
  | none =>
    if s.get i == 'b' && s.get (i + 1) == '\'' && s.get (i + 2) == '\\' then
      let (q, whole) := escapeScan s (i + 2)
      if whole then none
      else (operandEnd s (s.skipWhile isBlank q)).map fun _ => q
    else none

/-- The end of a run of characters that start no token. -/
def invalidEnd (s : Source) (i : Nat) (fuel : Nat) : Nat :=
  match fuel with
  | 0 => i
  | fuel + 1 =>
    let c := s.get i
    if s.atEnd i || isIdentifierStart c || c.isDigit || isBlank c || c == '"' ||
        (punctuation.any fun p => s.startsWith i p) then i
    else if c == '\\' then
      let (j, whole) := escapeScan s i
      if whole then i else invalidEnd s j fuel
    else invalidEnd s (i + 1) fuel

/-- Skip blanks, comments and the heads of literals given up from `i`: the index of the
next token and the comments and heads passed. -/
def trivia (s : Source) (i : Nat) (fuel : Nat) : Nat × Comments :=
  match fuel with
  | 0 => (i, [])
  | fuel + 1 =>
    if s.atEnd i then (i, [])
    else if isBlank (s.get i) then trivia s (s.skipWhile isBlank i) fuel
    else if s.startsWith i "//" then
      let j := s.skipWhile (fun c => c != '\n') i
      let (k, cs) := trivia s j fuel
      (k, (i, j) :: cs)
    else if s.startsWith i "/*" then
      let j := blockTextEnd s (i + 2)
      let (k, cs) := trivia s j fuel
      (k, (i, j) :: cs)
    else match brokenHead s i with
      | some j =>
        let (k, cs) := trivia s (max j (i + 1)) fuel
        (k, (i, j) :: cs)
      | none => (i, [])

/-- The next token index after blanks and comments. -/
def nextStart (s : Source) (i : Nat) : Nat :=
  (trivia s i (s.length + 1)).1

/-- The tree of the head of a literal given up: an error over the opening of a string,
its pieces and the escape that does not read, or over the letter, the quote and the
escape of a byte character. -/
def brokenHeadTree (s : Source) (a b : Nat) : Cst :=
  let o := s.offset
  match brokenString s a with
  | some lit => lit.tree s "\""
  | none =>
    .node "ERROR" true (o a) (o b)
      [(none, .token "identifier" true (o a) (o (a + 1))), (none, .token "'" false (o (a + 1)) (o (a + 2))),
       (none, .node "ERROR" true (o (a + 2)) (o b) [])]

/-- The tree of a comment: a line comment with its `//` and doc marker, a block comment
with its delimiters and, for a documentation comment (`/**` before a character other
than `*` or `/`, or `/*!` before some text), its marker and its text, or an error over
the opening of a block comment left open.  The
head of a literal given up is an error node. -/
def commentTree (s : Source) (a b : Nat) : Cst :=
  let o := s.offset
  if s.get a != '/' then brokenHeadTree s a b
  else if s.startsWith a "//" then
    let slashes := Cst.token "//" false (o a) (o (a + 2))
    let docMarker : Option (String × String) :=
      if s.get (a + 2) == '/' && s.get (a + 3) != '/' then some ("outer_doc_comment_marker", "outer")
      else if s.get (a + 2) == '!' then some ("inner_doc_comment_marker", "inner")
      else none
    match docMarker with
    | some (kind, field) =>
      let stop := if s.get b == '\n' then b + 1 else b
      .node "line_comment" true (o a) (o b)
        [(none, slashes), (some field, .token kind true (o (a + 2)) (o (a + 3))),
         (some "doc", .token "doc_comment" true (o (a + 3)) (o stop))]
    | none => .node "line_comment" true (o a) (o b) [(none, slashes)]
  else if (blockCommentEnd s (a + 2) 1 (s.length + 1)).2 then
    let opening : Option String × Cst := (none, .token "/*" false (o a) (o (a + 2)))
    let closing : Option String × Cst := (none, .token "*/" false (o (b - 2)) (o b))
    let m := s.get (a + 2)
    let docMarker : Option (String × String) :=
      if m == '!' && a + 3 < b - 2 then some ("inner_doc_comment_marker", "inner")
      else if m == '*' && s.get (a + 3) != '/' && s.get (a + 3) != '*' then
        some ("outer_doc_comment_marker", "outer")
      else none
    match docMarker with
    | some (kind, field) =>
      .node "block_comment" true (o a) (o b)
        [opening, (some field, .token kind true (o (a + 2)) (o (a + 3))),
         (some "doc", .token "doc_comment" true (o (a + 3)) (o (b - 2))), closing]
    | none => .node "block_comment" true (o a) (o b) [opening, closing]
  else .node "ERROR" true (o a) (o b) [(none, .token "/*" false (o a) (o (a + 2)))]

/-- The token starting at `i`.  A string opening is a quote token; a raw string opening is
a special token; character literals, numbers and lifetimes' quotes are told apart. -/
def scan (s : Source) (i : Nat) : Lexeme :=
  if s.atEnd i then ⟨.eof, i, i⟩
  else
    let c := s.get i
    let prefixed := if (c == 'b' || c == 'c') then i + 1 else i
    match rawOpening s prefixed with
    | some (j, _) => ⟨.special "raw_string", i, j⟩
    | none =>
      if s.get prefixed == '"' && (prefixed == i + 1 || c == '"') then ⟨.quote '"', i, prefixed + 1⟩
      else if c == 'b' && s.get (i + 1) == '\'' && (charEnd s (i + 1)).isSome then
        ⟨.special "char_literal", i, (charEnd s (i + 1)).getD (i + 1)⟩
      else if c == 'r' && s.get (i + 1) == '#' && isIdentifierStart (s.get (i + 2)) then
        ⟨.word, i, s.skipWhile isIdentifierPart (i + 3)⟩
      else if isIdentifierStart c then ⟨.word, i, s.skipWhile isIdentifierPart (i + 1)⟩
      else if c.isDigit then
        let (j, isFloat) := numberEnd s i
        ⟨.special (if isFloat then "float_literal" else "integer_literal"), i, j⟩
      else if c == '\'' then
        match charEnd s i with
        | some j => ⟨.special "char_literal", i, j⟩
        | none => ⟨.punct "'", i, i + 1⟩
      else if c == '\\' then
        let (j, whole) := escapeScan s i
        if whole then ⟨.special "escape_sequence", i, j⟩ else ⟨.invalid, i, invalidEnd s j s.length⟩
      else match punctuation.find? (fun p => p.front == c && s.startsWith i p) with
        | some p => ⟨.punct p, i, i + p.length⟩
        | none => ⟨.invalid, i, invalidEnd s (i + 1) s.length⟩

/-- The lexer of Rust. -/
def lexer : Lexer :=
  { trivia := fun s i => trivia s i (s.length + 1), scan := scan, comment := commentTree }

end Rust
end ShapeSearch
