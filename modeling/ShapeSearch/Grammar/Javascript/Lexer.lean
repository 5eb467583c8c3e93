import ShapeSearch.Syntax.Lexeme
import ShapeSearch.Text.Properties

/-!
# Tokens of the JavaScript family

The lexical rules shared by JavaScript, TypeScript and TSX: blanks and comments
between tokens, identifier characters, numbers, punctuators, the pieces of
strings, templates and regular expressions, JSX text, and the rule that decides
where a line break ends a statement without a semicolon.

All scanners take a source and a character index and give the index where the
token ends; none of them looks behind its start.
-/

namespace ShapeSearch
namespace Javascript

open Syntax

/-- Blank characters: white space, space separators and the invisible format characters
that sources use as blanks. -/
def isBlank (c : Char) : Bool :=
  isWhiteSpace c || (c.toNat ≥ 128 && (c.toNat == 0xFEFF || c.toNat == 0x2060 || c.toNat == 0x200B ||
    generalCategory c == .Zs))

/-- Characters that can be in no identifier. -/
def isIdentifierStop (c : Char) : Bool :=
  c.toNat < 0x20 || isBlank c || c.toNat == 0x2028 || c.toNat == 0x2029 ||
    ":;`\"'@#.,|^&<=>+-*/\\%?!~()[]{}".contains c

/-- Characters that can start an identifier. -/
def isIdentifierStart (c : Char) : Bool :=
  !isIdentifierStop c && !c.isDigit

/-- Characters that can continue an identifier. -/
def isIdentifierPart (c : Char) : Bool :=
  !isIdentifierStop c

/-- Whether a character is an ASCII hexadecimal digit. -/
def isHexDigit (c : Char) : Bool :=
  c.isDigit || ('a' ≤ c && c ≤ 'f') || ('A' ≤ c && c ≤ 'F')

/-- The end of a `\u` escape in an identifier starting at `i` (at the backslash), if one is
there: four hex digits, or hex digits in braces. -/
def unicodeEscapeEnd (s : Source) (i : Nat) : Option Nat :=
  if s.get i == '\\' && s.get (i + 1) == 'u' then
    if s.get (i + 2) == '{' then
      let j := s.skipWhile isHexDigit (i + 3)
      if j > i + 3 && s.get j == '}' then some (j + 1) else none
    else if (List.range 4).all fun k => isHexDigit (s.get (i + 2 + k)) then some (i + 6)
    else none
  else none

/-- Whether the character at `i` continues an identifier: a character that is no stop,
and not one standing for ill-formed bytes. -/
def identifierCharAt (s : Source) (i : Nat) : Bool :=
  !s.atEnd i && isIdentifierPart (s.get i) && !s.isInvalid i

/-- The end of the identifier characters from `i` (escapes included). -/
def identifierRest (s : Source) (i : Nat) (fuel : Nat) : Nat :=
  match fuel with
  | 0 => i
  | fuel + 1 =>
    if identifierCharAt s i then identifierRest s (i + 1) fuel
    else match unicodeEscapeEnd s i with
      | some j => identifierRest s j fuel
      | none => i

/-- The end of an identifier starting at `i`, if one starts there. -/
def identifierEnd (s : Source) (i : Nat) : Option Nat :=
  if identifierCharAt s i && !(s.get i).isDigit then some (identifierRest s (i + 1) s.length)
  else match unicodeEscapeEnd s i with
    | some j => some (identifierRest s j s.length)
    | none => none

/-- Skip a run of digits of a class with single underscores between them. -/
def digitsEnd (s : Source) (p : Char → Bool) (i : Nat) (fuel : Nat) : Nat :=
  match fuel with
  | 0 => i
  | fuel + 1 =>
    if p (s.get i) && !s.atEnd i then digitsEnd s p (i + 1) fuel
    else if s.get i == '_' && p (s.get (i + 1)) && i > 0 && p (s.get (i - 1)) then
      digitsEnd s p (i + 1) fuel
    else i

/-- The end of digits of a class from `i`, if a digit of it stands there. -/
def digitsFrom (s : Source) (p : Char → Bool) (i : Nat) : Option Nat :=
  if !s.atEnd i && p (s.get i) then some (digitsEnd s p i s.length) else none

/-- The end of an exponent from `j`: `e` or `E`, an optional sign and decimal digits. -/
def exponentEnd (s : Source) (j : Nat) : Option Nat :=
  if s.get j == 'e' || s.get j == 'E' then
    let k := if s.get (j + 1) == '+' || s.get (j + 1) == '-' then j + 2 else j + 1
    digitsFrom s Char.isDigit k
  else none

/-- The end of a number starting at `i` (at a digit or at a dot before a digit): the
longest of the literals that start there.  A hexadecimal, binary or octal literal has its
prefix; decimal digits may stand alone or before `n`, as may the others; a decimal
literal with a fraction or an exponent starts with `0`, or with an optional `0` and a
digit from one to nine, or with the dot.  Underscores stand between digits. -/
def numberEnd (s : Source) (i : Nat) : Nat :=
  let c := s.get i
  let c1 := s.get (i + 1)
  let bigint (e : Option Nat) : Option Nat :=
    e.bind fun j => if s.get j == 'n' then some (j + 1) else none
  let prefixed : Option Nat :=
    if c != '0' then none
    else if c1 == 'x' || c1 == 'X' then digitsFrom s isHexDigit (i + 2)
    else if c1 == 'b' || c1 == 'B' then digitsFrom s (fun d => d == '0' || d == '1') (i + 2)
    else if c1 == 'o' || c1 == 'O' then digitsFrom s (fun d => '0' ≤ d && d ≤ '7') (i + 2)
    else none
  let decimals : Option Nat := if c.isDigit then digitsFrom s Char.isDigit i else none
  let nonZero (d : Char) : Bool := '1' ≤ d && d ≤ '9'
  let afterNonZero (k : Nat) : Nat :=
    match digitsFrom s Char.isDigit (k + 1) with
    | some e => e
    | none =>
      if s.get (k + 1) == '_' then (digitsFrom s Char.isDigit (k + 2)).getD (k + 1) else k + 1
  let integers : List Nat :=
    if c == '0' then (i + 1) :: (if nonZero c1 then [afterNonZero (i + 1)] else [])
    else if nonZero c then [afterNonZero i]
    else []
  let decimal (d : Nat) : Option Nat :=
    if s.get d == '.' then
      let f := (digitsFrom s Char.isDigit (d + 1)).getD (d + 1)
      some ((exponentEnd s f).getD f)
    else exponentEnd s d
  let fractions : List (Option Nat) :=
    if c == '.' then [(digitsFrom s Char.isDigit (i + 1)).map fun f => (exponentEnd s f).getD f]
    else integers.map decimal
  let candidates : List (Option Nat) :=
    [prefixed, bigint prefixed, decimals, bigint decimals] ++ fractions
  candidates.foldl (fun best e => match e with
    | some j => max best j
    | none => best) i

/-- The punctuators, longest first so that the first that matches is the longest. -/
def punctuators : List String :=
  [">>>=", "...", "===", "!==", "**=", "<<=", ">>=", ">>>", "&&=", "||=", "??=",
   "=>", "==", "!=", "<=", ">=", "&&", "||", "??", "?.", "++", "--", "+=", "-=", "*=", "/=",
   "%=", "&=", "|=", "^=", "**", "<<", ">>",
   "\x7b", "\x7d", "(", ")", "[", "]", ";", ",", "<", ">", "+", "-", "*", "/", "%", "&", "|", "^",
   "!", "~", "?", ":", "=", ".", "@", "#"]

/-- The longest punctuator at `i`; `?.` before a digit is a question mark. -/
def punctuatorAt (s : Source) (i : Nat) : Option String :=
  match punctuators.find? (fun p => p.front == s.get i && s.startsWith i p) with
  | some "?." => if (s.get (i + 2)).isDigit then some "?" else some "?."
  | other => other

/-- Whether a token can start at `i`. -/
def tokenStarts (s : Source) (i : Nat) : Bool :=
  let c := s.get i
  (identifierEnd s i).isSome || c.isDigit || c == '"' || c == '\'' || c == '`' ||
    (punctuatorAt s i).isSome

/-- The end of a run of characters that start no token. -/
def invalidEnd (s : Source) (i : Nat) (fuel : Nat) : Nat :=
  match fuel with
  | 0 => i
  | fuel + 1 =>
    if s.atEnd i || tokenStarts s i || isBlank (s.get i) then i else invalidEnd s (i + 1) fuel

/-- The token of the default context starting at `i`. -/
def scan (s : Source) (i : Nat) : Lexeme :=
  if s.atEnd i then ⟨.eof, i, i⟩
  else
    let c := s.get i
    match identifierEnd s i with
    | some j => ⟨.word, i, j⟩
    | none =>
      if c.isDigit || (c == '.' && (s.get (i + 1)).isDigit) then ⟨.number, i, numberEnd s i⟩
      else if c == '"' || c == '\'' then ⟨.quote c, i, i + 1⟩
      else if c == '`' then ⟨.backtick, i, i + 1⟩
      else if c == '#' then
        match identifierEnd s (i + 1) with
        | some j => ⟨.privateName, i, j⟩
        | none => ⟨.punct "#", i, i + 1⟩
      else match punctuatorAt s i with
        | some p => ⟨.punct p, i, i + p.length⟩
        | none => ⟨.invalid, i, invalidEnd s (i + 1) s.length⟩

/-- The end of an unescaped stretch of a quoted string: up to its quote, a backslash, a
line break or a null character. -/
def stringFragmentEnd (s : Source) (quote : Char) (i : Nat) : Nat :=
  s.skipWhile (fun c => c != quote && c != '\\' && c != '\n' && c != '\r' && c.toNat != 0) i

/-- How far the escape sequence opened by the backslash at `i` reads, and whether it is
whole: a backslash and a character other than `x`, `u` and octal digits, or one to three
octal digits, or `x` and two hex digits, or `u` and four hex digits or hex digits in
braces, or a carriage return or a question mark before a line break. -/
def escapeScan (s : Source) (i : Nat) : Nat × Bool :=
  let c := s.get (i + 1)
  let hexRun (from_ count : Nat) : Nat := min count (s.skipWhile isHexDigit from_ - from_)
  if s.atEnd (i + 1) then (i + 1, false)
  else if c == 'x' then
    let k := hexRun (i + 2) 2
    (i + 2 + k, k == 2)
  else if c == 'u' then
    if s.get (i + 2) == '\x7b' then
      let j := s.skipWhile isHexDigit (i + 3)
      if j > i + 3 && s.get j == '\x7d' then (j + 1, true) else (j, false)
    else
      let k := hexRun (i + 2) 4
      (i + 2 + k, k == 4)
  else if '0' ≤ c && c ≤ '7' then (min (s.skipWhile (fun d => '0' ≤ d && d ≤ '7') (i + 1)) (i + 4), true)
  else
    let d := s.get (i + 2)
    if (c == '\r' || c == '?') && !s.atEnd (i + 2) &&
        (d == '\n' || d.toNat == 0x2028 || d.toNat == 0x2029) then (i + 3, true)
    else (i + 2, true)

/-- The end of an escape sequence starting at a backslash at `i`. -/
def escapeEnd (s : Source) (i : Nat) : Nat :=
  (escapeScan s i).1

/-- The pieces of a quoted string's text that stand on their own: escape sequences, and
a null character, which no string holds. -/
def stringSpecial (s : Source) (i : Nat) : Option (Nat × Bool) :=
  if s.get i == '\\' then some (escapeScan s i)
  else if (s.get i).toNat == 0 && !s.atEnd i then some (i + 1, false)
  else none

/-- The quoted string opened at `i`, if its text meets a piece that does not read. -/
def brokenString (s : Source) (i : Nat) : Option BrokenLiteral :=
  let q := s.get i
  if !s.atEnd i && (q == '"' || q == '\'') then
    BrokenLiteral.find s (stringSpecial s) (fun c => c == q || c == '\n' || c == '\r') "string_fragment"
      i (i + 1)
  else none

/-- The end of the head of a string given up, if one starts at `i`: a quoted string whose
text meets an escape that does not read, before a name or a number that can go on where
the string stood (`BrokenLiteral.givenUp`). -/
def brokenHead (s : Source) (i : Nat) : Option Nat :=
  match brokenString s i with
  | some b =>
    let k := s.skipWhile (fun c => isBlank c && c != '\n') b.reach
    let stop := match identifierEnd s k with
      | some j => some j
      | none => if (s.get k).isDigit then some (numberEnd s k) else none
    match stop with
    | some j => if b.givenUp s j then some b.reach else none
    | none => none
  | none => none

/-- The tokens from `k`, read as code, up to an opening brace: none where a backtick or
the end of the source comes first. -/
def tokensToBrace (s : Source) : Nat → Nat → List Lexeme → Option (List Lexeme)
  | 0, _, _ => none
  | fuel + 1, k, acc =>
    let j := s.skipWhile isBlank k
    let t := scan s j
    match t.kind with
    | .punct "\x7b" => some acc.reverse
    | .backtick | .eof => none
    | _ => if t.stop ≤ j then none else tokensToBrace s fuel t.stop (t :: acc)

/-- The head of a template literal given up, if one opens at `i`: its text meets an
escape that does not read, and of the tokens after the escape, read as code, an opening
brace comes before any backtick.  The parser in error skips those tokens, and at the
brace it drops back to before the literal, where the brace reads as code; the head, the
literal up to the escape and the tokens skipped, is kept in an error. -/
def brokenTemplate (s : Source) (i : Nat) : Option (BrokenLiteral × List Lexeme) :=
  if s.atEnd i || s.get i != '`' then none
  else
    let special := backslashPieces s (escapeScan s)
    match BrokenLiteral.find s special (fun c => c == '`' || c == '$') "string_fragment" i (i + 1) with
    | some b => (tokensToBrace s s.length b.reach []).map fun toks => (b, toks)
    | none => none

/-- Where the head of a template literal given up ends: after the last token skipped,
or after the escape when none is. -/
def brokenTemplateEnd (b : BrokenLiteral) (toks : List Lexeme) : Nat :=
  match toks.getLast? with
  | some t => t.stop
  | none => b.reach

/-- Whether a character ends a line. -/
def isLineBreak (c : Char) : Bool :=
  c == '\n' || c == '\r' || c.toNat == 0x2028 || c.toNat == 0x2029

/-- Whether no expression ends right before index `i`, looking back over blanks at most
`fuel` characters: the start of the source or of a line, or a character that leaves an
operand to come.  After a name, a literal, a closing bracket or an increment an operator
may follow instead. -/
def operandAhead (s : Source) (i : Nat) (fuel : Nat) : Bool :=
  match fuel, i with
  | 0, _ => true
  | _, 0 => true
  | fuel + 1, j + 1 =>
    let c := s.get j
    if isLineBreak c then true
    else if isBlank c then operandAhead s j fuel
    else if identifierCharAt s j || ")]\x7d\"'`".contains c then false
    else if (c == '+' || c == '-') && j > 0 && s.get (j - 1) == c then false
    else true

/-- The end of the line from `i`, or of the text before a null character. -/
def lineEnd (s : Source) (i : Nat) : Nat :=
  s.skipWhile (fun c => !isLineBreak c && c.toNat != 0) i

/-- The end of a comment in the markup of a page from `i`: a carriage return does not
end it. -/
def markupCommentEnd (s : Source) (i : Nat) : Nat :=
  s.skipWhile (fun c => c != '\n' && c.toNat != 0x2028 && c.toNat != 0x2029 && c.toNat != 0) i

/-- Skip blanks and comments from `i`: the index of the next token and the comments passed.
Where an operand may come (`html`), `<!--` or `-->` opens a comment to the end of the
line, as in pages that hide scripts from old browsers; a line break lets one come. -/
def trivia (s : Source) (i : Nat) (fuel : Nat) (html : Bool) : Nat × Comments :=
  match fuel with
  | 0 => (i, [])
  | fuel + 1 =>
    if s.atEnd i then (i, [])
    else if isBlank (s.get i) then
      let j := s.skipWhile isBlank i
      trivia s j fuel (html || (List.range (j - i)).any fun k => isLineBreak (s.get (i + k)))
    else if s.startsWith i "//" then
      let j := lineEnd s i
      let (k, cs) := trivia s j fuel html
      (k, (i, j) :: cs)
    else if html && (s.startsWith i "<!--" || s.startsWith i "-->") then
      let j := markupCommentEnd s i
      let (k, cs) := trivia s j fuel html
      (k, (i, j) :: cs)
    else if s.startsWith i "/*" then
      let close := s.findText "*/" (i + 2)
      if s.atEnd close then (i, [])
      else
        let (k, cs) := trivia s (close + 2) fuel html
        (k, (i, close + 2) :: cs)
    else if let some (b, toks) := brokenTemplate s i then
      let j := brokenTemplateEnd b toks
      let (k, cs) := trivia s (max j (i + 1)) fuel html
      (k, (i, j) :: cs)
    else match brokenHead s i with
      | some j =>
        let (k, cs) := trivia s (max j (i + 1)) fuel html
        (k, (i, j) :: cs)
      | none =>
        match scan s i with
        | ⟨.invalid, _, j⟩ =>
          let (k, cs) := trivia s j fuel html
          (k, (i, j) :: cs)
        | _ => (i, [])

/-- Blanks and comments from `i`, the end of a token or the start of the source. -/
def triviaFrom (s : Source) (i : Nat) : Nat × Comments :=
  trivia s i (s.length + 1) (operandAhead s i i)

/-- The next token index after blanks and comments. -/
def nextStart (s : Source) (i : Nat) : Nat :=
  (triviaFrom s i).1

/-- Words that are keywords wherever an expression may start, and so are no identifiers. -/
def reservedWords : List String :=
  ["break", "case", "catch", "class", "const", "continue", "debugger", "default", "delete", "do",
   "else", "extends", "finally", "for", "function", "if", "import", "in", "instanceof", "new",
   "return", "super", "switch", "this", "throw", "try", "typeof", "var", "void", "while", "with",
   "null", "true", "false", "undefined", "await", "yield"]

/-- A token as it stands in a stretch the parser could not place: words are keywords when
reserved and identifiers otherwise, literals keep their kinds, punctuators are anonymous. -/
def looseToken (s : Source) (l : Lexeme) : Cst :=
  let a := s.offset l.start
  let b := s.offset l.stop
  match l.kind with
  | .word =>
    let w := s.slice l.start l.stop
    if reservedWords.contains w then .token w false a b else .token "identifier" true a b
  | .number => .token "number" true a b
  | .privateName => .token "private_property_identifier" true a b
  | .punct p => .token p false a b
  | .quote q => .token (String.singleton q) false a b
  | .backtick => .token "`" false a b
  | .invalid => .node "ERROR" true a b []
  | .eof => .token "" false a b
  | .special k => .token k true a b

/-- The tree of a stretch the token reader passed over: a comment, the head of a string
given up, or characters that start no token, kept as an error around the unreadable
text. -/
def extra (s : Source) (a b : Nat) : Cst :=
  if s.startsWith a "//" || s.startsWith a "/*" then plainComment s a b
  else if let some lit := brokenString s a then lit.tree s (String.singleton (s.get a))
  else if let some (lit, toks) := brokenTemplate s a then
    match lit.tree s "`" with
    | .node k n st _ cs => .node k n st (s.offset b) (cs ++ toks.map fun t => (none, looseToken s t))
    | other => other
  else if s.startsWith a "<!--" || s.startsWith a "-->" then
    .token "html_comment" true (s.offset a) (s.offset b)
  else .node "ERROR" true (s.offset a) (s.offset b) [(none, .node "ERROR" true (s.offset a) (s.offset b) [])]

/-- The lexer of the default context. -/
def lexer : Lexer :=
  { trivia := triviaFrom, scan := scan, comment := extra }

/-- Whether what follows a line break (after blanks and comments) lets the statement
before it end: it does not when it continues an expression. -/
def endsAfterBreak (s : Source) (k : Nat) : Bool :=
  if s.atEnd k then true
  else
    let c := s.get k
    if "`,:;*%><=[(?^|&/".contains c then false
    else if c == '+' then s.get (k + 1) == '+'
    else if c == '-' then s.get (k + 1) == '-'
    else if c == '!' then s.get (k + 1) != '='
    else if c == '.' then (s.get (k + 1)).isDigit
    else if c == 'i' then
      if s.get (k + 1) != 'n' then true
      else if !(s.get (k + 2)).isAlpha then false
      else if s.startsWith (k + 2) "stanceof" then (s.get (k + 10)).isAlpha
      else true
    else true

/-- Whether a statement may end without a semicolon after the token ending at `i`: the
next token is a closing brace or the end, or a line break comes before it (comments on
the same line are passed over) and what follows does not continue an expression. -/
def lineBreakEnds (s : Source) (i : Nat) (fuel : Nat) : Bool :=
  match fuel with
  | 0 => false
  | fuel + 1 =>
    let j := s.skipWhile (fun c => isBlank c && c != '\n') i
    if s.atEnd j || s.get j == '\x7d' || (s.get j).toNat == 0 then true
    else if s.get j == '\n' then endsAfterBreak s (nextStart s (j + 1))
    else if s.startsWith j "//" || s.startsWith j "/*" then
      let (_, cs) := trivia s j 1 false
      match cs with
      | (_, e) :: _ => lineBreakEnds s e fuel
      | [] => false
    else false

/-- Whether a line break stands between the end of the previous token and the next one. -/
def breakBefore (s : Source) (prevEnd next : Nat) : Bool :=
  breakBetween s prevEnd next

/-- The end of template characters: up to a backtick, a substitution or a backslash. -/
def templateCharsEnd (s : Source) (i : Nat) (fuel : Nat) : Nat :=
  match fuel with
  | 0 => i
  | fuel + 1 =>
    if s.atEnd i then i
    else
      let c := s.get i
      if c == '`' || c == '\\' || (c == '$' && s.get (i + 1) == '{') then i
      else templateCharsEnd s (i + 1) fuel

/-- The end of a regular expression body starting after its opening slash: classes may
hold slashes, a backslash escapes one character, and a line break ends nothing. -/
def regexBodyEnd (s : Source) (i : Nat) (inClass : Bool) (fuel : Nat) : Option Nat :=
  match fuel with
  | 0 => none
  | fuel + 1 =>
    if s.atEnd i then none
    else
      let c := s.get i
      if c == '\n' then none
      else if c == '\\' then
        if s.atEnd (i + 1) || s.get (i + 1) == '\n' then none else regexBodyEnd s (i + 2) inClass fuel
      else if inClass then regexBodyEnd s (i + 1) (c != ']') fuel
      else if c == '[' then regexBodyEnd s (i + 1) true fuel
      else if c == '/' then some i
      else regexBodyEnd s (i + 1) false fuel

/-- Where the body of a regular expression opened before `i` stops being read: at its
closing slash, or at the line break, the end of the source or the lone backslash where an
unclosed body gives out. -/
def regexBodyReach (s : Source) (i : Nat) (inClass : Bool) (fuel : Nat) : Nat :=
  match fuel with
  | 0 => i
  | fuel + 1 =>
    if s.atEnd i then i
    else
      let c := s.get i
      if c == '\n' then i
      else if c == '\\' then
        if s.atEnd (i + 1) || s.get (i + 1) == '\n' then i else regexBodyReach s (i + 2) inClass fuel
      else if inClass then regexBodyReach s (i + 1) (c != ']') fuel
      else if c == '[' then regexBodyReach s (i + 1) true fuel
      else if c == '/' then i
      else regexBodyReach s (i + 1) false fuel

/-- The end of the flags of a regular expression literal whose closing slash is at
`close`: lower-case letters right after it; where a longer name starts there, the name is
the token and the literal has no flags. -/
def regexFlagsEnd (s : Source) (close : Nat) : Nat :=
  let lowerEnd := s.skipWhile (fun ch => 'a' ≤ ch && ch ≤ 'z') (close + 1)
  match identifierEnd s (close + 1) with
  | some j => if lowerEnd < j then close + 1 else lowerEnd
  | none => lowerEnd

/-- The end of JSX text from `i` and whether it holds text: up to `<`, `>`, `{`, `}` or `&`;
a stretch of blanks that starts on a new line does not count as text. -/
def jsxTextEnd (s : Source) (i : Nat) (fuel : Nat) (atNewline sawText : Bool) : Nat × Bool :=
  match fuel with
  | 0 => (i, sawText)
  | fuel + 1 =>
    let c := s.get i
    if s.atEnd i || "<>{}&".contains c then (i, sawText)
    else if c == '\n' then jsxTextEnd s (i + 1) fuel true sawText
    else
      let nl := atNewline && isWhiteSpace c
      jsxTextEnd s (i + 1) fuel nl (sawText || !nl)

/-- The end of an HTML character reference starting at `&`, if one is there. -/
def characterReferenceEnd (s : Source) (i : Nat) : Option Nat :=
  if s.get i != '&' then none
  else if s.get (i + 1) == '#' then
    if s.get (i + 2) == 'x' || s.get (i + 2) == 'X' then
      let j := s.skipWhile isHexDigit (i + 3)
      if j > i + 3 && s.get j == ';' then some (j + 1) else none
    else
      let j := s.skipWhile Char.isDigit (i + 2)
      if j > i + 2 && s.get j == ';' then some (j + 1) else none
  else
    let j := s.skipWhile Char.isAlphanum (i + 1)
    if j > i + 1 && s.get j == ';' then some (j + 1) else none

end Javascript
end ShapeSearch
