import ShapeSearch.Text.Category

/-!
# Regular expressions: syntax and syntax errors

The `#match?` predicate of the pattern language takes a regular expression in
the usual Perl-like syntax: literals and escapes, `.`, anchors, bracketed
classes with ranges, nested classes and the set operations `&&`, `--`, `~~`,
Perl classes `\d \s \w`, Unicode classes `\p{..}`, groups (capturing, named,
non-capturing, with flags), alternation and the repetitions `* + ? {n,m}`.

This module holds the abstract syntax that reading produces and the errors that
reading can raise.  An error carries the pattern, its kind and the span it
points at (and, for a duplicate, the span of the first occurrence).  Its text
repeats the pattern with a line of carets under each span, then names the
kind; a pattern of several lines gets line numbers and a ruled frame instead.
-/

namespace ShapeSearch
namespace Regex

/-- A place in a regular expression: byte offset, 1-based line, 1-based column in characters. -/
structure Pos where
  offset : Nat
  line : Nat
  column : Nat
  deriving Repr, DecidableEq, Inhabited

/-- The stretch of a regular expression between two places. -/
structure Span where
  start : Pos
  stop : Pos
  deriving Repr, DecidableEq, Inhabited

namespace Span

/-- A span that starts and ends on one line. -/
def isOneLine (s : Span) : Bool :=
  s.start.line == s.stop.line

end Span

/-- What went wrong while reading or resolving a regular expression. -/
inductive ErrorKind where
  | classEscapeInvalid
  | classRangeInvalid
  | classRangeLiteral
  | classUnclosed
  | decimalEmpty
  | decimalInvalid
  | escapeHexEmpty
  | escapeHexInvalid
  | escapeHexInvalidDigit
  | escapeUnexpectedEof
  | escapeUnrecognized
  | flagDanglingNegation
  | flagDuplicate
  | flagRepeatedNegation
  | flagUnexpectedEof
  | flagUnrecognized
  | groupNameDuplicate
  | groupNameEmpty
  | groupNameInvalid
  | groupNameUnexpectedEof
  | groupUnclosed
  | groupUnopened
  | nestLimitExceeded (limit : Nat)
  | repetitionCountInvalid
  | repetitionCountDecimalEmpty
  | repetitionCountUnclosed
  | repetitionMissing
  | specialWordBoundaryUnclosed
  | specialWordBoundaryUnrecognized
  | specialWordOrRepetitionUnexpectedEof
  | unicodeClassInvalid
  | unsupportedBackreference
  | unsupportedLookAround
  | unicodeNotAllowed
  | invalidUtf8
  | unicodePropertyNotFound
  | unicodePropertyValueNotFound
  deriving Repr, DecidableEq, Inhabited

namespace ErrorKind

/-- The sentence that names an error kind. -/
def message : ErrorKind → String
  | .classEscapeInvalid => "invalid escape sequence found in character class"
  | .classRangeInvalid => "invalid character class range, the start must be <= the end"
  | .classRangeLiteral => "invalid range boundary, must be a literal"
  | .classUnclosed => "unclosed character class"
  | .decimalEmpty => "decimal literal empty"
  | .decimalInvalid => "decimal literal invalid"
  | .escapeHexEmpty => "hexadecimal literal empty"
  | .escapeHexInvalid => "hexadecimal literal is not a Unicode scalar value"
  | .escapeHexInvalidDigit => "invalid hexadecimal digit"
  | .escapeUnexpectedEof => "incomplete escape sequence, reached end of pattern prematurely"
  | .escapeUnrecognized => "unrecognized escape sequence"
  | .flagDanglingNegation => "dangling flag negation operator"
  | .flagDuplicate => "duplicate flag"
  | .flagRepeatedNegation => "flag negation operator repeated"
  | .flagUnexpectedEof => "expected flag but got end of regex"
  | .flagUnrecognized => "unrecognized flag"
  | .groupNameDuplicate => "duplicate capture group name"
  | .groupNameEmpty => "empty capture group name"
  | .groupNameInvalid => "invalid capture group character"
  | .groupNameUnexpectedEof => "unclosed capture group name"
  | .groupUnclosed => "unclosed group"
  | .groupUnopened => "unopened group"
  | .nestLimitExceeded limit =>
    "exceed the maximum number of nested parentheses/brackets (" ++ toString limit ++ ")"
  | .repetitionCountInvalid => "invalid repetition count range, the start must be <= the end"
  | .repetitionCountDecimalEmpty => "repetition quantifier expects a valid decimal"
  | .repetitionCountUnclosed => "unclosed counted repetition"
  | .repetitionMissing => "repetition operator missing expression"
  | .specialWordBoundaryUnclosed =>
    "special word boundary assertion is either unclosed or contains an invalid character"
  | .specialWordBoundaryUnrecognized =>
    "unrecognized special word boundary assertion, valid choices are: start, end, start-half or end-half"
  | .specialWordOrRepetitionUnexpectedEof =>
    "found either the beginning of a special word boundary or a bounded repetition on a \\b with an opening brace, but no closing brace"
  | .unicodeClassInvalid => "invalid Unicode character class"
  | .unsupportedBackreference => "backreferences are not supported"
  | .unsupportedLookAround => "look-around, including look-ahead and look-behind, is not supported"
  | .unicodeNotAllowed => "Unicode not allowed here"
  | .invalidUtf8 => "pattern can match invalid UTF-8"
  | .unicodePropertyNotFound => "Unicode property not found"
  | .unicodePropertyValueNotFound => "Unicode property value not found"

end ErrorKind

/-- A failure to read or resolve a regular expression, with the places it points at. -/
structure Error where
  pattern : String
  kind : ErrorKind
  span : Span
  aux : Option Span := none
  deriving Repr, DecidableEq, Inhabited

namespace Error

/-- Lines of a text as the notation shows them: split at newlines, a final empty line dropped. -/
def textLines (text : String) : List String :=
  let parts := (text.splitOn "\n").map fun l => if l.endsWith "\r" then l.dropEnd 1 |>.toString else l
  if text.isEmpty then [] else if text.endsWith "\n" then parts.dropLast else parts

/-- `n` copies of a character. -/
def repeatChar (c : Char) (n : Nat) : String :=
  String.ofList (List.replicate n c)

/-- The caret line under one line of the pattern: spaces up to each span, then one caret
per character of it (at least one). -/
def caretLine (padding : Nat) (spans : List Span) : String :=
  let step (acc : String × Nat) (s : Span) : String × Nat :=
    let gap := s.start.column - 1 - acc.2
    let width := max 1 (s.stop.column - s.start.column)
    (acc.1 ++ repeatChar ' ' gap ++ repeatChar '^' width, acc.2 + gap + width)
  (spans.foldl step (repeatChar ' ' padding, 0)).1

/-- Spans in order of where they start. -/
def sortSpans (spans : List Span) : List Span :=
  spans.mergeSort fun a b => a.start.offset ≤ b.start.offset

/-- The full text of an error: the pattern with carets under the spans, then the kind. -/
def render (e : Error) : String :=
  let lines := textLines e.pattern
  let lineCount := lines.length + (if e.pattern.endsWith "\n" then 1 else 0)
  let width := if lineCount ≤ 1 then 0 else (toString lineCount).length
  let padding := if width == 0 then 4 else 2 + width
  let spans := e.span :: e.aux.toList
  let oneLine := sortSpans (spans.filter Span.isOneLine)
  let multi := sortSpans (spans.filter fun s => !s.isOneLine)
  let numbered (i : Nat) : String :=
    if width == 0 then "    "
    else
      let n := toString (i + 1)
      repeatChar ' ' (width - n.length) ++ n ++ ": "
  let notated := (lines.zipIdx.map fun (l, i) =>
    let onLine := oneLine.filter fun s => s.start.line == i + 1
    numbered i ++ l ++ "\n" ++
      (if onLine.isEmpty then "" else caretLine padding onLine ++ "\n")) |> String.join
  if e.pattern.contains '\n' then
    let divider := repeatChar '~' 79
    let notes := multi.map fun s =>
      "on line " ++ toString s.start.line ++ " (column " ++ toString s.start.column ++
        ") through line " ++ toString s.stop.line ++ " (column " ++ toString (s.stop.column - 1) ++ ")"
    "regex parse error:\n" ++ divider ++ "\n" ++ notated ++ divider ++ "\n" ++
      (if notes.isEmpty then "" else "\n".intercalate notes ++ "\n") ++
      "error: " ++ e.kind.message
  else
    "regex parse error:\n" ++ notated ++ "error: " ++ e.kind.message

end Error

/-- Flags that change how the rest of a group is read or matched. -/
inductive Flag where
  | caseInsensitive
  | multiLine
  | dotMatchesNewLine
  | swapGreed
  | unicode
  | crlf
  | ignoreWhitespace
  deriving Repr, DecidableEq, Inhabited

/-- One item of a flag group: a flag, or the `-` that negates the flags after it. -/
inductive FlagItem where
  | negation
  | flag (f : Flag)
  deriving Repr, DecidableEq, Inhabited

/-- The zero-width assertions. -/
inductive Assertion where
  | startLine
  | endLine
  | startText
  | endText
  | wordBoundary
  | notWordBoundary
  | wordStart
  | wordEnd
  | wordStartHalf
  | wordEndHalf
  deriving Repr, DecidableEq, Inhabited

/-- The Perl classes `\d`, `\s`, `\w`. -/
inductive PerlKind where
  | digit
  | space
  | word
  deriving Repr, DecidableEq, Inhabited

/-- The POSIX classes written `[:name:]` inside brackets. -/
inductive AsciiKind where
  | alnum | alpha | ascii | blank | cntrl | digit | graph
  | lower | print | punct | space | upper | word | xdigit
  deriving Repr, DecidableEq, Inhabited

namespace AsciiKind

/-- The class named inside `[: :]`. -/
def ofName : String → Option AsciiKind
  | "alnum" => some .alnum | "alpha" => some .alpha | "ascii" => some .ascii
  | "blank" => some .blank | "cntrl" => some .cntrl | "digit" => some .digit
  | "graph" => some .graph | "lower" => some .lower | "print" => some .print
  | "punct" => some .punct | "space" => some .space | "upper" => some .upper
  | "word" => some .word | "xdigit" => some .xdigit
  | _ => none

end AsciiKind

/-- How a Unicode class names its property. -/
inductive UnicodeName where
  | oneLetter (c : Char)
  | named (name : String)
  | namedValue (name : String) (value : String) (notEqual : Bool)
  deriving Repr, DecidableEq, Inhabited

/-- The binary operations of bracketed classes. -/
inductive SetOp where
  | intersection
  | difference
  | symmetricDifference
  deriving Repr, DecidableEq, Inhabited

/-- A literal character and where it was written.  The two-digit `\x` escape is
marked: with Unicode off it names a byte rather than a character. -/
structure Literal where
  char : Char
  span : Span
  byteEscape : Bool := false
  deriving Repr, DecidableEq, Inhabited

mutual

/-- A bracketed class: a union of items that began at a place, or an operation on two
classes. -/
inductive ClassSet where
  | union (items : List ClassItem) (start : Pos)
  | op (kind : SetOp) (lhs rhs : ClassSet)

/-- One item of a bracketed class. -/
inductive ClassItem where
  | literal (lit : Literal)
  | range (lo hi : Literal)
  | ascii (kind : AsciiKind) (negated : Bool) (span : Span)
  | unicode (span : Span) (negated : Bool) (name : UnicodeName)
  | perl (kind : PerlKind) (negated : Bool) (span : Span)
  | bracketed (negated : Bool) (set : ClassSet) (span : Span)

end

namespace ClassItem

/-- The span an item covers. -/
def span : ClassItem → Span
  | .literal lit => lit.span
  | .range lo hi => ⟨lo.span.start, hi.span.stop⟩
  | .ascii _ _ s | .unicode s _ _ | .perl _ _ s | .bracketed _ _ s => s

end ClassItem

/-- The span of the items of a union: from the first to the last, or empty where the
union began. -/
def unionSpan (items : List ClassItem) (start : Pos) : Span :=
  match items.head?, items.getLast? with
  | some first, some last => ⟨first.span.start, last.span.stop⟩
  | _, _ => ⟨start, start⟩

namespace ClassSet

/-- The span a class covers. -/
def span : ClassSet → Span
  | .union items start => unionSpan items start
  | .op _ lhs rhs => ⟨lhs.span.start, rhs.span.stop⟩

end ClassSet

/-- The kinds of group. -/
inductive GroupKind where
  | capture
  | named (name : String)
  | nonCapturing (flags : List FlagItem)
  deriving Repr, DecidableEq, Inhabited

/-- A regular expression as it was written, each part with the span it covers. -/
inductive Ast where
  | empty (span : Span)
  | flags (items : List FlagItem) (span : Span)
  | literal (lit : Literal)
  | dot (span : Span)
  | assertion (kind : Assertion) (span : Span)
  | unicode (span : Span) (negated : Bool) (name : UnicodeName)
  | perl (kind : PerlKind) (negated : Bool) (span : Span)
  | bracketed (negated : Bool) (set : ClassSet) (span : Span)
  | repetition (ast : Ast) (min : Nat) (max : Option Nat) (greedy : Bool) (span : Span)
  | group (kind : GroupKind) (ast : Ast) (span : Span)
  | alternation (branches : List Ast) (span : Span)
  | concat (items : List Ast) (span : Span)
  deriving Inhabited

namespace Ast

/-- The span a part covers. -/
def span : Ast → Span
  | .empty s | .flags _ s | .dot s | .assertion _ s | .unicode s _ _ | .perl _ _ s
  | .bracketed _ _ s | .repetition _ _ _ _ s | .group _ _ s | .alternation _ s
  | .concat _ s => s
  | .literal lit => lit.span

end Ast

end Regex
end ShapeSearch
