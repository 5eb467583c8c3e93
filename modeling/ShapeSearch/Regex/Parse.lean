import ShapeSearch.Regex.Nesting
import ShapeSearch.Text.Properties

/-!
# Reading regular expressions

`Regex.parse` reads the text of a regular expression into its syntax tree, or
stops at the first error.  Reading is a single left-to-right pass that keeps
the items of the current sequence, a stack of open groups and alternations, and,
inside brackets, a stack of open classes and pending set operations; a closing
parenthesis or bracket pops the stack.  The errors therefore come in the order a
reader meets them: an unopened `)` as soon as it is seen, an unclosed `(` or `[`
only at the end, at the place where it was opened.

Every loop consumes at least one character per round, so each one is bounded by
the number of characters left (`Reader.budget`).
-/

namespace ShapeSearch
namespace Regex

/-- The reading state: the characters, the current place, and what the rest of the
pass needs to remember. -/
structure Reader where
  pattern : String
  chars : Array Char
  idx : Nat
  pos : Pos
  ignoreSpace : Bool
  names : List (String × Span)

/-- Reading steps: they change the reader and may fail with an error. -/
abbrev ReadM := StateT Reader (Except Error)

namespace Reader

/-- The place after a character. -/
def stepPos (p : Pos) (c : Char) : Pos :=
  if c == '\n' then ⟨p.offset + c.utf8Size, p.line + 1, 1⟩
  else ⟨p.offset + c.utf8Size, p.line, p.column + 1⟩

/-- Stop with an error of the given kind at a span. -/
def fail {α : Type} (kind : ErrorKind) (span : Span) : ReadM α := do
  throw { pattern := (← get).pattern, kind, span }

/-- Stop with an error that points at two spans. -/
def failTwo {α : Type} (kind : ErrorKind) (span aux : Span) : ReadM α := do
  throw { pattern := (← get).pattern, kind, span, aux := some aux }

/-- The current character, if any. -/
def cur : ReadM (Option Char) := do
  let r ← get
  pure r.chars[r.idx]?

/-- The current character, or NUL at the end. -/
def ch : ReadM Char := do
  pure ((← cur).getD (Char.ofNat 0))

/-- Whether the whole text has been read. -/
def eof : ReadM Bool := do
  let r ← get
  pure (r.idx ≥ r.chars.size)

/-- The current place. -/
def here : ReadM Pos := do
  pure (← get).pos

/-- The empty span at the current place. -/
def spanHere : ReadM Span := do
  let p ← here
  pure ⟨p, p⟩

/-- The span of the current character. -/
def spanChar : ReadM Span := do
  let p ← here
  match ← cur with
  | some c => pure ⟨p, stepPos p c⟩
  | none => pure ⟨p, p⟩

/-- How many more rounds a loop over the rest of the text may take. -/
def budget : ReadM Nat := do
  let r ← get
  pure (r.chars.size - r.idx + 1)

/-- Move past the current character; true when another character follows. -/
def bump : ReadM Bool := do
  let r ← get
  match r.chars[r.idx]? with
  | none => pure false
  | some c =>
    set { r with idx := r.idx + 1, pos := stepPos r.pos c }
    pure (r.idx + 1 < r.chars.size)

/-- Skip a comment after `#` in whitespace-insensitive mode, up to and including the newline. -/
def skipComment : Nat → ReadM Unit
  | 0 => pure ()
  | fuel + 1 => do
    match ← cur with
    | none => pure ()
    | some c =>
      discard bump
      if c == '\n' then pure () else skipComment fuel

/-- In whitespace-insensitive mode, skip white space and comments. -/
def bumpSpaceWith : Nat → ReadM Unit
  | 0 => pure ()
  | fuel + 1 => do
    if !(← get).ignoreSpace then return
    match ← cur with
    | none => pure ()
    | some c =>
      if isWhiteSpace c then
        discard bump
        bumpSpaceWith fuel
      else if c == '#' then
        discard bump
        skipComment (← budget)
        bumpSpaceWith fuel
      else pure ()

/-- Skip white space and comments when the mode asks for it. -/
def bumpSpace : ReadM Unit := do
  bumpSpaceWith (← budget)

/-- Move past the current character and any space after it; true when not at the end. -/
def bumpAndSpace : ReadM Bool := do
  if !(← bump) then
    -- moved onto the end, or was already there
    return false
  bumpSpace
  pure !(← eof)

/-- The character after the current one. -/
def peek : ReadM (Option Char) := do
  let r ← get
  pure r.chars[r.idx + 1]?

/-- The first character after the current one that is not space (in whitespace-insensitive mode). -/
def peekSpace : ReadM (Option Char) := do
  let saved ← get
  if !saved.ignoreSpace then return saved.chars[saved.idx + 1]?
  discard bump
  bumpSpace
  let c ← cur
  set saved
  pure c

/-- Whether the text at the current place starts with `s`. -/
def startsWith (s : String) : ReadM Bool := do
  let r ← get
  let want := s.toList
  pure ((r.chars.extract r.idx (r.idx + want.length)).toList == want)

/-- Move past `s` when the text at the current place starts with it. -/
def bumpIf (s : String) : ReadM Bool := do
  if ← startsWith s then
    for _ in s.toList do
      discard bump
    pure true
  else pure false

end Reader

open Reader

/-- A group waiting for its `)`, with the sequence it interrupts and where that began; or
the branches of an alternation read so far, and where the first began. -/
inductive GroupFrame where
  | group (prior : List Ast) (priorStart : Pos) (kind : GroupKind) (openSpan : Span) (oldIgnore : Bool)
  | alternation (branches : List Ast) (start : Pos)

/-- A bracketed class waiting for its `]`, with the union it interrupts and where that
began; or the left side of a set operation. -/
inductive ClassFrame where
  | opened (parent : List ClassItem) (parentStart : Pos) (negated : Bool) (setSpan : Span)
  | operation (kind : SetOp) (lhs : ClassSet)

/-- A sequence of items over a span as one tree: nothing, the single item, or the
sequence. -/
def concatAst (items : List Ast) (span : Span) : Ast :=
  match items with
  | [] => .empty span
  | [a] => a
  | items => .concat items span

/-- Branches over a span as one tree. -/
def alternationAst (branches : List Ast) (span : Span) : Ast :=
  match branches with
  | [] => .empty span
  | [a] => a
  | branches => .alternation branches span

/-- A primitive read by an escape or a single character, before it is placed. -/
inductive Primitive where
  | literal (lit : Literal)
  | assertion (kind : Assertion) (span : Span)
  | dot (span : Span)
  | perl (kind : PerlKind) (negated : Bool) (span : Span)
  | unicode (span : Span) (negated : Bool) (name : UnicodeName)

namespace Primitive

/-- The span a primitive covers. -/
def span : Primitive → Span
  | .literal lit => lit.span
  | .assertion _ s | .dot s | .perl _ _ s | .unicode s _ _ => s

/-- A primitive as an item of the current sequence. -/
def toAst : Primitive → Ast
  | .literal lit => .literal lit
  | .assertion k s => .assertion k s
  | .dot s => .dot s
  | .perl k n s => .perl k n s
  | .unicode s n name => .unicode s n name

/-- A primitive as an item of a bracketed class; only literals and classes may stand there. -/
def toClassItem : Primitive → ReadM ClassItem
  | .literal lit => pure (.literal lit)
  | .perl k n s => pure (.perl k n s)
  | .unicode s n name => pure (.unicode s n name)
  | p => fail .classEscapeInvalid p.span

/-- A primitive as the end of a class range; only a literal may stand there. -/
def toRangeEnd : Primitive → ReadM Literal
  | .literal lit => pure lit
  | p => fail .classRangeLiteral p.span

end Primitive

/-- The value of a hexadecimal digit. -/
def hexDigitValue (c : Char) : Option Nat :=
  if c.isDigit then some (c.toNat - '0'.toNat)
  else if 'a' ≤ c && c ≤ 'f' then some (c.toNat - 'a'.toNat + 10)
  else if 'A' ≤ c && c ≤ 'F' then some (c.toNat - 'A'.toNat + 10)
  else none

/-- The number written by hexadecimal digits. -/
def hexNumber (digits : List Char) : Nat :=
  digits.foldl (fun n d => 16 * n + (hexDigitValue d).getD 0) 0

/-- A Unicode scalar value: below the top of the code space and not a surrogate. -/
def isScalar (n : Nat) : Bool :=
  n < 0x110000 && !(0xD800 ≤ n && n ≤ 0xDFFF)

/-- Read the digits of `\x`, `\u`, `\U` without braces: exactly `count` of them. -/
def readHexDigits (start : Pos) (count : Nat) : ReadM Primitive := do
  let digitsStart ← here
  let mut digits : List Char := []
  for i in List.range count do
    if i > 0 then
      if !(← bumpAndSpace) then
        fail .escapeUnexpectedEof (← spanHere)
    let c ← ch
    if (hexDigitValue c).isNone || (← eof) then
      fail .escapeHexInvalidDigit (← spanChar)
    digits := digits ++ [c]
  discard bumpAndSpace
  let stop ← here
  let n := hexNumber digits
  if isScalar n then
    pure (.literal { char := Char.ofNat n, span := ⟨start, stop⟩, byteEscape := count == 2 })
  else fail .escapeHexInvalid ⟨digitsStart, stop⟩

/-- Read the digits of `\x{...}` and its kin, between braces. -/
def readHexBrace (start : Pos) : ReadM Primitive := do
  let bracePos ← here
  let digitsStart := (← spanChar).stop
  let rec go : Nat → List Char → ReadM (List Char)
    | 0, acc => pure acc
    | fuel + 1, acc => do
      if !(← bumpAndSpace) then return acc
      let c ← ch
      if c == '}' then return acc
      if (hexDigitValue c).isNone then fail .escapeHexInvalidDigit (← spanChar)
      go fuel (acc ++ [c])
  let digits ← go (← budget) []
  if ← eof then fail .escapeUnexpectedEof ⟨bracePos, ← here⟩
  let stop ← here
  discard bumpAndSpace
  if digits.isEmpty then fail .escapeHexEmpty ⟨bracePos, ← here⟩
  -- leading zeros are allowed; a value past the code space is refused
  let n := hexNumber digits
  if isScalar n then pure (.literal { char := Char.ofNat n, span := ⟨start, ← here⟩ })
  else fail .escapeHexInvalid ⟨digitsStart, stop⟩

/-- Read `\x`, `\u` or `\U` after the backslash. -/
def readHex (start : Pos) : ReadM Primitive := do
  let count := match ← ch with
    | 'x' => 2
    | 'u' => 4
    | _ => 8
  if !(← bumpAndSpace) then fail .escapeUnexpectedEof (← spanHere)
  if (← ch) == '{' then readHexBrace start else readHexDigits start count

/-- Read `\p` or `\P` after the backslash. -/
def readUnicodeClass (start : Pos) : ReadM Primitive := do
  let negated := (← ch) == 'P'
  if !(← bumpAndSpace) then fail .escapeUnexpectedEof (← spanHere)
  if (← ch) == '{' then
    let rec go : Nat → List Char → ReadM (List Char)
      | 0, acc => pure acc
      | fuel + 1, acc => do
        if !(← bumpAndSpace) then return acc
        let c ← ch
        if c == '}' then return acc
        go fuel (acc ++ [c])
    let chars ← go (← budget) []
    if ← eof then fail .escapeUnexpectedEof (← spanHere)
    discard bump
    let name := String.ofList chars
    let kind :=
      match name.splitOn "!=" with
      | n :: v :: rest => UnicodeName.namedValue n ("!=".intercalate (v :: rest)) true
      | _ =>
        match name.splitOn ":" with
        | n :: v :: rest => .namedValue n (":".intercalate (v :: rest)) false
        | _ =>
          match name.splitOn "=" with
          | n :: v :: rest => .namedValue n ("=".intercalate (v :: rest)) false
          | _ => .named name
    let span : Span := ⟨start, ← here⟩
    pure (.unicode span negated kind)
  else
    let c ← ch
    if c == '\\' then fail .unicodeClassInvalid (← spanChar)
    discard bumpAndSpace
    pure (.unicode ⟨start, ← here⟩ negated (.oneLetter c))

/-- The characters that are syntax and may be escaped to stand for themselves. -/
def isMetaCharacter (c : Char) : Bool :=
  "\\.+*?()|[]{}^$#&-~".contains c

/-- Characters that may follow a backslash to stand for themselves. -/
def isEscapeable (c : Char) : Bool :=
  isMetaCharacter c ||
    (c.toNat < 128 && !c.isAlphanum && c != '<' && c != '>')

/-- Read `\b{start}` and its kin after `\b`; `none` when the brace starts a repetition instead. -/
def readSpecialWordBoundary (wbStart : Pos) : ReadM (Option Assertion) := do
  let saved ← get
  let start ← here
  if !(← bumpAndSpace) then
    fail .specialWordOrRepetitionUnexpectedEof ⟨wbStart, ← here⟩
  let contentsStart ← here
  let valid (c : Char) : Bool := c.isAlpha || c == '-'
  if !valid (← ch) then
    set saved
    return none
  let rec go : Nat → List Char → ReadM (List Char)
    | 0, acc => pure acc
    | fuel + 1, acc => do
      if (← eof) || !valid (← ch) then return acc
      let c ← ch
      discard bumpAndSpace
      go fuel (acc ++ [c])
  let word ← go (← budget) []
  if (← eof) || (← ch) != '}' then
    fail .specialWordBoundaryUnclosed ⟨start, ← here⟩
  let stop ← here
  discard bump
  match String.ofList word with
  | "start" => pure (some .wordStart)
  | "end" => pure (some .wordEnd)
  | "start-half" => pure (some .wordStartHalf)
  | "end-half" => pure (some .wordEndHalf)
  | _ => fail .specialWordBoundaryUnrecognized ⟨contentsStart, stop⟩

/-- Read an escape sequence starting at the backslash. -/
def readEscape : ReadM Primitive := do
  let start ← here
  if !(← bump) then fail .escapeUnexpectedEof ⟨start, ← here⟩
  let c ← ch
  if '0' ≤ c && c ≤ '9' then
    fail .unsupportedBackreference ⟨start, (← spanChar).stop⟩
  if c == 'x' || c == 'u' || c == 'U' then return ← readHex start
  if c == 'p' || c == 'P' then return ← readUnicodeClass start
  if c == 'd' || c == 's' || c == 'w' || c == 'D' || c == 'S' || c == 'W' then
    discard bump
    let kind : PerlKind := if c == 'd' || c == 'D' then .digit else if c == 's' || c == 'S' then .space else .word
    return .perl kind c.isUpper ⟨start, ← here⟩
  discard bump
  let span : Span := ⟨start, ← here⟩
  let lit (c : Char) : Primitive := .literal { char := c, span }
  if isEscapeable c then return lit c
  match c with
  | 'a' => pure (lit (Char.ofNat 7))
  | 'f' => pure (lit (Char.ofNat 12))
  | 't' => pure (lit '\t')
  | 'n' => pure (lit '\n')
  | 'r' => pure (lit '\r')
  | 'v' => pure (lit (Char.ofNat 11))
  | 'A' => pure (.assertion .startText span)
  | 'z' => pure (.assertion .endText span)
  | 'b' =>
    if !(← eof) && (← ch) == '{' then
      match ← readSpecialWordBoundary start with
      | some kind => pure (.assertion kind ⟨start, ← here⟩)
      | none => pure (.assertion .wordBoundary span)
    else pure (.assertion .wordBoundary span)
  | 'B' => pure (.assertion .notWordBoundary span)
  | '<' => pure (.assertion .wordStart span)
  | '>' => pure (.assertion .wordEnd span)
  | _ => fail .escapeUnrecognized span

/-- Read one primitive outside brackets. -/
def readPrimitive : ReadM Primitive := do
  let c ← ch
  if c == '\\' then return ← readEscape
  let span ← spanChar
  discard bump
  match c with
  | '.' => pure (.dot span)
  | '^' => pure (.assertion .startLine span)
  | '$' => pure (.assertion .endLine span)
  | _ => pure (.literal { char := c, span })

/-- Read `[:name:]` inside brackets; on anything else the reader is put back and `none` returned. -/
def readAsciiClass : ReadM (Option ClassItem) := do
  let saved ← get
  let start := saved.pos
  let back : ReadM (Option ClassItem) := do set saved; pure none
  if !(← bump) || (← ch) != ':' then return ← back
  if !(← bump) then return ← back
  let mut negated := false
  if (← ch) == '^' then
    negated := true
    if !(← bump) then return ← back
  let nameStart := (← get).idx
  let rec go : Nat → ReadM Unit
    | 0 => pure ()
    | fuel + 1 => do
      if (← ch) == ':' then return
      if ← bump then go fuel
  go (← budget)
  if ← eof then return ← back
  let r ← get
  let name := String.ofList (r.chars.extract nameStart r.idx).toList
  if !(← bumpIf ":]") then return ← back
  match AsciiKind.ofName name with
  | some kind => pure (some (.ascii kind negated ⟨start, ← here⟩))
  | none => back

/-- Read the opening of a bracketed class: `[`, an optional `^`, leading `-` and a leading `]`.
Gives the negation, the span read, the first items and where they began. -/
def readClassOpen : ReadM (Bool × Span × List ClassItem × Pos) := do
  let start ← here
  if !(← bumpAndSpace) then fail .classUnclosed ⟨start, ← here⟩
  let mut negated := false
  if (← ch) == '^' then
    negated := true
    if !(← bumpAndSpace) then fail .classUnclosed ⟨start, ← here⟩
  let itemsStart ← here
  let rec dashes : Nat → List ClassItem → ReadM (List ClassItem)
    | 0, acc => pure acc
    | fuel + 1, acc => do
      if (← ch) != '-' then return acc
      let span ← spanChar
      if !(← bumpAndSpace) then fail .classUnclosed ⟨start, start⟩
      dashes fuel (acc ++ [.literal { char := '-', span }])
  let mut items ← dashes (← budget) []
  if items.isEmpty && (← ch) == ']' then
    items := [.literal { char := ']', span := ← spanChar }]
    if !(← bumpAndSpace) then fail .classUnclosed ⟨start, ← here⟩
  pure (negated, ⟨start, ← here⟩, items, itemsStart)

/-- The error for a class left open: it points at the innermost open bracket. -/
def classUnclosedError {α : Type} (stack : List ClassFrame) : ReadM α := do
  match stack.find? (fun | .opened .. => true | _ => false) with
  | some (.opened _ _ _ s) => fail .classUnclosed s
  | _ => fail .classUnclosed (← spanHere)

/-- Fold a finished operand into a pending set operation on top of the stack. -/
def popClassOp (stack : List ClassFrame) (rhs : ClassSet) : List ClassFrame × ClassSet :=
  match stack with
  | .operation kind lhs :: rest => (rest, .op kind lhs rhs)
  | _ => (stack, rhs)

/-- Read one item or range inside brackets. -/
def readClassRange (stack : List ClassFrame) : ReadM ClassItem := do
  let first ← if (← ch) == '\\' then readEscape else do
    let span ← spanChar
    let c ← ch
    discard bump
    pure (Primitive.literal { char := c, span })
  bumpSpace
  if ← eof then classUnclosedError stack
  let next ← peekSpace
  if (← ch) != '-' || next == some ']' || next == some '-' then
    return ← first.toClassItem
  if !(← bumpAndSpace) then classUnclosedError stack
  let second ← if (← ch) == '\\' then readEscape else do
    let span ← spanChar
    let c ← ch
    discard bump
    pure (Primitive.literal { char := c, span })
  let lo ← first.toRangeEnd
  let hi ← second.toRangeEnd
  if hi.char < lo.char then fail .classRangeInvalid ⟨first.span.start, second.span.stop⟩
  pure (.range lo hi)

/-- Read a bracketed class starting at its `[`: its negation, its set and its span. -/
def readClass : ReadM (Bool × ClassSet × Span) := do
  let rec go : Nat → List ClassFrame → List ClassItem → Pos → ReadM (Bool × ClassSet × Span)
    | 0, stack, _, _ => classUnclosedError stack
    | fuel + 1, stack, union, start => do
      bumpSpace
      if ← eof then classUnclosedError stack
      let c ← ch
      if c == '[' then
        if !stack.isEmpty then
          if let some item ← readAsciiClass then
            return ← go fuel stack (union ++ [item]) start
        let (negated, span, items, itemsStart) ← readClassOpen
        go fuel (.opened union start negated span :: stack) items itemsStart
      else if c == ']' then
        let (stack, set) := popClassOp stack (.union union start)
        match stack with
        | .opened parent parentStart negated openSpan :: rest =>
          discard bump
          let span : Span := ⟨openSpan.start, ← here⟩
          if rest.isEmpty then pure (negated, set, span)
          else go fuel rest (parent ++ [.bracketed negated set span]) parentStart
        | _ => classUnclosedError stack
      else if (c == '&' || c == '-' || c == '~') && (← peek) == some c then
        discard bump
        discard bump
        let kind : SetOp := if c == '&' then .intersection else if c == '-' then .difference else .symmetricDifference
        let (stack, lhs) := popClassOp stack (.union union start)
        go fuel (.operation kind lhs :: stack) [] (← here)
      else
        let item ← readClassRange stack
        go fuel stack (union ++ [item]) start
  go (← budget) [] [] (← here)

/-- Read a decimal number of a counted repetition, with blanks allowed around it. -/
def readDecimal : ReadM Nat := do
  let rec skipBlanks : Nat → ReadM Unit
    | 0 => pure ()
    | fuel + 1 => do
      if !(← eof) && isWhiteSpace (← ch) then
        discard bump
        skipBlanks fuel
  skipBlanks (← budget)
  let start ← here
  let rec digits : Nat → List Char → ReadM (List Char)
    | 0, acc => pure acc
    | fuel + 1, acc => do
      let c ← ch
      if (← eof) || !c.isDigit then return acc
      discard bumpAndSpace
      digits fuel (acc ++ [c])
  let ds ← digits (← budget) []
  let stop ← here
  skipBlanks (← budget)
  if ds.isEmpty then fail .repetitionCountDecimalEmpty ⟨start, stop⟩
  let n := ds.foldl (fun n d => 10 * n + (d.toNat - '0'.toNat)) 0
  if n < Nat.pow 2 32 then pure n else fail .decimalInvalid ⟨start, stop⟩

/-- Whether an item may be repeated: not nothing and not a flag group. -/
def repeatable : Ast → Bool
  | .empty _ | .flags _ _ => false
  | _ => true

/-- Apply `?`, `*` or `+` to the last item of the sequence. -/
def readUncountedRepetition (items : List Ast) (min : Nat) (max : Option Nat) : ReadM (List Ast) := do
  match items.getLast? with
  | some last =>
    if !repeatable last then fail .repetitionMissing (← spanHere)
    let greedy ← do
      if (← bump) && (← ch) == '?' then
        discard bump
        pure false
      else pure true
    pure (items.dropLast ++ [.repetition last min max greedy ⟨last.span.start, ← here⟩])
  | none => fail .repetitionMissing (← spanHere)

/-- Apply `{n}`, `{n,}` or `{n,m}` to the last item of the sequence. -/
def readCountedRepetition (items : List Ast) : ReadM (List Ast) := do
  let start ← here
  match items.getLast? with
  | none => fail .repetitionMissing (← spanHere)
  | some last =>
    if !repeatable last then fail .repetitionMissing (← spanHere)
    if !(← bumpAndSpace) then fail .repetitionCountUnclosed ⟨start, ← here⟩
    let lo ← readDecimal
    if ← eof then fail .repetitionCountUnclosed ⟨start, ← here⟩
    let mut hi : Option Nat := some lo
    if (← ch) == ',' then
      if !(← bumpAndSpace) then fail .repetitionCountUnclosed ⟨start, ← here⟩
      if (← ch) != '}' then
        hi := some (← readDecimal)
      else hi := none
    if (← eof) || (← ch) != '}' then fail .repetitionCountUnclosed ⟨start, ← here⟩
    let greedy ← do
      if (← bumpAndSpace) && (← ch) == '?' then
        discard bump
        pure false
      else pure true
    let opSpan : Span := ⟨start, ← here⟩
    match hi with
    | some h => if h < lo then fail .repetitionCountInvalid opSpan
    | none => pure ()
    pure (items.dropLast ++ [.repetition last lo hi greedy ⟨last.span.start, opSpan.stop⟩])

/-- Read one flag letter. -/
def readFlag : ReadM Flag := do
  match ← ch with
  | 'i' => pure .caseInsensitive
  | 'm' => pure .multiLine
  | 's' => pure .dotMatchesNewLine
  | 'U' => pure .swapGreed
  | 'u' => pure .unicode
  | 'R' => pure .crlf
  | 'x' => pure .ignoreWhitespace
  | _ => fail .flagUnrecognized (← spanChar)

/-- Read the flags of `(?flags)` or `(?flags:`, up to the `)` or `:`. -/
def readFlags : ReadM (List FlagItem) := do
  let rec go : Nat → List (FlagItem × Span) → Option Span → ReadM (List (FlagItem × Span) × Option Span)
    | 0, acc, neg => pure (acc, neg)
    | fuel + 1, acc, neg => do
      let c ← ch
      if c == ':' || c == ')' then return (acc, neg)
      let span ← spanChar
      let (item, neg) ← if c == '-' then pure (FlagItem.negation, some span) else do
        pure (FlagItem.flag (← readFlag), none)
      match acc.find? (fun p => p.1 == item) with
      | some (_, original) =>
        if item == .negation then failTwo .flagRepeatedNegation span original
        else failTwo .flagDuplicate span original
      | none => pure ()
      if !(← bump) then fail .flagUnexpectedEof (← spanHere)
      go fuel (acc ++ [(item, span)]) neg
  let (items, dangling) ← go (← budget) [] none
  if let some span := dangling then fail .flagDanglingNegation span
  pure (items.map Prod.fst)

/-- Whether a character may appear in a capture group name. -/
def isCaptureNameChar (c : Char) (first : Bool) : Bool :=
  if first then c == '_' || isAlphabetic c
  else c == '_' || c == '.' || c == '[' || c == ']' || isAlphanumeric c

/-- Read the name of `(?P<name>` after the `<`, and remember it. -/
def readCaptureName : ReadM String := do
  if ← eof then fail .groupNameUnexpectedEof (← spanHere)
  let start ← here
  let startIdx := (← get).idx
  let rec go : Nat → ReadM Unit
    | 0 => pure ()
    | fuel + 1 => do
      let c ← ch
      if c == '>' then return
      if !isCaptureNameChar c ((← here) == start) then fail .groupNameInvalid (← spanChar)
      if ← bump then go fuel
  go (← budget)
  let stop ← here
  if ← eof then fail .groupNameUnexpectedEof (← spanHere)
  let r ← get
  let name := String.ofList (r.chars.extract startIdx r.idx).toList
  discard bump
  if name.isEmpty then fail .groupNameEmpty ⟨start, start⟩
  let span : Span := ⟨start, stop⟩
  match r.names.find? (fun p => p.1 == name) with
  | some (_, original) => failTwo .groupNameDuplicate span original
  | none => modify fun r => { r with names := (name, span) :: r.names }
  pure name

/-- What an opening parenthesis starts: a flag group that applies to the rest of the
enclosing group, or a group. -/
inductive GroupStart where
  | setFlags (items : List FlagItem) (span : Span)
  | group (kind : GroupKind) (openSpan : Span)

/-- Read a group opening at its `(`. -/
def readGroup : ReadM GroupStart := do
  let openSpan ← spanChar
  discard bump
  bumpSpace
  let lookStart := openSpan.start
  if (← bumpIf "?=") || (← bumpIf "?!") || (← bumpIf "?<=") || (← bumpIf "?<!") then
    fail .unsupportedLookAround ⟨lookStart, ← here⟩
  let innerSpan ← spanHere
  if (← bumpIf "?P<") || (← bumpIf "?<") then
    let name ← readCaptureName
    return .group (.named name) openSpan
  if ← bumpIf "?" then
    if ← eof then fail .groupUnclosed innerSpan
    let flags ← readFlags
    let closing ← ch
    discard bump
    if closing == ')' then
      if flags.isEmpty then fail .repetitionMissing innerSpan
      return .setFlags flags ⟨openSpan.start, ← here⟩
    return .group (.nonCapturing flags) openSpan
  pure (.group .capture openSpan)

/-- The whitespace mode a list of flag items leaves, if it says anything about it. -/
def ignoreSpaceState (items : List FlagItem) : Option Bool :=
  let step (acc : Option Bool × Bool) (item : FlagItem) : Option Bool × Bool :=
    match item with
    | .negation => (acc.1, true)
    | .flag .ignoreWhitespace => (some !acc.2, acc.2)
    | .flag _ => acc
  (items.foldl step (none, false)).1

/-- Add the sequence that ends here, over its span, as a branch of the alternation on top
of the stack, or start one. -/
def pushAlternate (stack : List GroupFrame) (items : List Ast) (span : Span) : List GroupFrame :=
  match stack with
  | .alternation branches start :: rest => .alternation (branches ++ [concatAst items span]) start :: rest
  | _ => .alternation [concatAst items span] span.start :: stack

/-- Close the innermost group at its `)`, given the sequence read inside it and where that
began; gives the stack, the sequence the group belongs to and where that began. -/
def closeGroup (stack : List GroupFrame) (items : List Ast) (start : Pos) :
    ReadM (List GroupFrame × List Ast × Pos) := do
  let (frame, alt) ← match stack with
    | .group prior priorStart kind s old :: rest => pure ((prior, priorStart, kind, s, old, rest), none)
    | .alternation branches altStart :: .group prior priorStart kind s old :: rest =>
      pure ((prior, priorStart, kind, s, old, rest), some (branches, altStart))
    | _ => fail .groupUnopened (← spanChar)
  let (prior, priorStart, kind, openSpan, old, rest) := frame
  modify fun r => { r with ignoreSpace := old }
  let stop ← here
  discard bump
  let last := concatAst items ⟨start, stop⟩
  let inner := match alt with
    | some (branches, altStart) => alternationAst (branches ++ [last]) ⟨altStart, stop⟩
    | none => last
  pure (rest, prior ++ [.group kind inner ⟨openSpan.start, ← here⟩], priorStart)

/-- Finish at the end of the text, given the last sequence and where it began: no group
may still be open. -/
def finishGroups (stack : List GroupFrame) (items : List Ast) (start : Pos) : ReadM Ast := do
  let stop ← here
  match stack with
  | [] => pure (concatAst items ⟨start, stop⟩)
  | [.alternation branches altStart] =>
    pure (alternationAst (branches ++ [concatAst items ⟨start, stop⟩]) ⟨altStart, stop⟩)
  | .alternation .. :: .group _ _ _ s _ :: _ => fail .groupUnclosed s
  | .group _ _ _ s _ :: _ => fail .groupUnclosed s
  | _ => fail .groupUnclosed (← spanHere)

/-- The main pass: read items until the end, keeping the stack of open groups and where
the current sequence began. -/
def readAll : Nat → List GroupFrame → List Ast → Pos → ReadM Ast
  | 0, stack, items, start => finishGroups stack items start
  | fuel + 1, stack, items, start => do
    bumpSpace
    if ← eof then return ← finishGroups stack items start
    match ← ch with
    | '(' =>
      match ← readGroup with
      | .setFlags flags span =>
        if let some v := ignoreSpaceState flags then
          modify fun r => { r with ignoreSpace := v }
        readAll fuel stack (items ++ [.flags flags span]) start
      | .group kind openSpan =>
        let old := (← get).ignoreSpace
        let flags := match kind with
          | .nonCapturing fs => fs
          | _ => []
        if let some v := ignoreSpaceState flags then
          modify fun r => { r with ignoreSpace := v }
        readAll fuel (.group items start kind openSpan old :: stack) [] (← here)
    | ')' =>
      let (stack, items, start) ← closeGroup stack items start
      readAll fuel stack items start
    | '|' =>
      let stop ← here
      discard bump
      readAll fuel (pushAlternate stack items ⟨start, stop⟩) [] (← here)
    | '[' =>
      let (negated, set, span) ← readClass
      readAll fuel stack (items ++ [.bracketed negated set span]) start
    | '?' => readAll fuel stack (← readUncountedRepetition items 0 (some 1)) start
    | '*' => readAll fuel stack (← readUncountedRepetition items 0 none) start
    | '+' => readAll fuel stack (← readUncountedRepetition items 1 none) start
    | '{' => readAll fuel stack (← readCountedRepetition items) start
    | _ => readAll fuel stack (items ++ [(← readPrimitive).toAst]) start

/-- Read a regular expression into its syntax tree; a tree nested deeper than the limit
is refused at its first part below the limit. -/
def parse (pattern : String) : Except Error Ast := do
  let chars := pattern.toList.toArray
  let start : Reader := { pattern, chars, idx := 0, pos := ⟨0, 1, 1⟩, ignoreSpace := false, names := [] }
  let tree ← readAll (chars.size + 1) [] [] ⟨0, 1, 1⟩ |>.run' start
  match tree.tooDeep nestLimit 0 with
  | some span => throw { pattern, kind := .nestLimitExceeded nestLimit, span }
  | none => pure tree

end Regex
end ShapeSearch
