import ShapeSearch.Toml.Value

/-!
# Reading TOML

A reader for TOML documents over their bytes.  Each failure gathers, on its way
out, the names of the constructs it was inside (`invalid string`), the items that
would have been accepted (`expected newline, ...`) and possibly a cause of its
own; its report names the innermost construct and every expected item, in the
order they were met.  A failure is either soft, and lets an enclosing choice try
its next alternative, or hard, and ends the reading.

Keys and values are collected into nested tables.  A key given twice, a header
naming a table that is already defined, and a dotted key reaching into a value
are errors that point at the start of their line.
-/

namespace ShapeSearch
namespace Toml

/-- A failure while reading: what it was inside, what was expected, its own cause,
where it happened and whether it ends the reading. -/
structure Failure where
  labels : List String
  expected : List String
  cause : Option String
  offset : Nat
  hard : Bool
  deriving Repr, Inhabited

/-- The message of a failure: the innermost construct, the expected items and the
cause, one per line. -/
def Failure.message (f : Failure) : String :=
  let parts := (match f.labels.head? with | some l => ["invalid " ++ l] | none => []) ++
    (if f.expected.isEmpty then [] else ["expected " ++ ", ".intercalate f.expected]) ++
    (match f.cause with | some c => [c] | none => [])
  "\n".intercalate parts

/-- The number of bytes of the UTF-8 sequence that a lead byte starts. -/
def sequenceLength (b : UInt8) : Nat :=
  if b < 0xC0 then 1 else if b < 0xE0 then 2 else if b < 0xF0 then 3 else 4

/-- The problem a failure reports: the character at its offset, nothing at the end. -/
def Failure.problem (f : Failure) (bytes : ByteArray) : Problem :=
  let stop := if h : f.offset < bytes.size then
      Nat.min bytes.size (f.offset + sequenceLength (bytes.get f.offset h))
    else f.offset
  { message := f.message, span := ⟨f.offset, stop⟩ }

/-- Reading bytes from a position. -/
abbrev Reader := ReaderT ByteArray (StateT Nat (Except Failure))

namespace Reader

/-- The byte at an index, if there is one. -/
def byteAt (s : ByteArray) (i : Nat) : Option UInt8 :=
  if h : i < s.size then some (s.get i h) else none

/-- The byte `k` places ahead. -/
def peekAt (k : Nat) : Reader (Option UInt8) := do
  return byteAt (← read) ((← get) + k)

/-- The next byte. -/
def peek : Reader (Option UInt8) := peekAt 0

/-- Whether the next byte is the given character. -/
def at? (c : Char) : Reader Bool := do
  return (← peek) == some c.toUInt8

/-- Move past `n` bytes. -/
def skip (n : Nat) : Reader Unit :=
  modify (· + n)

/-- Whether the bytes ahead spell a text. -/
def ahead (t : String) : Reader Bool := do
  let s ← read
  let i ← get
  return (t.toUTF8.toList.zipIdx.all fun (b, k) => byteAt s (i + k) == some b)

/-- Fail here. -/
def fail {α : Type} (labels expected : List String) (cause : Option String) (hard : Bool) :
    Reader α := do
  throw { labels, expected, cause, offset := ← get, hard }

/-- Fail here softly, with nothing to say. -/
def miss {α : Type} : Reader α := fail [] [] none false

/-- Name the construct a reader reads, for its failures. -/
def label {α : Type} (l : String) (p : Reader α) : Reader α :=
  tryCatch p fun e => throw { e with labels := e.labels ++ [l] }

/-- Add expected items to a reader's failures. -/
def expect {α : Type} (xs : List String) (p : Reader α) : Reader α :=
  tryCatch p fun e => throw { e with expected := e.expected ++ xs }

/-- Make a reader's failures hard. -/
def cut {α : Type} (p : Reader α) : Reader α :=
  tryCatch p fun e => throw { e with hard := true }

/-- Try a reader; on a soft failure go back and give `none`. -/
def optional {α : Type} (p : Reader α) : Reader (Option α) :=
  tryCatch (some <$> p) fun e => if e.hard then throw e else pure none

/-- The first of two readers that succeeds; a soft failure of both is the second's. -/
def orElse {α : Type} (p q : Reader α) : Reader α :=
  tryCatch p fun e => if e.hard then throw e else q

/-- Take bytes while they satisfy a test; the taken bytes. -/
def takeWhile (test : UInt8 → Bool) : Reader (List UInt8) := do
  let s ← read
  let i ← get
  let taken := ((s.toList.drop i).takeWhile test)
  set (i + taken.length)
  return taken

/-- The text of bytes. -/
def text (bs : List UInt8) : String :=
  String.fromUTF8? ⟨bs.toArray⟩ |>.getD ""

/-- The text of a character as an expected item. -/
def quoted (c : Char) : String :=
  if c == '\n' then "newline" else "`" ++ c.toString ++ "`"

end Reader

open Reader

/-- Space and tab. -/
def isBlank (b : UInt8) : Bool :=
  b == 32 || b == 9

/-- An ASCII digit. -/
def isDigit (b : UInt8) : Bool :=
  48 ≤ b && b ≤ 57

/-- An ASCII hexadecimal digit. -/
def isHexDigit (b : UInt8) : Bool :=
  isDigit b || (65 ≤ b && b ≤ 70) || (97 ≤ b && b ≤ 102)

/-- The bytes of an unquoted key: letters, digits, `-` and `_`. -/
def isKeyByte (b : UInt8) : Bool :=
  isDigit b || (65 ≤ b && b ≤ 90) || (97 ≤ b && b ≤ 122) || b == 45 || b == 95

/-- The bytes a comment may hold. -/
def isCommentByte (b : UInt8) : Bool :=
  b == 9 || (32 ≤ b && b ≤ 126) || 128 ≤ b

/-- The bytes a basic string holds without escaping. -/
def isBasicByte (b : UInt8) : Bool :=
  isBlank b || b == 33 || (35 ≤ b && b ≤ 91) || (93 ≤ b && b ≤ 126) || 128 ≤ b

/-- The bytes a literal string may hold. -/
def isLiteralByte (b : UInt8) : Bool :=
  b == 9 || (32 ≤ b && b ≤ 38) || (40 ≤ b && b ≤ 126) || 128 ≤ b

/-- Skip spaces and tabs. -/
def blanks : Reader Unit := do
  let _ ← takeWhile isBlank

/-- A comment, from `#` to the end of its line. -/
def comment : Reader Unit := do
  if ← at? '#' then
    skip 1
    let _ ← takeWhile isCommentByte
  else miss

/-- A line break: `\n` or `\r\n`. -/
def newline : Reader Unit := do
  if ← at? '\n' then skip 1
  else if (← at? '\r') && (← peekAt 1) == some 10 then skip 2
  else miss

/-- The end of a line: a line break or the end of the document. -/
def lineEnding : Reader Unit := do
  if (← peek).isNone then pure () else newline

/-- What may follow a value or header on its line: blanks, a comment, the line end. -/
def lineTrailing : Reader Unit := do
  blanks
  let _ ← optional comment
  lineEnding

/-- Blanks, comments and line breaks, as many as there are. -/
def blankLines (fuel : Nat) : Reader Unit := do
  match fuel with
  | 0 => pure ()
  | fuel + 1 =>
    let before ← get
    blanks
    let _ ← optional comment
    let _ ← optional newline
    if (← get) != before then blankLines fuel

/-- The character of a hexadecimal escape with `n` digits; too few digits, or a
value that is no character, is an error at the first digit. -/
def hexEscape (n : Nat) : Reader Char := do
  let s ← read
  let i ← get
  let digits := ((s.toList.drop i).take n).takeWhile isHexDigit
  if digits.length == n then
    let value := digits.foldl (fun acc b =>
      acc * 16 + (if isDigit b then b.toNat - 48 else if b ≤ 70 then b.toNat - 55 else b.toNat - 87)) 0
    if value < 0xD800 || (0xDFFF < value && value < 0x110000) then
      skip n
      return Char.ofNat value
    else fail [] [] (some "value is out of range") true
  else fail [] [] none true

/-- An escape sequence after its backslash. -/
def escape : Reader Char := do
  match ← peek with
  | none => miss
  | some b =>
    skip 1
    match Char.ofNat b.toNat with
    | 'b' => return Char.ofNat 8
    | 'f' => return Char.ofNat 12
    | 'n' => return '\n'
    | 'r' => return '\r'
    | 't' => return '\t'
    | 'u' => label "unicode 4-digit hex code" (hexEscape 4)
    | 'U' => label "unicode 8-digit hex code" (hexEscape 8)
    | '\\' => return '\\'
    | '"' => return '"'
    | _ =>
      fail ["escape sequence"]
        (["b", "f", "n", "r", "t", "u", "U", "\\", "\""].map fun c => "`" ++ c ++ "`") none true

/-- The pieces of a basic string up to its closing quote. -/
def basicBody (fuel : Nat) (acc : String) : Reader String := do
  match fuel with
  | 0 => return acc
  | fuel + 1 =>
    let chunk ← takeWhile isBasicByte
    if !chunk.isEmpty then basicBody fuel (acc ++ text chunk)
    else if ← at? '\\' then
      let start ← get
      skip 1
      match ← optional escape with
      | some c => basicBody fuel (acc.push c)
      | none =>
        set start
        return acc
    else return acc

/-- A basic string between double quotes. -/
def basicString : Reader String := do
  skip 1
  let s ← basicBody ((← read).size + 1) ""
  if ← at? '"' then
    skip 1
    return s
  else fail ["basic string"] [] none true

/-- A literal string between single quotes. -/
def literalString : Reader String := label "literal string" do
  skip 1
  let body ← takeWhile isLiteralByte
  if ← at? '\'' then
    skip 1
    return text body
  else fail [] [] none true

/-- The body of a multi-line basic string up to its closing quotes. -/
def multiBasicBody (fuel : Nat) (acc : String) : Reader String := do
  match fuel with
  | 0 => return acc
  | fuel + 1 =>
    if ← ahead "\"\"\"" then
      -- up to two quotes may end the content
      if ← ahead "\"\"\"\"\"" then
        skip 2
        return acc ++ "\"\""
      else if ← ahead "\"\"\"\"" then
        skip 1
        return acc ++ "\""
      else return acc
    else
      match ← peek with
      | none => return acc
      | some b =>
        if b == 34 then
          skip 1
          multiBasicBody fuel (acc.push '"')
        else if b == 92 then
          let start ← get
          skip 1
          -- a backslash at a line end trims the break and the blanks after it
          let _ ← takeWhile isBlank
          if (← optional newline).isSome then
            blankLines fuel
            multiBasicBody fuel acc
          else
            set (start + 1)
            match ← optional escape with
            | some c => multiBasicBody fuel (acc.push c)
            | none =>
              set start
              return acc
        else if (← optional newline).isSome then multiBasicBody fuel (acc.push '\n')
        else
          let chunk ← takeWhile fun c => isBasicByte c
          if chunk.isEmpty then return acc else multiBasicBody fuel (acc ++ text chunk)

/-- A multi-line basic string between triple double quotes. -/
def multiBasicString : Reader String := label "multiline basic string" do
  skip 3
  let _ ← optional newline
  let s ← multiBasicBody ((← read).size + 1) ""
  if ← ahead "\"\"\"" then
    skip 3
    return s
  else fail [] [] none true

/-- The body of a multi-line literal string up to its closing quotes. -/
def multiLiteralBody (fuel : Nat) (acc : String) : Reader String := do
  match fuel with
  | 0 => return acc
  | fuel + 1 =>
    if ← ahead "'''" then
      if ← ahead "'''''" then
        skip 2
        return acc ++ "''"
      else if ← ahead "''''" then
        skip 1
        return acc ++ "'"
      else return acc
    else if (← optional newline).isSome then multiLiteralBody fuel (acc.push '\n')
    else
      let chunk ← takeWhile isLiteralByte
      if !chunk.isEmpty then multiLiteralBody fuel (acc ++ text chunk)
      else if ← at? '\'' then
        skip 1
        multiLiteralBody fuel (acc.push '\'')
      else return acc

/-- A multi-line literal string between triple single quotes. -/
def multiLiteralString : Reader String := label "multiline literal string" do
  skip 3
  let _ ← optional newline
  let s ← multiLiteralBody ((← read).size + 1) ""
  if ← ahead "'''" then
    skip 3
    return s
  else fail [] [] none true

/-- A string of any of the four kinds. -/
def string : Reader String := do
  if ← ahead "\"\"\"" then multiBasicString
  else if ← at? '"' then basicString
  else if ← ahead "'''" then multiLiteralString
  else literalString

/-- A key without quotes. -/
def bareKey : Reader String := do
  let bs ← takeWhile isKeyByte
  if bs.isEmpty then miss else return text bs

/-- One part of a key, with its span. -/
def simpleKey : Reader (String × Span) := do
  let start ← get
  let k ← if ← at? '"' then basicString else if ← at? '\'' then literalString else bareKey
  return (k, ⟨start, ← get⟩)

/-- The rest of a dotted key after its first part. -/
def keyParts (fuel : Nat) : Reader (List (String × Span)) := do
  match fuel with
  | 0 => return []
  | fuel + 1 =>
    let start ← get
    if ← at? '.' then
      skip 1
      blanks
      match ← optional simpleKey with
      | some k =>
        blanks
        return k :: (← keyParts fuel)
      | none =>
        set start
        return []
    else return []

/-- A key of one or more parts separated by dots, blanks allowed around the parts. -/
def key : Reader (List (String × Span)) := label "key" do
  blanks
  let first ← simpleKey
  blanks
  return first :: (← keyParts ((← read).size + 1))

/-- The digits of a decimal integer: a sign, then one digit or a non-zero digit and
more digits, underscores between digits. -/
def decimalDigits : Reader (List UInt8) := label "integer" do
  let sign ← match ← peek with
    | some 43 => skip 1; pure [43]
    | some 45 => skip 1; pure [45]
    | _ => pure []
  match ← peek with
  | some b =>
    if isDigit b then
      skip 1
      if b == 48 then return sign ++ [b]
      let rec more : Nat → Reader (List UInt8)
        | 0 => pure []
        | fuel + 1 => do
          match ← peek with
          | some c =>
            if isDigit c then
              skip 1
              return c :: (← more fuel)
            else if c == 95 then
              skip 1
              match ← peek with
              | some d =>
                if isDigit d then
                  skip 1
                  return d :: (← more fuel)
                else fail [] ["digit"] none true
              | none => fail [] ["digit"] none true
            else return []
          | none => return []
      return sign ++ [b] ++ (← more ((← read).size + 1))
    else miss
  | none => miss

/-- Digits that may start with zero, underscores between them; an underscore must be
followed by a digit. -/
def plainDigits : Reader (List UInt8) := do
  match ← peek with
  | some b =>
    if isDigit b then
      skip 1
      let rec more : Nat → Reader (List UInt8)
        | 0 => pure []
        | fuel + 1 => do
          match ← peek with
          | some c =>
            if isDigit c then
              skip 1
              return c :: (← more fuel)
            else if c == 95 then
              skip 1
              match ← peek with
              | some d =>
                if isDigit d then
                  skip 1
                  return d :: (← more fuel)
                else fail [] ["digit"] none true
              | none => fail [] ["digit"] none true
            else return []
          | none => return []
      return b :: (← more ((← read).size + 1))
    else miss
  | none => miss

/-- The value of decimal digits. -/
def digitsValue (ds : List UInt8) : Nat :=
  ds.foldl (fun acc d => acc * 10 + (d.toNat - 48)) 0

/-- The largest integer a document may hold. -/
def maxInteger : Nat := 9223372036854775807

/-- A decimal integer in range. -/
def decimalInteger : Reader Int := do
  let start ← get
  let ds ← decimalDigits
  let negative := ds.head? == some 45
  let digits := ds.filter isDigit
  let n := digitsValue digits
  if negative && n ≤ maxInteger + 1 then return -(n : Int)
  else if !negative && n ≤ maxInteger then return n
  else
    set start
    fail [] [] (some (if negative then "number too small to fit in target type"
      else "number too large to fit in target type")) true

/-- An integer in a radix after its prefix. -/
def radixInteger (radix : Nat) (isRadixDigit : UInt8 → Bool) (name : String) : Reader Int := do
  let start ← get
  skip 2
  let digitValue (b : UInt8) : Nat :=
    if isDigit b then b.toNat - 48 else if b ≤ 70 then b.toNat - 55 else b.toNat - 87
  let body ← label name do
    match ← peek with
    | some b =>
      if isRadixDigit b then
        let ds ← takeWhile fun c => isRadixDigit c || c == 95
        pure (ds.filter (· != 95))
      else fail [] [] none true
    | none => fail [] [] none true
  let n := body.foldl (fun acc d => acc * radix + digitValue d) 0
  if n ≤ maxInteger then return n
  else
    set start
    fail [] [] (some "number too large to fit in target type") true

/-- An integer of any radix. -/
def integer : Reader Int := do
  if ← ahead "0x" then radixInteger 16 isHexDigit "hexadecimal integer"
  else if ← ahead "0o" then radixInteger 8 (fun b => 48 ≤ b && b ≤ 55) "octal integer"
  else if ← ahead "0b" then radixInteger 2 (fun b => b == 48 || b == 49) "binary integer"
  else decimalInteger

/-- A float with a fraction or an exponent: its sign, digits and power of ten. -/
def decimalFloat : Reader FloatValue := do
  let ds ← decimalDigits
  let negative := ds.head? == some 45
  let intDigits := ds.filter isDigit
  let (fracDigits, hasFrac) ← do
    if ← at? '.' then
      skip 1
      let f ← expect ["digit"] (cut plainDigits)
      pure (f.filter isDigit, true)
    else pure ([], false)
  let exp ← do
    match ← peek with
    | some 101 | some 69 =>
      skip 1
      let sign ← match ← peek with
        | some 43 => skip 1; pure false
        | some 45 => skip 1; pure true
        | _ => pure false
      let e ← cut plainDigits
      let v : Int := digitsValue (e.filter isDigit)
      pure (some (if sign then -v else v))
    | _ => pure none
  if !hasFrac && exp.isNone then miss
  let digits := digitsValue (intDigits ++ fracDigits)
  return .finite negative digits ((exp.getD 0) - fracDigits.length)

/-- `inf` or `nan` with an optional sign. -/
def specialFloat : Reader FloatValue := do
  let negative ← match ← peek with
    | some 43 => skip 1; pure false
    | some 45 => skip 1; pure true
    | _ => pure false
  if ← ahead "inf" then
    skip 3
    return .infinity negative
  else if ← ahead "nan" then
    skip 3
    return .notANumber
  else miss

/-- Whether a float is too large to be finite. -/
def FloatValue.overflows : FloatValue → Bool
  | .finite _ digits exponent => (Binary64.nearest digits exponent).isNone
  | _ => false

/-- A float of either kind. -/
def float : Reader FloatValue := label "floating-point number" do
  let start ← get
  let f ← orElse decimalFloat specialFloat
  if f.overflows then
    set start
    fail [] [] none true
  return f

/-- Exactly `n` digits, as their value. -/
def fixedDigits (n : Nat) : Reader Nat := do
  let s ← read
  let ds := ((s.toList.drop (← get)).take n)
  if ds.length == n && ds.all isDigit then
    skip n
    return ds.foldl (fun acc d => acc * 10 + (d.toNat - 48)) 0
  else miss

/-- Two digits with a value between bounds; a value out of them fails at the digits. -/
def boundedDigits (lo hi : Nat) : Reader Nat := do
  let start ← get
  let v ← fixedDigits 2
  if lo ≤ v && v ≤ hi then return v
  else
    set start
    fail [] [] (some "value is out of range") false

/-- One given character. -/
def char (c : Char) : Reader Unit := do
  if ← at? c then skip 1 else miss

/-- A time of day: hour, minute, second and an optional fraction.  Once the hour and
its colon are read, the rest must follow. -/
def partialTime : Reader Unit := do
  let _ ← boundedDigits 0 23
  char ':'
  cut do
    let _ ← boundedDigits 0 59
    char ':'
    let _ ← boundedDigits 0 60
    let _ ← optional do
      char '.'
      if (← takeWhile isDigit).isEmpty then miss

/-- A calendar date; once the year and its hyphen are read, the rest must follow,
and the day must exist in its month. -/
def fullDate : Reader Unit := do
  let year ← fixedDigits 4
  char '-'
  let month ← cut (boundedDigits 1 12)
  cut (char '-')
  let dayStart ← get
  let day ← cut (boundedDigits 1 31)
  let leap := year % 4 == 0 && (year % 100 != 0 || year % 400 == 0)
  let days := if month == 2 then (if leap then 29 else 28)
    else if month == 4 || month == 6 || month == 9 || month == 11 then 30 else 31
  if days < day then
    set dayStart
    fail [] [] (some "value is out of range") true

/-- The offset of a date-time: `Z`, or a sign, hours and minutes. -/
def timeOffset : Reader Unit := label "time offset" do
  if (← at? 'Z') || (← at? 'z') then skip 1
  else if (← at? '+') || (← at? '-') then
    skip 1
    cut do
      let _ ← boundedDigits 0 23
      char ':'
      let _ ← boundedDigits 0 59
  else miss

/-- The text of a date with an optional time and offset, or of a time alone. -/
def datetimeText : Reader String := do
  let start ← get
  orElse
    (label "date-time" do
      fullDate
      let _ ← optional do
        if (← at? 'T') || (← at? 't') || (← at? ' ') then skip 1 else miss
        partialTime
        let _ ← optional timeOffset)
    (label "time" partialTime)
  let s ← read
  return text ((s.toList.drop start).take ((← get) - start))

/-- Insert a value under a dotted key path into entries. -/
def insertDotted (entries : List (String × Span × Value)) :
    List (String × Span) → Value → Except String (List (String × Span × Value))
  | [], _ => .ok entries
  | [(k, ks)], v =>
    if entries.any (·.1 == k) then .error ("duplicate key `" ++ k ++ "`")
    else .ok (entries ++ [(k, ks, v)])
  | (k, ks) :: rest, v =>
    match entries.find? (·.1 == k) with
    | some (_, _, .table inner .dotted sp) => do
      let inner' ← insertDotted inner rest v
      .ok (entries.map fun e => if e.1 == k then (k, e.2.1, .table inner' .dotted sp) else e)
    | some _ => .error ("duplicate key `" ++ k ++ "`")
    | none => do
      let inner ← insertDotted [] rest v
      .ok (entries ++ [(k, ks, .table inner .dotted ⟨ks.start, ks.stop⟩)])


/-- The entries of an inline table from its pairs; dotted keys make nested tables. -/
def inlineEntries (pairs : List (List (String × Span) × Value)) :
    Except String (List (String × Span × Value)) :=
  pairs.foldlM (fun entries (path, v) => insertDotted entries path v) []


mutual

/-- A value of any kind. -/
def value : Nat → Reader Value
  | 0 => miss
  | fuel + 1 => do
    let start ← get
    let stringExpected := ["`\"`", "`'`"]
    match ← peek with
    | some 34 | some 39 =>
      let s ← string
      return .string s ⟨start, ← get⟩
    | some 91 => array fuel
    | some 123 => inlineTable fuel
    | some 116 =>
      if ← ahead "true" then
        skip 4
        return .boolean true ⟨start, ← get⟩
      else fail ["string"] stringExpected none false
    | some 102 =>
      if ← ahead "false" then
        skip 5
        return .boolean false ⟨start, ← get⟩
      else fail ["string"] stringExpected none false
    | some 105 | some 110 =>
      match ← optional specialFloat with
      | some f => return .float f ⟨start, ← get⟩
      | none => fail ["string"] stringExpected none false
    | some 95 => expect ["leading digit"] do
      let i ← integer
      return .integer i ⟨start, ← get⟩
    | some 46 => expect ["leading digit"] do
      let f ← float
      return .float f ⟨start, ← get⟩
    | some b =>
      if isDigit b || b == 43 || b == 45 then
        match ← optional datetimeText with
        | some t => return .datetime t ⟨start, ← get⟩
        | none =>
          match ← optional float with
          | some f => return .float f ⟨start, ← get⟩
          | none =>
            let i ← integer
            return .integer i ⟨start, ← get⟩
      else fail ["string"] stringExpected none false
    | none => miss

/-- An array between brackets. -/
def array : Nat → Reader Value
  | 0 => miss
  | fuel + 1 => do
    let start ← get
    skip 1
    let items ← cut (arrayItems fuel)
    blankLines ((← read).size + 1)
    if ← at? ']' then
      skip 1
      return .array items ⟨start, ← get⟩
    else fail ["array"] ["`]`"] none true

/-- The items of an array, commas between them and an optional comma after. -/
def arrayItems : Nat → Reader (List Value)
  | 0 => pure []
  | fuel + 1 => do
    let before ← get
    blankLines ((← read).size + 1)
    match ← optional (value fuel) with
    | none =>
      set before
      return []
    | some v =>
      blankLines ((← read).size + 1)
      if ← at? ',' then
        skip 1
        let rest ← arrayItems fuel
        return v :: rest
      else return [v]

/-- An inline table between braces. -/
def inlineTable : Nat → Reader Value
  | 0 => miss
  | fuel + 1 => do
    let start ← get
    skip 1
    let pairs ← cut (inlinePairs fuel)
    let entries ← match inlineEntries pairs with
      | .ok es => pure es
      | .error m =>
        set (start + 1)
        fail [] [] (some m) true
    blanks
    if ← at? '}' then
      skip 1
      return .table entries .inline ⟨start, ← get⟩
    else fail ["inline table"] ["`\x7d`"] none true

/-- The key-value pairs of an inline table, commas between them; a comma not
followed by a pair is left unread. -/
def inlinePairs : Nat → Reader (List (List (String × Span) × Value))
  | 0 => pure []
  | fuel + 1 => do
    match ← optional key with
    | none => return []
    | some k =>
      let v ← cut do
        expect ["`.`", "`=`"] (if ← at? '=' then skip 1 else miss)
        blanks
        let v ← value fuel
        blanks
        pure v
      let comma ← get
      if ← at? ',' then
        skip 1
        let rest ← inlinePairs fuel
        if rest.isEmpty then set comma
        return (k, v) :: rest
      else return [(k, v)]

end

end Toml
end ShapeSearch
