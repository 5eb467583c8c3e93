/-!
# Places in pattern text

A compile error points into the pattern text it came from.  The place is
kept three ways: the byte offset, the 1-based line, and the 1-based column
counted in characters rather than bytes.

An offset past the end is first clamped to the text length.  The line is one
more than the number of newline bytes before the offset; the column is one
more than the number of UTF-8 lead bytes (bytes that are not continuation
bytes) between the start of that line and the offset.  Both are computed by a
single left fold over the bytes before the offset (`Position.ofBytes`), so a
newline resets the column and every character after it counts once.
-/

namespace ShapeSearch

/-- A place in pattern text: byte offset, 1-based line, 1-based column in characters. -/
structure Position where
  offset : Nat
  line : Nat
  column : Nat
  deriving Repr, DecidableEq, Inhabited

namespace Position

/-- A byte that begins a UTF-8 character, that is, one that is not a continuation byte. -/
def isLeadByte (b : UInt8) : Bool :=
  b &&& 0xC0 != 0x80

/-- Line and column after one more byte: a newline opens the next line at column 1,
a lead byte moves one column on, a continuation byte changes nothing. -/
def advance (lc : Nat × Nat) (b : UInt8) : Nat × Nat :=
  if b == 10 then (lc.1 + 1, 1)
  else if isLeadByte b then (lc.1, lc.2 + 1)
  else lc

/-- The place of a byte offset in a text given by its bytes; the offset is clamped
to the length first. -/
def ofBytes (bytes : List UInt8) (offset : Nat) : Position :=
  let o := min offset bytes.length
  let lc := (bytes.take o).foldl advance (1, 1)
  { offset := o, line := lc.1, column := lc.2 }

/-- The place of a byte offset in a text. -/
def ofText (text : String) (offset : Nat) : Position :=
  ofBytes text.toUTF8.toList offset

/-- The `line:column` form used in messages. -/
def render (p : Position) : String :=
  toString p.line ++ ":" ++ toString p.column

@[simp] theorem ofBytes_offset (bytes : List UInt8) (offset : Nat) :
    (ofBytes bytes offset).offset = min offset bytes.length := rfl

end Position

end ShapeSearch
