import ShapeSearch.Text.Binary64

/-!
# TOML values

A TOML document is a table of keys and values.  Every value and every key
remembers the byte span of its text, so that an error about it can point at it.
Tables remember how they came to be: from a `[header]`, implicitly as the parent
of a header, or from a dotted key; the reader uses this to tell a table that is
defined twice from one that is only extended.

A float keeps its decimal digits and exponent as written; reports show the
binary64 number they round to.

An error is a message with the byte span it points at; its report shows the line
and column, the line itself and a row of carets under the span.
-/

namespace ShapeSearch
namespace Toml

/-- A byte range of the document. -/
structure Span where
  start : Nat
  stop : Nat
  deriving Repr, DecidableEq, Inhabited

/-- How a table was made. -/
inductive Origin where
  /-- By a `[header]`. -/
  | explicit
  /-- As the parent of a header. -/
  | implicit
  /-- By a dotted key. -/
  | dotted
  /-- Written inline as a value, between braces. -/
  | inline
  deriving Repr, DecidableEq, Inhabited

/-- A decimal number as written: sign, digits and the power of ten they are scaled by;
or one of the special values. -/
inductive FloatValue where
  | finite (negative : Bool) (digits : Nat) (exponent : Int)
  | infinity (negative : Bool)
  | notANumber
  deriving Repr, DecidableEq, Inhabited

/-- The text of a float as reports show it: the shortest decimal that reads back as
the same binary64 number, written without an exponent, with `.0` after a whole
number. -/
def FloatValue.display : FloatValue → String
  | .finite negative digits exponent =>
    let body := match Binary64.nearest digits exponent with
      | some (m, q) =>
        let (d, e) := Binary64.shortest m q
        let t := Binary64.positional d e
        if t.contains '.' then t else t ++ ".0"
      | none => "inf"
    (if negative then "-" else "") ++ body
  | .infinity negative => if negative then "-inf" else "inf"
  | .notANumber => "NaN"

/-- A value of a document. -/
inductive Value where
  | string (s : String) (span : Span)
  | integer (i : Int) (span : Span)
  | float (f : FloatValue) (span : Span)
  | boolean (b : Bool) (span : Span)
  | datetime (text : String) (span : Span)
  | array (items : List Value) (span : Span)
  | table (entries : List (String × Span × Value)) (origin : Origin) (span : Span)
  | tables (items : List Value) (span : Span)
  deriving Repr, Inhabited

namespace Value

/-- The span of a value. -/
def span : Value → Span
  | .string _ s | .integer _ s | .float _ s | .boolean _ s | .datetime _ s | .array _ s
  | .table _ _ s | .tables _ s => s

/-- The name of a value's kind, as errors say it. -/
def kindName : Value → String
  | .string .. => "string"
  | .integer .. => "integer"
  | .float .. => "float"
  | .boolean .. => "boolean"
  | .datetime .. => "datetime"
  | .array .. => "array"
  | .table _ .inline _ => "inline table"
  | .table .. => "table"
  | .tables .. => "array of tables"

end Value

/-- A reading or decoding error: its message and the span it points at. -/
structure Problem where
  message : String
  span : Span
  deriving Repr, DecidableEq, Inhabited

/-- The line (from 0) and column (from 0, in characters) of a byte offset; an offset
in the middle of a character counts bytes instead, and an offset past the end
counts on from the last byte. -/
def position (bytes : ByteArray) (index : Nat) : Nat × Nat :=
  if bytes.size == 0 then (0, index)
  else
    let safe := min index (bytes.size - 1)
    let beyond := index - safe
    let before := (bytes.toList.take safe)
    let lineStart := match (before.reverse.findIdx? (· == 10)) with
      | some k => safe - k
      | none => 0
    let line := (before.take lineStart).count 10
    let piece := (bytes.toList.drop lineStart).take (safe + 1 - lineStart)
    let column := match String.fromUTF8? ⟨piece.toArray⟩ with
      | some s => s.length - 1
      | none => safe - lineStart
    (line, column + beyond)

/-- The report of a problem in a document: where it is, the line with carets under
the span, and the message. -/
def Problem.report (p : Problem) (bytes : ByteArray) : String :=
  let (line, column) := position bytes p.span.start
  let lineNum := line + 1
  let gutter := (toString lineNum).length
  let text := String.fromUTF8? bytes |>.getD ""
  let content := (text.splitOn "\n").getD line ""
  let highlight := min (p.span.stop - p.span.start) (content.utf8ByteSize - column)
  let pad := String.ofList (List.replicate (gutter + 1) ' ')
  "TOML parse error at line " ++ toString lineNum ++ ", column " ++ toString (column + 1) ++ "\n" ++
    pad ++ "|\n" ++
    toString lineNum ++ " | " ++ content ++ "\n" ++
    pad ++ "|" ++ String.ofList (List.replicate (column + 1) ' ') ++ "^" ++
    String.ofList (List.replicate (highlight - 1) '^') ++ "\n" ++
    p.message ++ "\n"

end Toml
end ShapeSearch
