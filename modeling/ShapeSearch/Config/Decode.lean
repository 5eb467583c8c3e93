import ShapeSearch.Config.Basic
import ShapeSearch.Toml.Document
import ShapeSearch.Text.Escaped

/-!
# Reading settings from TOML

The document's keys are read in order, and the first key that is not a setting,
or holds a value of the wrong kind, is the error, pointing at the key or the
value.  The messages say what was found and what was expected: `invalid type:
string "many", expected usize`, `invalid value: integer `-1`, expected usize`,
`unknown field ...`, `unknown variant ...`.
-/

namespace ShapeSearch
namespace Config

open Toml

/-- How a found value is named in a type error. -/
def unexpected : Value → String
  | .string s _ => "string " ++ quoteEscaped s
  | .integer i _ => "integer `" ++ toString i ++ "`"
  | .float f _ => "floating point `" ++ f.display ++ "`"
  | .boolean b _ => "boolean `" ++ (if b then "true" else "false") ++ "`"
  | .datetime .. => "map"
  | .array .. => "sequence"
  | .table .. => "map"
  | .tables .. => "sequence"

/-- A type error at a value. -/
def typeError {α : Type} (v : Value) (what : String) : Except Problem α :=
  .error { message := "invalid type: " ++ unexpected v ++ ", expected " ++ what, span := v.span }

/-- A string. -/
def readString (v : Value) : Except Problem String :=
  match v with
  | .string s _ => .ok s
  | _ => typeError v "a string"

/-- A boolean. -/
def readBool (v : Value) : Except Problem Bool :=
  match v with
  | .boolean b _ => .ok b
  | _ => typeError v "a boolean"

/-- A count, named `usize` or `u64` in errors. -/
def readCount (name : String) (v : Value) : Except Problem Nat :=
  match v with
  | .integer i sp =>
    if i < 0 then
      .error { message := "invalid value: integer `" ++ toString i ++ "`, expected " ++ name, span := sp }
    else .ok i.toNat
  | _ => typeError v name

/-- A list of strings. -/
def readStrings (v : Value) : Except Problem (List String) :=
  match v with
  | .array items _ => items.mapM readString
  | .tables items _ => items.mapM readString
  | _ => typeError v "a sequence"

/-- The name of a plain value's kind. -/
def kindName : Value → String
  | .string .. => "string"
  | .integer .. => "integer"
  | .float .. => "float"
  | .boolean .. => "boolean"
  | .datetime .. => "datetime"
  | .array .. => "array"
  | .table _ .inline _ => "inline table"
  | .table .. => "table"
  | .tables .. => "array of tables"

/-- The value under a variant named as the one key of a table: a variant without
data takes only an empty array or table. -/
def unitVariant (v : Value) : Except Problem Unit :=
  match v with
  | .array [] _ | .tables [] _ | .table [] _ _ => .ok ()
  | .array _ sp | .tables _ sp => .error { message := "expected empty array", span := sp }
  | .table _ _ sp => .error { message := "expected empty table", span := sp }
  | _ => .error { message := "expected table, found " ++ kindName v, span := v.span }

/-- A report format. -/
def readFormat (v : Value) : Except Problem OutputFormat :=
  match v with
  | .string "text" _ => .ok .text
  | .string "json" _ => .ok .json
  | .string s sp =>
    .error { message := "unknown variant `" ++ s ++ "`, expected `text` or `json`", span := sp }
  | .table [] _ sp => .error { message := "wanted exactly 1 element, found 0 elements", span := sp }
  | .table [(k, ks, inner)] _ _ =>
    match k with
    | "text" => unitVariant inner *> .ok .text
    | "json" => unitVariant inner *> .ok .json
    | _ => .error { message := "unknown variant `" ++ k ++ "`, expected `text` or `json`", span := ks }
  | .table _ _ sp => .error { message := "wanted exactly 1 element, more than 1 element", span := sp }
  | _ => .error { message := "wanted string or table", span := v.span }

/-- Set one setting from a key and its value. -/
def setField (c : Config) (k : String) (ks : Toml.Span) (v : Value) : Except Problem Config :=
  match k with
  | "pattern" => return { c with pattern := some (← readString v) }
  | "language" => return { c with language := some (← readString v) }
  | "exclude" => return { c with exclude := ← readStrings v }
  | "extensions" => return { c with extensions := ← readStrings v }
  | "follow_links" => return { c with followLinks := some (← readBool v) }
  | "max_depth" => return { c with maxDepth := some (← readCount "usize" v) }
  | "threads" => return { c with threads := some (← readCount "usize" v) }
  | "queue_capacity" => return { c with queueCapacity := some (← readCount "usize" v) }
  | "parse_timeout_ms" => return { c with parseTimeoutMs := some (← readCount "u64" v).toUInt64 }
  | "non_overlapping" => return { c with nonOverlapping := some (← readBool v) }
  | "format" => return { c with format := some (← readFormat v) }
  | _ =>
    .error { message := "unknown field `" ++ k ++ "`, expected one of " ++
      ", ".intercalate (fieldNames.map fun f => "`" ++ f ++ "`"), span := ks }

/-- The settings of a document's table. -/
def ofEntries (entries : Entries) : Except Problem Config :=
  entries.foldlM (fun c (k, ks, v) => setField c k ks v) empty

/-- Read settings from TOML text; an error is reported against the text. -/
def ofToml (bytes : ByteArray) : Except String Config :=
  match Toml.parse bytes >>= ofEntries with
  | .ok c => .ok c
  | .error p => .error (p.report bytes)

end Config
end ShapeSearch
