/-!
# Writing TOML strings

A string is written in the first of these forms that can hold it as it is:

1. a basic string without escapes (`"..."`): no backslash, double quote, line
   break or control character;
2. a literal string (`'...'`): no single quote, line break or control character;
3. a multi-line basic string without escapes (`"""..."""`): no backslash or
   control character, and at most two double quotes in a row;
4. a multi-line literal string (`'''...'''`): no control character, and at most
   two single quotes in a row.

A string that fits none of them is a basic string with escapes, multi-line when
it holds a line break.  Tabs never count against a form.  A multi-line string
that holds a line break starts with one, which reading drops.

In a basic string the backslash, the control characters and `DEL` are escaped,
and a double quote is escaped when it would end the string: always on one line,
from the third in a row on several lines.
-/

namespace ShapeSearch
namespace Toml

/-- What decides the form of a string. -/
structure StringShape where
  maxSingles : Nat
  maxDoubles : Nat
  controls : Bool
  backslash : Bool
  newline : Bool
  deriving Repr, DecidableEq, Inhabited

/-- A control character other than the tab and the line feed, or `DEL`. -/
def isControl (c : Char) : Bool :=
  (c.toNat ≤ 0x1f && c != '\t' && c != '\n') || c.toNat == 0x7f

/-- The shape of a string.  A run of quotes of one kind is broken by any character
other than a quote. -/
def StringShape.of (value : String) : StringShape :=
  let step (st : StringShape × Nat × Nat) (c : Char) : StringShape × Nat × Nat :=
    let (sh, singles, doubles) := st
    if c == '\'' then (sh, singles + 1, doubles)
    else if c == '"' then (sh, singles, doubles + 1)
    else
      let sh := { sh with maxSingles := max sh.maxSingles singles, maxDoubles := max sh.maxDoubles doubles }
      let sh := if c == '\\' then { sh with backslash := true }
        else if c == '\n' then { sh with newline := true }
        else if isControl c then { sh with controls := true }
        else sh
      (sh, 0, 0)
  let init : StringShape := ⟨0, 0, false, false, false⟩
  let (sh, singles, doubles) := value.toList.foldl step (init, 0, 0)
  { sh with maxSingles := max sh.maxSingles singles, maxDoubles := max sh.maxDoubles doubles }

/-- The forms a string can be written in. -/
inductive StringForm where
  | basic
  | literal
  | multiBasic
  | multiLiteral
  deriving Repr, DecidableEq, Inhabited

/-- The form a string is written in. -/
def StringShape.form (sh : StringShape) : StringForm :=
  if !sh.controls && !sh.backslash && sh.maxDoubles == 0 && !sh.newline then .basic
  else if !sh.controls && sh.maxSingles == 0 && !sh.newline then .literal
  else if !sh.controls && !sh.backslash && sh.maxDoubles ≤ 2 then .multiBasic
  else if !sh.controls && sh.maxSingles ≤ 2 then .multiLiteral
  else if sh.newline then .multiBasic
  else .basic

/-- A hexadecimal number with at least four upper-case digits. -/
def hex4 (n : Nat) : String :=
  let ds := Nat.toDigits 16 n |>.map Char.toUpper
  String.ofList (List.replicate (4 - min 4 ds.length) '0' ++ ds)

/-- The escaped form of a character other than a double quote in a basic string,
on one line or on several. -/
def basicEscape (multi : Bool) (c : Char) : String :=
  match c with
  | '\t' => "\\t"
  | '\n' => if multi then "\n" else "\\n"
  | '\r' => "\\r"
  | '\\' => "\\\\"
  | c =>
    if c.toNat == 8 then "\\b"
    else if c.toNat == 12 then "\\f"
    else if isControl c then "\\u" ++ hex4 c.toNat
    else c.toString

/-- The body of a basic string: a double quote is escaped once the run it ends is
longer than `allowed`. -/
def escapedBody (allowed : Nat) (value : String) : String :=
  let step (st : String × Nat) (c : Char) : String × Nat :=
    if c == '"' then
      if st.2 + 1 > allowed then (st.1 ++ "\\\"", 0) else (st.1 ++ "\"", st.2 + 1)
    else (st.1 ++ basicEscape (allowed > 0) c, 0)
  (value.toList.foldl step ("", 0)).1

/-- The TOML text of a string. -/
def stringText (value : String) : String :=
  let sh := StringShape.of value
  let lead := if sh.newline then "\n" else ""
  match sh.form with
  | .basic => "\"" ++ escapedBody 0 value ++ "\""
  | .literal => "'" ++ value ++ "'"
  | .multiBasic => "\"\"\"" ++ lead ++ escapedBody 2 value ++ "\"\"\""
  | .multiLiteral => "'''" ++ lead ++ value ++ "'''"

/-- The TOML text of an array of strings: inline with up to one item, otherwise one
item per line, indented, with a comma after each. -/
def stringsText (items : List String) : String :=
  match items with
  | [] => "[]"
  | [x] => "[" ++ stringText x ++ "]"
  | xs => "[" ++ String.join (xs.map fun x => "\n    " ++ stringText x ++ ",") ++ "\n]"

end Toml
end ShapeSearch
