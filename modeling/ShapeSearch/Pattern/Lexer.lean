import ShapeSearch.Pattern.Error

/-!
# Splitting pattern text into tokens

`Pattern.tokenize` reads pattern text left to right.  Blanks (ASCII white space)
and comments (from `;` to the end of the line) are skipped.  A token is then
one of:

* `(` or `)`;
* a maximal word of ASCII letters, digits and `_`, which is a field name when a
  `:` follows directly, the wildcard when it is `_`, and a node kind otherwise;
* `@`, `!` or `#` followed by a non-empty maximal name (captures also allow `.`
  and `-`, predicates `-` and `?`);
* a double-quoted string whose escapes are `\n`, `\t`, `\r`, `\"` and `\\`.

Anything else is an error at the offset where it starts: an empty name after a
sigil, a bad escape (at its backslash), a string without its closing quote (at
the opening quote), or an unexpected character.

Each round consumes at least one character, which is what the recursion is
measured by.
-/

namespace ShapeSearch
namespace Pattern

/-- The bytes that a list of characters takes in UTF-8. -/
def byteLength : List Char → Nat
  | [] => 0
  | c :: cs => c.utf8Size + byteLength cs

/-- The character an escape letter stands for. -/
def escapeChar : Char → Option Char
  | 'n' => some '\n'
  | 't' => some '\t'
  | 'r' => some '\r'
  | '"' => some '"'
  | '\\' => some '\\'
  | _ => none

/-- A lexing failure: what went wrong, and the byte offset it points at. -/
abbrev LexError := SyntaxProblem × Nat

theorem length_dropWhile_lt (p : Char → Bool) (cs : List Char) :
    (cs.dropWhile p).length < cs.length + 1 :=
  Nat.lt_succ_of_le (List.dropWhile_suffix (l := cs) p).length_le

/-- Read the rest of a string after its opening quote (at `start`); `o` is the current
offset and `acc` the characters read so far, last first.  Gives the string, the text
after the closing quote and the offset there. -/
def readText (start : Nat) :
    (cs : List Char) → Nat → List Char →
      Except LexError (String × { r : List Char // r.length ≤ cs.length } × Nat)
  | [], _, _ => .error (.unterminatedString, start)
  | c :: rest, o, acc =>
    if c == '"' then .ok (String.ofList acc.reverse, ⟨rest, by simp⟩, o + 1)
    else if c == '\\' then
      match rest with
      | e :: more =>
        match escapeChar e with
        | some x =>
          (readText start more (o + 2) (x :: acc)).map fun (s, r, o') =>
            (s, ⟨r.1, by have := r.2; simp only [List.length_cons]; omega⟩, o')
        | none => .error (.invalidEscape, o)
      | [] => .error (.invalidEscape, o)
    else
      (readText start rest (o + c.utf8Size) (c :: acc)).map fun (s, r, o') =>
        (s, ⟨r.1, by have := r.2; simp only [List.length_cons]; omega⟩, o')

/-- The token a word starts, by what follows it. -/
def wordToken (word : String) (followedByColon : Bool) : Token :=
  if followedByColon then .field word
  else if word == "_" then .wildcard
  else .kind word

/-- Tokenize the rest of the text from offset `o`, after the lexemes in `acc`. -/
def lexFrom (cs : List Char) (o : Nat) (acc : Array Lexeme) : Except LexError (Array Lexeme) :=
  match cs with
  | [] => .ok acc
  | c :: rest =>
    if isBlank c then lexFrom rest (o + 1) acc
    else if c == ';' then
      let comment := rest.takeWhile (· != '\n')
      have := length_dropWhile_lt (· != '\n') rest
      lexFrom (rest.dropWhile (· != '\n')) (o + 1 + byteLength comment) acc
    else if c == '(' then lexFrom rest (o + 1) (acc.push ⟨.openParen, o⟩)
    else if c == ')' then lexFrom rest (o + 1) (acc.push ⟨.closeParen, o⟩)
    else if c == '"' then
      match readText o rest (o + 1) [] with
      | .error e => .error e
      | .ok (s, r, o') =>
        have : r.1.length < rest.length + 1 := Nat.lt_succ_of_le r.2
        lexFrom r.1 o' (acc.push ⟨.text s, o⟩)
    else if c == '@' || c == '!' || c == '#' then
      let (kind, allowed) : NameKind × (Char → Bool) :=
        if c == '@' then (.capture, isCaptureChar)
        else if c == '!' then (.field, isNameChar)
        else (.predicate, isPredicateChar)
      let name := rest.takeWhile allowed
      if name.isEmpty then .error (.missingName kind, o)
      else
        let token : Token :=
          if c == '@' then .capture (String.ofList name)
          else if c == '!' then .absentField (String.ofList name)
          else .predicate (String.ofList name)
        have := length_dropWhile_lt allowed rest
        lexFrom (rest.dropWhile allowed) (o + 1 + name.length) (acc.push ⟨token, o⟩)
    else if isNameChar c then
      let word := rest.takeWhile isNameChar
      let o' := o + 1 + word.length
      have hlt := length_dropWhile_lt isNameChar rest
      match hm : rest.dropWhile isNameChar with
      | ':' :: more =>
        have : more.length < rest.length + 1 := by
          rw [hm] at hlt; simp only [List.length_cons] at hlt; omega
        lexFrom more (o' + 1) (acc.push ⟨wordToken (String.ofList (c :: word)) true, o⟩)
      | after =>
        have : after.length < rest.length + 1 := by rw [hm] at hlt; exact hlt
        lexFrom after o' (acc.push ⟨wordToken (String.ofList (c :: word)) false, o⟩)
    else .error (.unexpectedCharacter c, o)
termination_by cs.length
decreasing_by
  all_goals
    simp only [List.length_cons]
    omega

/-- The lexemes of pattern text, or the first lexing failure. -/
def tokenize (text : String) : Except LexError (Array Lexeme) :=
  lexFrom text.toList 0 #[]

end Pattern
end ShapeSearch
