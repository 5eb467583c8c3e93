import ShapeSearch.Grammar.Python.Lexer
import ShapeSearch.Syntax.Parser

/-!
# The grammar of Python

A recursive-descent parser for Python that builds the concrete trees the searcher
matches against.

Logical lines end at a line break outside brackets; inside brackets the lexer
passes over line breaks and the parser never asks for one.  A block holds the
statements that start on lines indented at least as deep as its first statement;
it ends before the first line indented less.  A block's span runs to the end of
the comments that still belong to it: the comment on the line of its last
statement and the comment lines after it that are indented as deep as the block.

Binary operators are parsed by precedence climbing over the grammar's levels, from
the loosest: `|`, `&`, `^`, shifts, additive, multiplicative, unary operators and
`**`, which groups to the right.  Boolean operators and comparisons are looser
still, and comparisons chain into one node.

Every step takes a fuel argument that bounds the depth of the recursion.
-/

namespace ShapeSearch
namespace Python

open Syntax Parser

/-- Parsing steps of Python. -/
abbrev P := Parser Unit

/-- Words that are never identifiers. -/
def keywords : List String :=
  ["False", "None", "True", "and", "as", "assert", "async", "await", "break", "class", "continue",
   "def", "del", "elif", "else", "except", "finally", "for", "from", "global", "if", "import", "in",
   "is", "lambda", "nonlocal", "not", "or", "pass", "raise", "return", "try", "while", "with",
   "yield"]

/-- The keywords that start expressions of their own. -/
def expressionKeywords : List String :=
  ["not", "lambda", "await", "yield"]

/-- The binary operators with their levels; higher levels bind tighter. -/
def binaryLevel : String → Option Nat
  | "|" => some 14
  | "&" => some 15
  | "^" => some 16
  | "<<" | ">>" => some 17
  | "+" | "-" => some 18
  | "*" | "@" | "/" | "%" | "//" => some 19
  | "**" => some 21
  | _ => none

/-- The comparison operators written as one token. -/
def comparisonOperators : List String :=
  ["<", "<=", "==", "!=", ">=", ">", "<>"]

/-- The compound assignment operators. -/
def augmentedOperators : List String :=
  ["+=", "-=", "*=", "/=", "@=", "//=", "%=", "**=", ">>=", "<<=", "&=", "^=", "|="]

/-- Whether a line break that ends a logical line stands before the next token. -/
def newlineAhead : P Bool := do
  let c ← get
  return lineBreakBetween (← source) c.lastEnd (← nextIndex)

/-- Whether the logical line ends here: a line break or the end of the source is next. -/
def lineEnds : P Bool := do
  return (← atEof) || (← newlineAhead)

/-- The indentation of the line the next token starts. -/
def nextIndent : P Nat := do
  return indentOf (← source) (← nextIndex)

/-- Whether the next token is a word that may be an identifier. -/
def atName : P Bool := do
  let l ← peek
  if l.kind == .word then return !keywords.contains (← lexText l) else return false

/-- Whether `print` at the start of a statement begins a print statement: the token
after it, on the same line, starts an expression but cannot go on from `print` read
as a name, or it is `>>`. -/
def printAhead (l : Lexeme) : P Bool := do
  let l2 ← peekAfter l
  if lineBreakBetween (← source) l.stop l2.start then return false
  match l2.kind with
  | .punct p => return [">>", "\x7b", "~", "..."].contains p
  | .quote _ | .number | .special _ => return true
  | .word =>
    let w ← lexText l2
    if w == "not" then return !(← wordIs (← peekAfter l2) "in")
    else return !(["if", "else", "in", "is", "and", "or", "for", "as"].contains w)
  | _ => return false

/-- Whether `exec` at the start of a statement begins an exec statement: a string or a
name follows on the same line. -/
def execAhead (l : Lexeme) : P Bool := do
  let l2 ← peekAfter l
  if lineBreakBetween (← source) l.stop l2.start then return false
  match l2.kind with
  | .quote _ => return true
  | .word => return !keywords.contains (← lexText l2)
  | _ => return false

/-- Whether the expression read so far may go on with the next token: it is inside
brackets, or no line break ends the logical line before the token. -/
def continues : P Bool := do
  return (← get).depth > 0 || !(← newlineAhead)

/-- The end of the comments a block ending after `lastEnd` keeps: the comment on the same
line, then the comment lines indented at least `indent`. -/
def blockEnd (s : Source) (lastEnd indent : Nat) : Nat :=
  let afterLine (i : Nat) : Nat :=
    let j := s.skipWhile isBlank i
    if s.get j == '#' then s.skipWhile (fun c => c != '\n') j else i
  let first := afterLine lastEnd
  let rec follow (i : Nat) (fuel : Nat) : Nat :=
    match fuel with
    | 0 => i
    | fuel + 1 =>
      let j := s.skipWhile (fun c => isBlank c || c == '\n') i
      if s.get j == '#' && indentOf s j ≥ indent then follow (s.skipWhile (fun c => c != '\n') j) fuel
      else i
  follow first (s.length + 1)

/-- The kind a word has as a leaf: literals and identifiers are named, keywords are not. -/
def wordLeaf (w : String) : String × Bool :=
  match w with
  | "True" => ("true", true)
  | "False" => ("false", true)
  | "None" => ("none", true)
  | _ => if keywords.contains w then (w, false) else ("identifier", true)

/-- What a quoted string's opening says about it. -/
structure StringShape where
  quote : Char
  triple : Bool
  raw : Bool
  bytes : Bool
  format : Bool

/-- Read a string's shape from its opening text. -/
def StringShape.ofOpening (t : String) (q : Char) : StringShape :=
  let pre := t.toList.filter fun c => c != '"' && c != '\''
  { quote := q, triple := t.endsWith (String.ofList [q, q, q]),
    raw := pre.any (fun c => c == 'r' || c == 'R'), bytes := pre.any (fun c => c == 'b' || c == 'B'),
    format := pre.any (fun c => c == 'f' || c == 'F') }

/-- The end of an escape sequence at a backslash, if one is there. -/
def escapeEnd (s : Source) (sh : StringShape) (i : Nat) : Option Nat :=
  let c := s.get (i + 1)
  let hexRun (start count : Nat) : Option Nat :=
    if (List.range count).all fun k => isHexDigit (s.get (start + k)) then some (start + count) else none
  if c == 'u' && !sh.bytes then hexRun (i + 2) 4
  else if c == 'U' && !sh.bytes then hexRun (i + 2) 8
  else if c == 'x' then hexRun (i + 2) 2
  else if c.isDigit then
    let j := if (s.get (i + 2)).isDigit then (if (s.get (i + 3)).isDigit then i + 4 else i + 3) else i + 2
    some j
  else if c == '\n' then some (i + 2)
  else if c == '\r' then if s.get (i + 2) == '\n' then some (i + 3) else none
  else if "'\"abfrntv\\".contains c then some (i + 2)
  else if c == 'N' && !sh.bytes && s.get (i + 2) == '\x7b' then
    let j := s.skipWhile (fun d => d != '\x7d') (i + 3)
    if s.get j == '\x7d' && j > i + 3 then some (j + 1) else none
  else none

/-- The end of a run of plain string characters from `i`. -/
def contentEnd (s : Source) (sh : StringShape) (i : Nat) : Nat :=
  s.skipWhile (fun c => c != sh.quote && c != '\\' && !(sh.format && (c == '\x7b' || c == '\x7d')) &&
    !(c == '\n' && !sh.triple)) i

/-- A piece of a string's content. -/
inductive Piece where
  | hidden (start stop : Nat)
  | shown (c : Cst)

/-- The start of a piece. -/
def Piece.start : Piece → Nat
  | .hidden a _ => a
  | .shown c => c.start

/-- The end of a piece. -/
def Piece.stop : Piece → Nat
  | .hidden _ b => b
  | .shown c => c.stop

/-- A string content node over pieces: it spans them and holds the shown ones. -/
def contentNode (pieces : List Piece) : List Child :=
  match pieces.head?, pieces.getLast? with
  | some first, some last =>
    [plain (.node "string_content" true first.start last.stop
      (pieces.filterMap fun p => match p with | .shown c => some (plain c) | .hidden .. => none))]
  | _, _ => []

/-- Turn an expression into the pattern it stands for as an assignment target. -/
def toPattern : Nat → Cst → Cst
  | 0, c => c
  | fuel + 1, c =>
    let conv := fun (fc : Child) => (fc.1, toPattern fuel fc.2)
    match c with
    | .node "tuple" true s e cs => .node "tuple_pattern" true s e (cs.map conv)
    | .node "list" true s e cs => .node "list_pattern" true s e (cs.map conv)
    | .node "list_splat" true s e cs => .node "list_splat_pattern" true s e (cs.map conv)
    | .node "expression_list" true s e cs => .node "pattern_list" true s e (cs.map conv)
    | .node "parenthesized_expression" true s e cs => .node "parenthesized_expression" true s e cs
    | other => other

mutual

-- ## Expressions

/-- An expression: a lambda, a conditional expression, a named expression, or a boolean
expression. -/
def expression : Nat → P Cst
  | 0 => failure
  | n + 1 => do
    if ← atWord "lambda" then lambda n true
    else
      let e ← disjunction n
      if !(← continues) then return e
      else if (← atWord "if") then
        match ← attempt (do
            let i ← keyword "if"
            let c ← disjunction n
            let el ← keyword "else"
            let alt ← expression n
            node "conditional_expression" [plain e, plain i, plain c, plain el, plain alt]) with
        | some c => return c
        | none => return e
      else if (← atPunct ":=") && e.kind == "identifier" then
        let w ← punct ":="
        let v ← expression n
        node "named_expression" [fld "name" e, plain w, fld "value" v]
      else return e

/-- `lambda`, its parameters, `:` and its body. -/
def lambda : Nat → Bool → P Cst
  | 0, _ => failure
  | n + 1, full => do
    let kw ← keyword "lambda"
    let ps ← if ← atPunct ":" then pure [] else
        let items ← parameterItems n ":" false
        pure [fld "parameters" (← node "lambda_parameters" items)]
    let colon ← punct ":"
    let body ← if full then expression n else disjunction n
    node "lambda" ([plain kw] ++ ps ++ [plain colon, fld "body" body])

/-- Conjunctions joined by `or`. -/
def disjunction : Nat → P Cst
  | 0 => failure
  | n + 1 => do
    let left ← conjunction n
    disjunctionTail n left

/-- The `or` parts after a first operand. -/
def disjunctionTail : Nat → Cst → P Cst
  | 0, _ => failure
  | n + 1, left => do
    if (← continues) && (← atWord "or") then
      let o ← keyword "or"
      let right ← conjunction n
      let e ← node "boolean_operator" [fld "left" left, fld "operator" o, fld "right" right]
      disjunctionTail n e
    else return left

/-- Inversions joined by `and`. -/
def conjunction : Nat → P Cst
  | 0 => failure
  | n + 1 => do
    let left ← inversion n
    conjunctionTail n left

/-- The `and` parts after a first operand. -/
def conjunctionTail : Nat → Cst → P Cst
  | 0, _ => failure
  | n + 1, left => do
    if (← continues) && (← atWord "and") then
      let o ← keyword "and"
      let right ← inversion n
      let e ← node "boolean_operator" [fld "left" left, fld "operator" o, fld "right" right]
      conjunctionTail n e
    else return left

/-- `not` and its operand, or a comparison. -/
def inversion : Nat → P Cst
  | 0 => failure
  | n + 1 => do
    if ← atWord "not" then
      let o ← keyword "not"
      let a ← inversion n
      node "not_operator" [plain o, fld "argument" a]
    else comparison n

/-- Operands joined by comparison operators, all in one node. -/
def comparison : Nat → P Cst
  | 0 => failure
  | n + 1 => do
    let first ← binary n 14
    let rest ← comparisonTail n
    if rest.isEmpty then return first
    else node "comparison_operator" (plain first :: rest)

/-- The operators and operands after the first operand of a comparison. -/
def comparisonTail : Nat → P (List Child)
  | 0 => failure
  | n + 1 => do
    if !(← continues) then return []
    let l ← peek
    let w ← lexText l
    let op ← match l.kind with
      | .punct p => if comparisonOperators.contains p then some <$> take l p false else pure none
      | .word =>
        if w == "in" then some <$> take l "in" false
        else if w == "is" then
          let l2 ← peekAfter l
          if ← wordIs l2 "not" then
            let a ← take l "is" false
            let b ← take l2 "not" false
            pure (some (Cst.node "is not" false a.start b.stop [plain a, plain b]))
          else some <$> take l "is" false
        else if w == "not" then
          let l2 ← peekAfter l
          if ← wordIs l2 "in" then
            let a ← take l "not" false
            let b ← take l2 "in" false
            pure (some (Cst.node "not in" false a.start b.stop [plain a, plain b]))
          else pure none
        else pure none
      | _ => pure none
    match op with
    | some o =>
      let right ← binary n 14
      let rest ← comparisonTail n
      return fld "operators" o :: plain right :: rest
    | none => return []

/-- Operands joined by binary operators of at least a level. -/
def binary : Nat → Nat → P Cst
  | 0, _ => failure
  | n + 1, minLevel => do
    let left ← unary n
    binaryLoop n minLevel left

/-- Extend a left operand with binary operators of at least a level. -/
def binaryLoop : Nat → Nat → Cst → P Cst
  | 0, _, _ => failure
  | n + 1, minLevel, left => do
    if !(← continues) then return left
    let l ← peek
    match l.kind with
    | .punct p =>
      match binaryLevel p with
      | some lv =>
        if lv < minLevel then return left
        else
          let o ← take l p false
          let right ← if p == "**" then binary n lv else binary n (lv + 1)
          let e ← node "binary_operator" [fld "left" left, fld "operator" o, fld "right" right]
          binaryLoop n minLevel e
      | none => return left
    | _ => return left

/-- Whether a token may start the operand of a prefix word such as `await`; before any
other token the word is a name. -/
def operandStart : LexKind → Bool
  | .word | .special _ | .quote _ => true
  | .punct p => ["(", "[", "\x7b", "-", "+", "~", "..."].contains p
  | _ => false

/-- Prefix operators and `await`, or a primary expression with its suffixes. -/
def unary : Nat → P Cst
  | 0 => failure
  | n + 1 => do
    let l ← peek
    match l.kind with
    | .punct "-" | .punct "+" | .punct "~" =>
      let p ← lexText l
      let o ← take l p false
      let a ← binary n 20
      node "unary_operator" [fld "operator" o, fld "argument" a]
    | .word =>
      let w ← lexText l
      if w == "await" && operandStart (← peekAfter l).kind then
        let o ← take l "await" false
        let a ← binary n 21
        node "await" [plain o, plain a]
      else if w == "await" then
        let p ← take l "identifier" true
        suffixLoop n p
      else
        let p ← primary n
        suffixLoop n p
    | _ =>
      let p ← primary n
      suffixLoop n p

/-- Extend a primary expression with attributes, subscripts and calls. -/
def suffixLoop : Nat → Cst → P Cst
  | 0, _ => failure
  | n + 1, base => do
    if !(← continues) then return base
    let l ← peek
    match l.kind with
    | .punct "." =>
      let dot ← punct "."
      let l2 ← peek
      if l2.kind != .word then failure
      else
        let name ← take l2 "identifier" true
        let e ← node "attribute" [fld "object" base, plain dot, fld "attribute" name]
        suffixLoop n e
    | .punct "[" =>
      let o ← punct "["
      let items ← subscriptItems n
      let c ← punct "]"
      let e ← node "subscript" ([fld "value" base, plain o] ++ items ++ [plain c])
      suffixLoop n e
    | .punct "(" =>
      let args ← callArguments n
      let e ← node "call" [fld "function" base, fld "arguments" args]
      suffixLoop n e
    | .word =>
      let l2 ← peekAfter l
      if l2.kind == .punct "(" && !keywords.contains (← lexText l) && !(← newlineAhead) &&
          (← get).cost == 0 then
        let skipped ← take l "identifier" true
        let err := Cst.node "ERROR" true skipped.start skipped.stop [plain skipped]
        let args ← callArguments n
        let e ← node "call" [fld "function" base, plain err, fld "arguments" args]
        suffixLoop n e
      else return base
    | _ => return base

/-- The items of a subscript: expressions and slices separated by commas. -/
def subscriptItems : Nat → P (List Child)
  | 0 => failure
  | n + 1 => do
    let item ← sliceOrExpression n
    if ← atPunct "," then
      let comma ← punct ","
      if ← atPunct "]" then return [fld "subscript" item, plain comma]
      else
        let rest ← subscriptItems n
        return fld "subscript" item :: plain comma :: rest
    else return [fld "subscript" item]

/-- A slice `a:b:c` with its parts optional, or an expression. -/
def sliceOrExpression : Nat → P Cst
  | 0 => failure
  | n + 1 => do
    let first ← if ← atPunct ":" then pure [] else pure [plain (← expression n)]
    if ← atPunct ":" then
      let c1 ← punct ":"
      let second ← if (← atPunct ":") || (← atPunct "]") || (← atPunct ",") then pure []
        else pure [plain (← expression n)]
      let third ← if ← atPunct ":" then
          let c2 ← punct ":"
          let t ← if (← atPunct "]") || (← atPunct ",") then pure [] else pure [plain (← expression n)]
          pure (plain c2 :: t)
        else pure []
      node "slice" (first ++ [plain c1] ++ second ++ third)
    else
      match first with
      | [(_, e)] => return e
      | _ => failure

/-- Call arguments: a generator expression or an argument list. -/
def callArguments : Nat → P Cst
  | 0 => failure
  | n + 1 => do
    match ← attempt (generatorExpression n) with
    | some g => return g
    | none =>
      let o ← punct "("
      let items ← argumentItems n
      let c ← closing ")"
      node "argument_list" ([plain o] ++ items ++ [plain c])

/-- A closing bracket, or one reported missing while the allowance lasts.  A line break
before the next token was read inside the brackets, so it ends no line. -/
def closing : String → P Cst
  | p => do
    if ← atPunct p then punct p
    else
      let m ← missingHere p
      let i ← nextIndex
      modify fun c => { c with lastEnd := i }
      return m

/-- Arguments separated by commas. -/
def argumentItems : Nat → P (List Child)
  | 0 => failure
  | n + 1 => do
    if ← atPunct ")" then return []
    else
      match ← attempt (argument n) with
      | none => return []
      | some a =>
        if ← atPunct "," then
          let comma ← punct ","
          let rest ← argumentItems n
          return plain a :: plain comma :: rest
        else return [plain a]

/-- One argument: a splat, a keyword argument or an expression. -/
def argument : Nat → P Cst
  | 0 => failure
  | n + 1 => do
    let l ← peek
    if l.kind == .punct "*" then
      let s ← punct "*"
      let e ← expression n
      node "list_splat" [plain s, plain e]
    else if l.kind == .punct "**" then
      let s ← punct "**"
      let e ← expression n
      node "dictionary_splat" [plain s, plain e]
    else
      let l2 ← peekAfter l
      if l.kind == .word && l2.kind == .punct "=" then
        let name ← take l (wordLeaf (← lexText l)).1 true
        let eq ← punct "="
        let v ← expression n
        node "keyword_argument" [fld "name" name, plain eq, fld "value" v]
      else expression n

/-- Primary expressions: names, literals, strings and bracketed forms.  A keyword that
cannot start an expression is read as a name, since a word is a keyword only where
the grammar can take that keyword.  A string left open at the end of its line is an
error over its opening quote, and the expression starts after it. -/
def primary : Nat → P Cst
  | 0 => failure
  | n + 1 => do
    let l ← peek
    match l.kind with
    | .word =>
      let w ← lexText l
      let (kind, named) := wordLeaf w
      if named then take l kind true
      else if expressionKeywords.contains w then failure
      else take l "identifier" true
    | .special k => take l k true
    | .quote _ =>
      match ← attempt (strings n) with
      | some st => return st
      | none =>
        let st ← take l "string_start" true
        modify fun c => { c with extras := c.extras.push (.node "ERROR" true st.start st.stop [plain st]) }
        primary n
    | .punct "..." => take l "ellipsis" true
    | .punct "(" => parenthesized n
    | .punct "[" => listDisplay n
    | .punct "\x7b" => braceDisplay n
    | _ => failure

/-- One string, or adjacent strings joined. -/
def strings : Nat → P Cst
  | 0 => failure
  | n + 1 => do
    let first ← string n
    let rest ← moreStrings n
    if rest.isEmpty then return first
    else node "concatenated_string" (plain first :: rest)

/-- The strings after the first of adjacent strings. -/
def moreStrings : Nat → P (List Child)
  | 0 => failure
  | n + 1 => do
    if (← continues) && (← peek).kind matches .quote _ then
      let s ← string n
      let rest ← moreStrings n
      return plain s :: rest
    else return []

/-- A string: its start, its content and interpolations, and its end. -/
def string : Nat → P Cst
  | 0 => failure
  | n + 1 => do
    let l ← peek
    match l.kind with
    | .quote q =>
      let opening ← lexText l
      let sh := StringShape.ofOpening opening q
      let st ← take l "string_start" true
      let (parts, pending) ← stringParts n sh []
      let _ := pending
      node "string" (plain st :: parts)
    | _ => failure

/-- The rest of a string after its start: content pieces gathered until an interpolation
or the end. -/
def stringParts : Nat → StringShape → List Piece → P (List Child × Unit)
  | 0, _, _ => failure
  | n + 1, sh, acc => do
    let s ← source
    let i ← pos
    let c := s.get i
    let closes := if sh.triple then s.startsWith i (String.ofList [sh.quote, sh.quote, sh.quote])
      else c == sh.quote
    if s.atEnd i then failure
    else if closes then
      let stop := if sh.triple then i + 3 else i + 1
      let e ← takeRaw stop "string_end" true
      return (contentNode acc.reverse ++ [plain e], ())
    else if c == '\\' && !sh.raw then
      match escapeEnd s sh i with
      | some j =>
        let e ← takeRaw j "escape_sequence" true
        stringParts n sh (.shown e :: acc)
      | none =>
        let e ← takeRaw (i + 1) "\\" false
        stringParts n sh (.shown e :: acc)
    else if c == '\\' then
      let j := if s.get (i + 1) == sh.quote || s.get (i + 1) == '\\' || s.get (i + 1) == '\n' then i + 2
        else i + 1
      let _ ← takeRaw j "" false
      stringParts n sh (.hidden (s.offset i) (s.offset j) :: acc)
    else if sh.format && (c == '\x7b' || c == '\x7d') then
      if s.get (i + 1) == c then
        let e ← takeRaw (i + 2) "escape_interpolation" true
        stringParts n sh (.shown e :: acc)
      else if c == '\x7b' then
        let interp ← interpolation n "interpolation"
        let (rest, u) ← stringParts n sh []
        return (contentNode acc.reverse ++ [plain interp] ++ rest, u)
      else failure
    else if c == '\n' && !sh.triple then failure
    else if sh.triple && c == sh.quote then
      let _ ← takeRaw (i + 1) "" false
      stringParts n sh (.hidden (s.offset i) (s.offset (i + 1)) :: acc)
    else
      let j := contentEnd s sh i
      let j := if j == i then i + 1 else j
      let _ ← takeRaw j "" false
      stringParts n sh (.hidden (s.offset i) (s.offset j) :: acc)

/-- An interpolation in a formatted string: `{`, an expression, an optional `=`, a
conversion, a format specifier and `}`. -/
def interpolation : Nat → String → P Cst
  | 0, _ => failure
  | n + 1, kind => do
    let s ← source
    let i ← pos
    let o ← takeRaw (i + 1) "\x7b" false
    let e ← expressions n
    let eq ← optPunct "="
    let j ← nextIndex
    let conv ← if s.get j == '!' && (s.get (j + 1)).isLower then
        commit j
        pure [fld "type_conversion" (← takeRaw (j + 2) "type_conversion" true)]
      else pure []
    let spec ← if ← atPunct ":" then pure [fld "format_specifier" (← formatSpecifier n)] else pure []
    let j ← nextIndex
    if s.get j == '\x7d' then
      commit j
      let c ← takeRaw (j + 1) "\x7d" false
      node kind ([plain o] ++ inField "expression" e ++ eq ++ conv ++ spec ++ [plain c])
    else failure

/-- A format specifier: `:` and text with nested interpolations, up to the closing brace. -/
def formatSpecifier : Nat → P Cst
  | 0 => failure
  | n + 1 => do
    let colon ← punct ":"
    let (parts, stop) ← formatParts n colon.stop
    let s ← source
    let _ := s
    return .node "format_specifier" true colon.start stop (plain colon :: parts)

/-- The text and nested interpolations of a format specifier, with the end of the last. -/
def formatParts : Nat → Nat → P (List Child × Nat)
  | 0, _ => failure
  | n + 1, lastStop => do
    let s ← source
    let i ← pos
    let c := s.get i
    if s.atEnd i || c == '\x7d' || c == '\n' then return ([], lastStop)
    else if c == '\x7b' then
      let e ← interpolation n "format_expression"
      let (rest, stop) ← formatParts n e.stop
      return (plain e :: rest, stop)
    else
      let j := s.skipWhile (fun d => d != '\x7b' && d != '\x7d' && d != '\n') i
      let _ ← takeRaw j "" false
      formatParts n (s.offset j)

/-- A parenthesized form: a tuple, a generator expression, a parenthesized expression or
a parenthesized yield. -/
def parenthesized : Nat → P Cst
  | 0 => failure
  | n + 1 => do
    match ← attempt (generatorExpression n) with
    | some g => return g
    | none =>
      let o ← punct "("
      if ← atPunct ")" then
        let c ← punct ")"
        node "tuple" [plain o, plain c]
      else if ← atWord "yield" then
        let y ← yieldExpression n
        let c ← punct ")"
        node "parenthesized_expression" [plain o, plain y, plain c]
      else
        let first ← collectionElement n
        if ← atPunct "," then
          let comma ← punct ","
          let rest ← collectionElements n ")"
          let c ← punct ")"
          node "tuple" ([plain o, plain first, plain comma] ++ rest ++ [plain c])
        else if (← atPunct "=") && (← peekAfter (← peek)).kind == .punct "(" then
          let l ← peek
          let eq ← take l "=" false
          let err := Cst.node "ERROR" true eq.start eq.stop [plain eq]
          let args ← callArguments n
          let call ← node "call" [fld "function" first, plain err, fld "arguments" args]
          let e ← suffixLoop n call
          let c ← punct ")"
          node "parenthesized_expression" [plain o, plain e, plain c]
        else
          let c ← punct ")"
          if first.kind == "list_splat" then node "parenthesized_list_splat" [plain o, plain first, plain c]
          else node "parenthesized_expression" [plain o, plain first, plain c]

/-- A generator expression in parentheses. -/
def generatorExpression : Nat → P Cst
  | 0 => failure
  | n + 1 => do
    let o ← punct "("
    let body ← expression n
    if ← atWords ["for", "async"] then
      let clauses ← comprehensionClauses n
      let c ← punct ")"
      node "generator_expression" ([plain o, fld "body" body] ++ clauses ++ [plain c])
    else failure

/-- An element of a collection: an expression or a splat. -/
def collectionElement : Nat → P Cst
  | 0 => failure
  | n + 1 => do
    if ← atPunct "*" then
      let s ← punct "*"
      let e ← expression n
      node "list_splat" [plain s, plain e]
    else if ← atWord "yield" then yieldExpression n
    else expression n

/-- Elements separated by commas up to a closing bracket. -/
def collectionElements : Nat → String → P (List Child)
  | 0, _ => failure
  | n + 1, close => do
    if ← atPunct close then return []
    else
      let e ← collectionElement n
      if ← atPunct "," then
        let comma ← punct ","
        let rest ← collectionElements n close
        return plain e :: plain comma :: rest
      else return [plain e]

/-- A list display or list comprehension. -/
def listDisplay : Nat → P Cst
  | 0 => failure
  | n + 1 => do
    let o ← punct "["
    if ← atPunct "]" then
      let c ← punct "]"
      node "list" [plain o, plain c]
    else
      let first ← collectionElement n
      if ← atWords ["for", "async"] then
        let clauses ← comprehensionClauses n
        let c ← punct "]"
        node "list_comprehension" ([plain o, fld "body" first] ++ clauses ++ [plain c])
      else if ← atPunct "," then
        let comma ← punct ","
        let rest ← collectionElements n "]"
        let c ← punct "]"
        node "list" ([plain o, plain first, plain comma] ++ rest ++ [plain c])
      else
        let c ← punct "]"
        node "list" [plain o, plain first, plain c]

/-- A dictionary, a set, or one of their comprehensions. -/
def braceDisplay : Nat → P Cst
  | 0 => failure
  | n + 1 => do
    let o ← punct "\x7b"
    if ← atPunct "\x7d" then
      let c ← punct "\x7d"
      node "dictionary" [plain o, plain c]
    else
      let first ← dictionaryItem n
      if first.kind == "pair" || first.kind == "dictionary_splat" then
        if (← atWords ["for", "async"]) && first.kind == "pair" then
          let clauses ← comprehensionClauses n
          let c ← punct "\x7d"
          node "dictionary_comprehension" ([plain o, fld "body" first] ++ clauses ++ [plain c])
        else
          let rest ← dictionaryRest n
          let c ← punct "\x7d"
          node "dictionary" ([plain o, plain first] ++ rest ++ [plain c])
      else if ← atWords ["for", "async"] then
        let clauses ← comprehensionClauses n
        let c ← punct "\x7d"
        node "set_comprehension" ([plain o, fld "body" first] ++ clauses ++ [plain c])
      else if ← atPunct "," then
        let comma ← punct ","
        let rest ← collectionElements n "\x7d"
        let c ← punct "\x7d"
        node "set" ([plain o, plain first, plain comma] ++ rest ++ [plain c])
      else
        let c ← punct "\x7d"
        node "set" [plain o, plain first, plain c]

/-- A dictionary entry, a dictionary splat, or a set element. -/
def dictionaryItem : Nat → P Cst
  | 0 => failure
  | n + 1 => do
    if ← atPunct "**" then
      let s ← punct "**"
      let e ← binary n 14
      node "dictionary_splat" [plain s, plain e]
    else
      let k ← collectionElement n
      if ← atPunct ":" then
        let colon ← punct ":"
        let v ← expression n
        node "pair" [fld "key" k, plain colon, fld "value" v]
      else return k

/-- The commas and entries after the first entry of a dictionary. -/
def dictionaryRest : Nat → P (List Child)
  | 0 => failure
  | n + 1 => do
    if ← atPunct "," then
      let comma ← punct ","
      if ← atPunct "\x7d" then return [plain comma]
      else
        let item ← dictionaryItem n
        if item.kind != "pair" && item.kind != "dictionary_splat" then failure
        let rest ← dictionaryRest n
        return plain comma :: plain item :: rest
    else return []

/-- The `for` and `if` clauses of a comprehension. -/
def comprehensionClauses : Nat → P (List Child)
  | 0 => failure
  | n + 1 => do
    if ← atWords ["for", "async"] then
      let c ← forInClause n
      let rest ← comprehensionClauses n
      return plain c :: rest
    else if ← atWord "if" then
      let kw ← keyword "if"
      let e ← disjunction n
      let c ← node "if_clause" [plain kw, plain e]
      let rest ← comprehensionClauses n
      return plain c :: rest
    else return []

/-- `for` targets `in` iterables, inside a comprehension. -/
def forInClause : Nat → P Cst
  | 0 => failure
  | n + 1 => do
    let asyncKw ← optKeyword "async"
    let kw ← keyword "for"
    let left ← targets n
    let inKw ← keyword "in"
    let right ← forInRight n
    node "for_in_clause" (asyncKw ++ [plain kw] ++ inField "left" left ++ [plain inKw] ++ right)

/-- The iterables of a comprehension's `for` clause. -/
def forInRight : Nat → P (List Child)
  | 0 => failure
  | n + 1 => do
    let e ← if ← atWord "lambda" then lambda n false else disjunction n
    if ← atPunct "," then
      let comma ← punct ","
      if (← atPunct "]") || (← atPunct ")") || (← atPunct "\x7d") then return [fld "right" e, plain comma]
      else
        let rest ← forInRight n
        return fld "right" e :: plain comma :: rest
    else return [fld "right" e]

/-- Assignment targets: one pattern, or several joined by commas into a pattern list. -/
def targets : Nat → P (List Child)
  | 0 => failure
  | n + 1 => do
    let first ← target n
    if ← atPunct "," then
      let rest ← targetRest n
      return [plain (Cst.make "pattern_list" true (plain first :: rest) 0)]
    else return [plain first]

/-- The commas and patterns after the first target. -/
def targetRest : Nat → P (List Child)
  | 0 => failure
  | n + 1 => do
    if ← atPunct "," then
      let comma ← punct ","
      if (← atWord "in") || (← atPunct "=") || (← atPunct ")") then return [plain comma]
      else
        let t ← target n
        let rest ← targetRest n
        return plain comma :: plain t :: rest
    else return []

/-- One target pattern. -/
def target : Nat → P Cst
  | 0 => failure
  | n + 1 => do
    if ← atPunct "*" then
      let s ← punct "*"
      let t ← target n
      node "list_splat_pattern" [plain s, plain t]
    else
      let e ← binary n 14
      return toPattern 64 e

/-- An expression, or several joined by commas into an expression list. -/
def expressions : Nat → P (List Child)
  | 0 => failure
  | n + 1 => do
    let first ← collectionElement n
    if ← atPunct "," then
      let rest ← expressionRest n
      return [plain (Cst.make "expression_list" true (plain first :: rest) 0)]
    else return [plain first]

/-- The commas and expressions after the first of an expression list. -/
def expressionRest : Nat → P (List Child)
  | 0 => failure
  | n + 1 => do
    if (← continues) && (← atPunct ",") then
      let comma ← punct ","
      if (← lineEnds) || (← atPunct "=") || (← atPunct ")") || (← atPunct ";") || (← atPunct ":") ||
          (← atPunct "\x7d") || (← atPunct "!") then
        return [plain comma]
      else
        let e ← collectionElement n
        let rest ← expressionRest n
        return plain comma :: plain e :: rest
    else return []

/-- `yield`, `yield from`, and its operands. -/
def yieldExpression : Nat → P Cst
  | 0 => failure
  | n + 1 => do
    let y ← keyword "yield"
    if ← atWord "from" then
      let f ← keyword "from"
      let e ← expression n
      node "yield" [plain y, plain f, plain e]
    else if (← lineEnds) || (← atPunct ")") || (← atPunct ";") || (← atPunct "=") then
      node "yield" [plain y]
    else
      let es ← expressions n
      node "yield" (plain y :: es)

/-- A type: a generic type, a union of types, or an expression. -/
def type : Nat → P Cst
  | 0 => failure
  | n + 1 => do
    let t ← typeAtom n
    let t ← typeUnion n t
    return t

/-- A type without unions. -/
def typeAtom : Nat → P Cst
  | 0 => failure
  | n + 1 => do
    let l ← peek
    let l2 ← peekAfter l
    if l.kind == .word && l2.kind == .punct "[" && !keywords.contains (← lexText l) then
      let name ← take l "identifier" true
      let o ← punct "["
      let items ← typeParameterItems n
      let c ← punct "]"
      let params ← node "type_parameter" ([plain o] ++ items ++ [plain c])
      let g ← node "generic_type" [plain name, plain params]
      memberTypeTail n (← node "type" [plain g])
    else if l.kind == .punct "*" || l.kind == .punct "**" then
      let s ← take l (← lexText l) false
      let name ← primary n
      let sp ← node "splat_type" [plain s, plain name]
      node "type" [plain sp]
    else
      let e ← binary n 15
      node "type" [plain e]

/-- Names picked from a type with `.` after it. -/
def memberTypeTail : Nat → Cst → P Cst
  | 0, _ => failure
  | n + 1, t => do
    if (← atPunct ".") && (← peekAfter (← peek)).kind == .word then
      let dot ← punct "."
      let l ← peek
      let name ← take l "identifier" true
      let m ← node "member_type" [plain t, plain dot, plain name]
      memberTypeTail n (← node "type" [plain m])
    else return t

/-- Types joined by `|`. -/
def typeUnion : Nat → Cst → P Cst
  | 0, _ => failure
  | n + 1, left => do
    if ← atPunct "|" then
      let bar ← punct "|"
      let right ← typeAtom n
      let u ← node "union_type" [plain left, plain bar, plain right]
      let t ← node "type" [plain u]
      typeUnion n t
    else return left

/-- Types separated by commas. -/
def typeItems : Nat → P (List Child)
  | 0 => failure
  | n + 1 => do
    let t ← type n
    if ← atPunct "," then
      let comma ← punct ","
      if ← atPunct "]" then return [plain t, plain comma]
      else
        let rest ← typeItems n
        return plain t :: plain comma :: rest
    else return [plain t]

-- ## Parameters

/-- Parameters separated by commas up to a closing token. -/
def parameterItems : Nat → String → Bool → P (List Child)
  | 0, _, _ => failure
  | n + 1, close, typed => do
    if ← atPunct close then return []
    else
      match ← attempt (parameter n typed) with
      | none => return []
      | some p =>
        if ← atPunct "," then
          let comma ← punct ","
          let rest ← parameterItems n close typed
          return plain p :: plain comma :: rest
        else return [plain p]

/-- One parameter: a separator, a splat, a name with a type and a default. -/
def parameter : Nat → Bool → P Cst
  | 0, _ => failure
  | n + 1, typed => do
    let l ← peek
    match l.kind with
    | .punct "/" => node "positional_separator" [plain (← punct "/")]
    | .punct "*" =>
      let l2 ← peekAfter l
      if l2.kind == .punct "," || l2.kind == .punct ")" || l2.kind == .punct ":" then
        node "keyword_separator" [plain (← punct "*")]
      else
        let s ← punct "*"
        let name ← identifier n
        let p ← node "list_splat_pattern" [plain s, plain name]
        typedTail n typed p
    | .punct "**" =>
      let s ← punct "**"
      let name ← identifier n
      let p ← node "dictionary_splat_pattern" [plain s, plain name]
      typedTail n typed p
    | .punct "(" =>
      let o ← punct "("
      let items ← parameterItems n ")" false
      let c ← punct ")"
      node "tuple_pattern" ([plain o] ++ items ++ [plain c])
    | _ =>
      let name ← identifier n
      if typed && (← atPunct ":") then
        let colon ← punct ":"
        let t ← type n
        if ← atPunct "=" then
          let eq ← punct "="
          let v ← expression n
          node "typed_default_parameter" [fld "name" name, plain colon, fld "type" t, plain eq, fld "value" v]
        else node "typed_parameter" [plain name, plain colon, fld "type" t]
      else if ← atPunct "=" then
        let eq ← punct "="
        let v ← expression n
        node "default_parameter" [fld "name" name, plain eq, fld "value" v]
      else return name

/-- A type annotation after a splat parameter, if there is one. -/
def typedTail : Nat → Bool → Cst → P Cst
  | 0, _, _ => failure
  | n + 1, typed, p => do
    if typed && (← atPunct ":") then
      let colon ← punct ":"
      let t ← type n
      node "typed_parameter" [plain p, plain colon, fld "type" t]
    else return p

/-- An identifier. -/
def identifier : Nat → P Cst
  | 0 => failure
  | _ + 1 => do
    if ← atName then take (← peek) "identifier" true else failure

-- ## Statements

/-- The statements of a block indented at least `indent`, each on a line of its own. -/
def blockStatements : Nat → Nat → P (List Child)
  | 0, _ => failure
  | n + 1, indent => do
    if (← atEof) then return []
    else if (← nextIndent) < indent then return []
    else
      let items ← statementLine n indent
      let rest ← blockStatements n indent
      return items ++ rest

/-- A block of statements after `:` at a given indentation, or the simple statements on
the same line. -/
def suite : Nat → Nat → P Cst
  | 0, _ => failure
  | n + 1, indent => do
    let s ← source
    if ← lineEnds then
      let k ← nextIndent
      if (← atEof) || k ≤ indent then
        let emptyAt := s.offset (blockEnd s (← get).lastEnd (indent + 1))
        return .node "block" true emptyAt emptyAt []
      else
        let items ← blockStatements n k
        let stop := s.offset (blockEnd s (← get).lastEnd k)
        match items.head? with
        | some (_, first) => return .node "block" true first.start (max stop (items.getLast?.map (·.2.stop) |>.getD stop)) items
        | none => failure
    else
      let items ← simpleStatements n
      let stop := s.offset (blockEnd s (← get).lastEnd (s.length + 1))
      match items.head? with
      | some (_, first) => return .node "block" true first.start (max stop (items.getLast?.map (·.2.stop) |>.getD stop)) items
      | none => failure

/-- Simple statements separated by semicolons up to the end of the line. -/
def simpleStatements : Nat → P (List Child)
  | 0 => failure
  | n + 1 => do
    let st ← simpleStatement n
    if ← atPunct ";" then
      let semi ← punct ";"
      if ← lineEnds then return [plain st, plain semi]
      else
        let rest ← simpleStatements n
        return plain st :: plain semi :: rest
    else if ← lineEnds then return [plain st]
    else
      -- a line break reported missing: the break is hidden, so it leaves no node
      let _ ← missingHere "\n"
      let rest ← simpleStatements n
      return plain st :: rest

/-- One line's worth of statements: a compound statement, or simple statements. -/
def statementLine : Nat → Nat → P (List Child)
  | 0, _ => failure
  | n + 1, indent => do
    match ← compoundStatement n indent with
    | some c => return [plain c]
    | none => simpleStatements n

/-- A compound statement, or `none` when the line holds simple statements. -/
def compoundStatement : Nat → Nat → P (Option Cst)
  | 0, _ => failure
  | n + 1, indent => do
    let l ← peek
    if l.kind == .punct "@" then return some (← decoratedDefinition n indent)
    else if l.kind != .word then return none
    else
      let w ← lexText l
      let l2 ← peekAfter l
      match w with
      | "if" => return some (← ifStatement n indent)
      | "while" =>
        let kw ← keyword "while"
        let c ← expression n
        let colon ← punct ":"
        let body ← suite n indent
        let alt ← elseClause n indent
        return some (← node "while_statement" ([plain kw, fld "condition" c, plain colon, fld "body" body] ++ alt))
      | "for" => return some (← forStatement n indent [])
      | "try" => return some (← tryStatement n indent)
      | "with" => return some (← withStatement n indent [])
      | "def" => return some (← functionDefinition n indent [])
      | "class" => return some (← classDefinition n indent)
      | "async" =>
        let w2 ← lexText l2
        if w2 == "def" then
          let a ← keyword "async"
          return some (← functionDefinition n indent [plain a])
        else if w2 == "for" then
          let a ← keyword "async"
          return some (← forStatement n indent [plain a])
        else if w2 == "with" then
          let a ← keyword "async"
          return some (← withStatement n indent [plain a])
        else return none
      | "match" =>
        if l2.kind == .punct "=" || l2.kind == .punct "." then return none
        else attempt (matchStatement n indent)
      | _ => return none

/-- Decorators and the definition they decorate. -/
def decoratedDefinition : Nat → Nat → P Cst
  | 0, _ => failure
  | n + 1, indent => do
    let ds ← decorators n
    let def_ ← if ← atWord "class" then classDefinition n indent
      else if ← atWord "async" then
        let a ← keyword "async"
        functionDefinition n indent [plain a]
      else functionDefinition n indent []
    node "decorated_definition" (ds ++ [fld "definition" def_])

/-- Decorators, each `@` and an expression on a line of its own. -/
def decorators : Nat → P (List Child)
  | 0 => failure
  | n + 1 => do
    if ← atPunct "@" then
      let at_ ← punct "@"
      let e ← expression n
      if !(← lineEnds) then failure
      else
        let d ← node "decorator" [plain at_, plain e]
        let rest ← decorators n
        return plain d :: rest
    else return []

/-- A function definition after its `async`, if any. -/
def functionDefinition : Nat → Nat → List Child → P Cst
  | 0, _, _ => failure
  | n + 1, indent, pre => do
    let kw ← keyword "def"
    let name ← identifier n
    let tps ← if ← atPunct "[" then pure [fld "type_parameters" (← typeParameters n)] else pure []
    let o ← punct "("
    let items ← parameterItems n ")" true
    let c ← closing ")"
    let ps ← node "parameters" ([plain o] ++ items ++ [plain c])
    let ret ← if ← atPunct "->" then
        let arrow ← punct "->"
        let t ← type n
        pure [plain arrow, fld "return_type" t]
      else pure []
    let colon ← punct ":"
    let body ← suite n indent
    node "function_definition"
      (pre ++ [plain kw, fld "name" name] ++ tps ++ [fld "parameters" ps] ++ ret ++ [plain colon, fld "body" body])

/-- Type parameters in brackets. -/
def typeParameters : Nat → P Cst
  | 0 => failure
  | n + 1 => do
    let o ← punct "["
    let items ← typeParameterItems n
    let c ← punct "]"
    node "type_parameter" ([plain o] ++ items ++ [plain c])

/-- Declared type parameters separated by commas, each a type that may be constrained by
another after a colon. -/
def typeParameterItems : Nat → P (List Child)
  | 0 => failure
  | n + 1 => do
    let t ← type n
    let t ← if ← atPunct ":" then
        let colon ← punct ":"
        let bound ← type n
        let ct ← node "constrained_type" [plain t, plain colon, plain bound]
        node "type" [plain ct]
      else pure t
    if ← atPunct "," then
      let comma ← punct ","
      if ← atPunct "]" then return [plain t, plain comma]
      else
        let rest ← typeParameterItems n
        return plain t :: plain comma :: rest
    else return [plain t]

/-- A class definition. -/
def classDefinition : Nat → Nat → P Cst
  | 0, _ => failure
  | n + 1, indent => do
    let kw ← keyword "class"
    let name ← identifier n
    let tps ← if ← atPunct "[" then pure [fld "type_parameters" (← typeParameters n)] else pure []
    let supers ← if ← atPunct "(" then
        let o ← punct "("
        let items ← argumentItems n
        let c ← closing ")"
        pure [fld "superclasses" (← node "argument_list" ([plain o] ++ items ++ [plain c]))]
      else pure []
    let colon ← punct ":"
    let body ← suite n indent
    node "class_definition" ([plain kw, fld "name" name] ++ tps ++ supers ++ [plain colon, fld "body" body])

/-- An `if` statement with its `elif` and `else` clauses. -/
def ifStatement : Nat → Nat → P Cst
  | 0, _ => failure
  | n + 1, indent => do
    let kw ← keyword "if"
    let c ← expression n
    let colon ← punct ":"
    let body ← suite n indent
    let alts ← elifClauses n indent
    node "if_statement" ([plain kw, fld "condition" c, plain colon, fld "consequence" body] ++ alts)

/-- The `elif` clauses and the `else` clause of an `if` statement. -/
def elifClauses : Nat → Nat → P (List Child)
  | 0, _ => failure
  | n + 1, indent => do
    if (← atWord "elif") && indent ≤ (← nextIndent) then
      let kw ← keyword "elif"
      let c ← expression n
      let colon ← punct ":"
      let body ← suite n indent
      let clause ← node "elif_clause" [plain kw, fld "condition" c, plain colon, fld "consequence" body]
      let rest ← elifClauses n indent
      return fld "alternative" clause :: rest
    else elseClause n indent

/-- An `else` clause, if one follows at the same indentation. -/
def elseClause : Nat → Nat → P (List Child)
  | 0, _ => failure
  | n + 1, indent => do
    if (← atWord "else") && indent ≤ (← nextIndent) then
      let kw ← keyword "else"
      let colon ← punct ":"
      let body ← suite n indent
      return [fld "alternative" (← node "else_clause" [plain kw, plain colon, fld "body" body])]
    else return []

/-- A `for` statement after its `async`, if any. -/
def forStatement : Nat → Nat → List Child → P Cst
  | 0, _, _ => failure
  | n + 1, indent, pre => do
    let kw ← keyword "for"
    -- no keyword can follow `for`, so an `in` there is a name
    let left ← if ← atWord "in" then pure [plain (← take (← peek) "identifier" true)] else targets n
    let inKw ← keyword "in"
    let right ← expressions n
    let colon ← punct ":"
    let body ← suite n indent
    let alt ← elseClause n indent
    node "for_statement" (pre ++ [plain kw] ++ inField "left" left ++ [plain inKw] ++ inField "right" right ++
      [plain colon, fld "body" body] ++ alt)

/-- A `try` statement with its handlers. -/
def tryStatement : Nat → Nat → P Cst
  | 0, _ => failure
  | n + 1, indent => do
    let kw ← keyword "try"
    let colon ← punct ":"
    let body ← suite n indent
    let clauses ← tryClauses n indent
    if clauses.isEmpty then failure
    else node "try_statement" ([plain kw, plain colon, fld "body" body] ++ clauses)

/-- The `except`, `else` and `finally` clauses of a `try` statement. -/
def tryClauses : Nat → Nat → P (List Child)
  | 0, _ => failure
  | n + 1, indent => do
    if (← nextIndent) < indent then return []
    else if ← atWord "except" then
      let kw ← keyword "except"
      let l ← peek
      let grouped := l.kind == .punct "*" && (← startsAt l kw)
      let kw ← if grouped then
          let star ← punct "*"
          pure (Cst.token "except*" false kw.start star.stop)
        else pure kw
      let value ← if ← atPunct ":" then pure [] else
          let e ← expression n
          let e ← if ← atWord "as" then asPattern n e else pure e
          pure [plain e]
      let colon ← punct ":"
      let body ← suite n indent
      let clause ← node (if grouped then "except_group_clause" else "except_clause")
        ([plain kw] ++ value ++ [plain colon, plain body])
      let rest ← tryClauses n indent
      return plain clause :: rest
    else if ← atWord "else" then
      let kw ← keyword "else"
      let colon ← punct ":"
      let body ← suite n indent
      let clause ← node "else_clause" [plain kw, plain colon, fld "body" body]
      let rest ← tryClauses n indent
      return plain clause :: rest
    else if ← atWord "finally" then
      let kw ← keyword "finally"
      let colon ← punct ":"
      let body ← suite n indent
      return [plain (← node "finally_clause" [plain kw, plain colon, plain body])]
    else return []

/-- `as` and a target after an expression. -/
def asPattern : Nat → Cst → P Cst
  | 0, _ => failure
  | n + 1, e => do
    let a ← keyword "as"
    let t ← expression n
    let target ← node "as_pattern_target" [plain t]
    node "as_pattern" [plain e, plain a, fld "alias" target]

/-- A `with` statement after its `async`, if any.  Items in parentheses are a list of
items unless there is one item without `as`: that is a parenthesized expression. -/
def withStatement : Nat → Nat → List Child → P Cst
  | 0, _, _ => failure
  | n + 1, indent, pre => do
    let kw ← keyword "with"
    let items ← match ← attempt (do
        let o ← punct "("
        let items ← withItems n
        let c ← punct ")"
        let bare := match items with
          | [(_, .node _ _ _ _ [(_, v)])] => v.kind != "as_pattern"
          | _ => false
        if (← atPunct ":") && !bare then pure ([plain o] ++ items ++ [plain c]) else failure) with
      | some items => pure items
      | none => withItems n
    let clause ← node "with_clause" items
    let colon ← punct ":"
    let body ← suite n indent
    node "with_statement" (pre ++ [plain kw, plain clause, plain colon, fld "body" body])

/-- The items of a `with` clause. -/
def withItems : Nat → P (List Child)
  | 0 => failure
  | n + 1 => do
    let e ← expression n
    let e ← if ← atWord "as" then asPattern n e else pure e
    let item ← node "with_item" [fld "value" e]
    if ← atPunct "," then
      let comma ← punct ","
      if ← atPunct ")" then return [plain item, plain comma]
      else
        let rest ← withItems n
        return plain item :: plain comma :: rest
    else return [plain item]

/-- A `match` statement with its cases. -/
def matchStatement : Nat → Nat → P Cst
  | 0, _ => failure
  | n + 1, indent => do
    let s ← source
    let kw ← keyword "match"
    let subject ← expression n
    let colon ← punct ":"
    if !(← lineEnds) then failure
    else
      let k ← nextIndent
      if k ≤ indent then failure
      else
        let startAt := s.offset (blockEnd s (← get).lastEnd (s.length + 1))
        let cases ← caseClauses n k
        let stop := s.offset (blockEnd s (← get).lastEnd k)
        let lastStop := (cases.getLast?.map (·.2.stop)).getD startAt
        let body := Cst.node "block" true startAt (max stop lastStop) cases
        node "match_statement" [plain kw, fld "subject" subject, plain colon, fld "body" body]

/-- The case clauses of a `match` block. -/
def caseClauses : Nat → Nat → P (List Child)
  | 0, _ => failure
  | n + 1, indent => do
    if (← atWord "case") && (← nextIndent) ≥ indent then
      let kw ← keyword "case"
      let pats ← casePatterns n
      let guard ← if ← atWord "if" then
          let i ← keyword "if"
          let e ← expression n
          pure [fld "guard" (← node "if_clause" [plain i, plain e])]
        else pure []
      let colon ← punct ":"
      let body ← suite n indent
      let clause ← node "case_clause" ([plain kw] ++ pats ++ guard ++ [plain colon, fld "consequence" body])
      let rest ← caseClauses n indent
      return fld "alternative" clause :: rest
    else return []

/-- Case patterns separated by commas. -/
def casePatterns : Nat → P (List Child)
  | 0 => failure
  | n + 1 => do
    let p ← casePattern n
    if ← atPunct "," then
      let comma ← punct ","
      if (← atPunct ":") || (← atWord "if") then return [plain p, plain comma]
      else
        let rest ← casePatterns n
        return plain p :: plain comma :: rest
    else return [plain p]

/-- One case pattern, with an `as` binding if one follows. -/
def casePattern : Nat → P Cst
  | 0 => failure
  | n + 1 => do
    let l ← peek
    let l2 ← peekAfter l
    let p ← if l.kind == .word && l2.kind == .punct "=" then
        let name ← take l "identifier" true
        let eq ← punct "="
        let v ← simplePattern n
        node "keyword_pattern" ([plain name, plain eq] ++ v)
      else
        let first ← simplePattern n
        if ← atPunct "|" then
          let rest ← unionPatternRest n
          node "union_pattern" (first ++ rest)
        else pure (Cst.make "case_pattern" true first 0)
    let p ← if p.kind == "case_pattern" then pure p else node "case_pattern" [plain p]
    if ← atWord "as" then
      let a ← keyword "as"
      let name ← identifier n
      let ap ← node "as_pattern" [plain p, plain a, plain name]
      node "case_pattern" [plain ap]
    else return p

/-- The `|` alternatives after the first of a union pattern. -/
def unionPatternRest : Nat → P (List Child)
  | 0 => failure
  | n + 1 => do
    if ← atPunct "|" then
      let bar ← punct "|"
      let p ← simplePattern n
      let rest ← unionPatternRest n
      return plain bar :: p ++ rest
    else return []

/-- A number in a pattern after its sign, if any; a `+` or `-` and a second number after
it make a complex number. -/
def numberPattern : Nat → List Child → Cst → P (List Child)
  | 0, _, _ => failure
  | _ + 1, sign, num => do
    if (← atPunct "+") || (← atPunct "-") then
      let l2 ← peek
      let op ← take l2 (← lexText l2) false
      let l3 ← peek
      match l3.kind with
      | .special k3 =>
        let im ← take l3 k3 true
        return [plain (← node "complex_pattern" (sign ++ [plain num, plain op, plain im]))]
      | _ => failure
    else return sign ++ [plain num]

/-- A simple pattern: literals, names, splats, and bracketed or class patterns. -/
def simplePattern : Nat → P (List Child)
  | 0 => failure
  | n + 1 => do
    let l ← peek
    match l.kind with
    | .punct "*" | .punct "**" =>
      let s ← take l (← lexText l) false
      let l2 ← peek
      let w ← lexText l2
      let name ← if w == "_" then take l2 "_" false else identifier n
      return [plain (← node "splat_pattern" [plain s, plain name])]
    | .punct "[" =>
      let o ← punct "["
      let items ← casePatternItems n "]"
      let c ← punct "]"
      return [plain (← node "list_pattern" ([plain o] ++ items ++ [plain c]))]
    | .punct "(" =>
      let o ← punct "("
      let items ← casePatternItems n ")"
      let c ← punct ")"
      return [plain (← node "tuple_pattern" ([plain o] ++ items ++ [plain c]))]
    | .punct "\x7b" =>
      let o ← punct "\x7b"
      let items ← dictPatternItems n
      let c ← punct "\x7d"
      return [plain (← node "dict_pattern" ([plain o] ++ items ++ [plain c]))]
    | .punct "-" =>
      let m ← punct "-"
      let l2 ← peek
      match l2.kind with
      | .special k => numberPattern n [plain m] (← take l2 k true)
      | _ => failure
    | .special k => numberPattern n [] (← take l k true)
    | .quote _ => return [plain (← strings n)]
    | .word =>
      let w ← lexText l
      if w == "_" && (← peekAfter l).kind != .punct "." && (← peekAfter l).kind != .punct "(" then
        return [plain (← take l "_" false)]
      else if w == "True" || w == "False" || w == "None" then
        let (kind, _) := wordLeaf w
        return [plain (← take l kind true)]
      else
        let name ← dottedName n
        if ← atPunct "(" then
          let o ← punct "("
          let items ← casePatternItems n ")"
          let c ← punct ")"
          return [plain (← node "class_pattern" ([plain name, plain o] ++ items ++ [plain c]))]
        else return [plain name]
    | _ => failure

/-- Case patterns separated by commas up to a closing bracket. -/
def casePatternItems : Nat → String → P (List Child)
  | 0, _ => failure
  | n + 1, close => do
    if ← atPunct close then return []
    else
      let p ← casePattern n
      if ← atPunct "," then
        let comma ← punct ","
        let rest ← casePatternItems n close
        return plain p :: plain comma :: rest
      else return [plain p]

/-- The entries of a mapping pattern. -/
def dictPatternItems : Nat → P (List Child)
  | 0 => failure
  | n + 1 => do
    if ← atPunct "\x7d" then return []
    else
      let entry ← if (← atPunct "**") then simplePattern n
        else
          let key ← simplePattern n
          let colon ← punct ":"
          let v ← casePattern n
          pure (inField "key" key ++ [plain colon, fld "value" v])
      if ← atPunct "," then
        let comma ← punct ","
        let rest ← dictPatternItems n
        return entry ++ plain comma :: rest
      else return entry

/-- A dotted name. -/
def dottedName : Nat → P Cst
  | 0 => failure
  | n + 1 => do
    let first ← identifier n
    let rest ← dottedRest n
    node "dotted_name" (plain first :: rest)

/-- The dots and names after the first part of a dotted name. -/
def dottedRest : Nat → P (List Child)
  | 0 => failure
  | n + 1 => do
    if ← atPunct "." then
      let dot ← punct "."
      let name ← identifier n
      let rest ← dottedRest n
      return plain dot :: plain name :: rest
    else return []

/-- A simple statement. -/
def simpleStatement : Nat → P Cst
  | 0 => failure
  | n + 1 => do
    let l ← peek
    if l.kind != .word then expressionStatement n
    else
      let w ← lexText l
      match w with
      | "pass" => node "pass_statement" [plain (← keyword "pass")]
      | "break" => node "break_statement" [plain (← keyword "break")]
      | "continue" => node "continue_statement" [plain (← keyword "continue")]
      | "return" =>
        let kw ← keyword "return"
        if (← lineEnds) || (← atPunct ";") then node "return_statement" [plain kw]
        else
          let e ← expressions n
          node "return_statement" (plain kw :: e)
      | "raise" =>
        let kw ← keyword "raise"
        if (← lineEnds) || (← atPunct ";") then node "raise_statement" [plain kw]
        else
          let e ← expressions n
          let cause ← if ← atWord "from" then
              let f ← keyword "from"
              let c ← expression n
              pure [plain f, fld "cause" c]
            else pure []
          node "raise_statement" (plain kw :: e ++ cause)
      | "del" =>
        let kw ← keyword "del"
        let e ← expressions n
        node "delete_statement" (plain kw :: e)
      | "assert" =>
        let kw ← keyword "assert"
        let es ← expressionItems n
        node "assert_statement" (plain kw :: es)
      | "global" | "nonlocal" =>
        let kw ← keyword w
        let names ← nameItems n
        node (w ++ "_statement") (plain kw :: names)
      | "import" => importStatement n
      | "from" => importFromStatement n
      | "print" => if ← printAhead l then printStatement n else expressionStatement n
      | "exec" =>
        if ← execAhead l then
          let kw ← keyword "exec"
          let code ← if (← peek).kind matches .quote _ then string n else identifier n
          if ← atWord "in" then
            let inKw ← keyword "in"
            let es ← expressionItems n
            node "exec_statement" ([plain kw, fld "code" code, plain inKw] ++ es)
          else node "exec_statement" [plain kw, fld "code" code]
        else expressionStatement n
      | "type" =>
        let l2 ← peekAfter l
        if l2.kind == .word then
          let kw ← keyword "type"
          let t ← type n
          let eq ← punct "="
          let v ← type n
          node "type_alias_statement" [plain kw, fld "left" t, plain eq, fld "right" v]
        else expressionStatement n
      | _ => expressionStatement n

/-- A print statement: `print`, then a chevron `>>` and a stream or a first argument,
then more arguments after commas, perhaps with a comma after the last. -/
def printStatement : Nat → P Cst
  | 0 => failure
  | n + 1 => do
    let kw ← keyword "print"
    let head ← if ← atPunct ">>" then
        let op ← punct ">>"
        let e ← expression n
        pure (plain (← node "chevron" [plain op, plain e]))
      else pure (fld "argument" (← expression n))
    let rest ← printArguments n
    node "print_statement" (plain kw :: head :: rest)

/-- The arguments after the first of a print statement, each after a comma. -/
def printArguments : Nat → P (List Child)
  | 0 => failure
  | n + 1 => do
    if ← atPunct "," then
      let comma ← punct ","
      if (← lineEnds) || (← atPunct ";") then return [plain comma]
      else
        let e ← expression n
        let rest ← printArguments n
        return plain comma :: fld "argument" e :: rest
    else return []

/-- Expressions separated by commas, each its own child. -/
def expressionItems : Nat → P (List Child)
  | 0 => failure
  | n + 1 => do
    let e ← expression n
    if ← atPunct "," then
      let comma ← punct ","
      let rest ← expressionItems n
      return plain e :: plain comma :: rest
    else return [plain e]

/-- Names separated by commas. -/
def nameItems : Nat → P (List Child)
  | 0 => failure
  | n + 1 => do
    let e ← identifier n
    if ← atPunct "," then
      let comma ← punct ","
      let rest ← nameItems n
      return plain e :: plain comma :: rest
    else return [plain e]

/-- An `import` statement. -/
def importStatement : Nat → P Cst
  | 0 => failure
  | n + 1 => do
    let kw ← keyword "import"
    let names ← importList n
    node "import_statement" (plain kw :: names)

/-- Imported names, each a dotted name with an optional alias. -/
def importList : Nat → P (List Child)
  | 0 => failure
  | n + 1 => do
    let name ← dottedName n
    let item ← if ← atWord "as" then
        let a ← keyword "as"
        let aliasPart ← identifier n
        node "aliased_import" [fld "name" name, plain a, fld "alias" aliasPart]
      else pure name
    if ← atPunct "," then
      let comma ← punct ","
      if (← lineEnds) || (← atPunct ")") then return [fld "name" item, plain comma]
      else
        let rest ← importList n
        return fld "name" item :: plain comma :: rest
    else return [fld "name" item]

/-- A `from ... import ...` statement. -/
def importFromStatement : Nat → P Cst
  | 0 => failure
  | n + 1 => do
    let kw ← keyword "from"
    if ← atWord "__future__" then
      let f ← keyword "__future__"
      let imp ← keyword "import"
      let names ← importTail n
      node "future_import_statement" ([plain kw, plain f, plain imp] ++ names)
    else
      let moduleName ← if (← atPunct ".") || (← atPunct "...") then
          let dots ← importDots n
          let pre ← node "import_prefix" dots
          let name ← if ← atName then pure [plain (← dottedName n)] else pure []
          node "relative_import" (plain pre :: name)
        else dottedName n
      let imp ← keyword "import"
      let names ← importTail n
      node "import_from_statement" ([plain kw, fld "module_name" moduleName, plain imp] ++ names)

/-- The dots of a relative import. -/
def importDots : Nat → P (List Child)
  | 0 => failure
  | n + 1 => do
    let l ← peek
    match l.kind with
    | .punct "." =>
      let d ← take l "." false
      let rest ← importDots n
      return plain d :: rest
    | .punct "..." =>
      let s ← source
      let a ← takeRaw (l.start + 1) "." false
      let _ := s
      let b ← takeRaw (l.start + 2) "." false
      let c ← takeRaw (l.start + 3) "." false
      let rest ← importDots n
      return plain a :: plain b :: plain c :: rest
    | _ => return []

/-- What follows `import` in a `from` statement: a star, or names, bare or in parentheses. -/
def importTail : Nat → P (List Child)
  | 0 => failure
  | n + 1 => do
    if ← atPunct "*" then return [plain (← node "wildcard_import" [plain (← punct "*")])]
    else if ← atPunct "(" then
      let o ← punct "("
      let names ← importList n
      let c ← punct ")"
      return [plain o] ++ names ++ [plain c]
    else importList n

/-- An expression statement: expressions, an assignment or an augmented assignment. -/
def expressionStatement : Nat → P Cst
  | 0 => failure
  | n + 1 => do
    let left ← expressions n
    match ← assignmentTail n left with
    | some a => node "expression_statement" [plain a]
    | none => node "expression_statement" left

/-- What follows the left side of an assignment, if one does: `=`, an annotation or a
compound operator, and the right side. -/
def assignmentTail : Nat → List Child → P (Option Cst)
  | 0, _ => failure
  | n + 1, left => do
    let l ← peek
    let targetsOf := fun (cs : List Child) => inField "left" (cs.map fun (f, c) => (f, toPattern 64 c))
    match l.kind with
    | .punct "=" =>
      let eq ← punct "="
      let right ← rightHandSide n
      return some (← node "assignment" (targetsOf left ++ [plain eq] ++ inField "right" right))
    | .punct ":" =>
      let colon ← punct ":"
      let t ← type n
      if ← atPunct "=" then
        let eq ← punct "="
        let right ← rightHandSide n
        return some (← node "assignment" (targetsOf left ++ [plain colon, fld "type" t, plain eq] ++
          inField "right" right))
      else return some (← node "assignment" (targetsOf left ++ [plain colon, fld "type" t]))
    | .punct op =>
      if augmentedOperators.contains op then
        let o ← punct op
        let right ← rightHandSide n
        return some (← node "augmented_assignment" (inField "left" left ++ [fld "operator" o] ++
          inField "right" right))
      else return none
    | .word =>
      let l2 ← peekAfter l
      if l2.kind == .punct "=" && !keywords.contains (← lexText l) && !(← newlineAhead) &&
          (← get).cost == 0 then
        let skipped ← take l "identifier" true
        let err := Cst.node "ERROR" true skipped.start skipped.stop [plain skipped]
        let eq ← punct "="
        let right ← rightHandSide n
        return some (← node "assignment" (targetsOf left ++ [plain err, plain eq] ++ inField "right" right))
      else return none
    | _ => return none

/-- The right side of an assignment: a yield, expressions, or another assignment. -/
def rightHandSide : Nat → P (List Child)
  | 0 => failure
  | n + 1 => do
    if ← atWord "yield" then return [plain (← yieldExpression n)]
    else
      let e ← expressions n
      match ← assignmentTail n e with
      | some a => return [plain a]
      | none => return e

end

/-! ## Modules and recovery -/

/-- A token as it stands in a stretch the parser could not place. -/
def looseToken (s : Source) (l : Lexeme) : Cst :=
  let a := s.offset l.start
  let b := s.offset l.stop
  match l.kind with
  | .word =>
    let (kind, named) := wordLeaf (s.slice l.start l.stop)
    .token kind named a b
  | .special k => .token k true a b
  | .punct p => .token p false a b
  | .quote _ => .token "string_start" true a b
  | .invalid => .node "ERROR" true a b []
  | _ => .token "" false a b

/-- The items of a line after the token taken back where its reading broke down:
expressions where they read, other tokens as they stand, up to the end of the logical
line. -/
def recoveredItems (fuel : Nat) : Nat → P (List Cst)
  | 0 => return []
  | k + 1 => do
    if (← atEof) || ((← get).depth == 0 && (← newlineAhead)) then return []
    else
      let l ← peek
      let s ← source
      let item ← match ← attempt (expression fuel) with
        | some e => pure e
        | none => take l "" false >>= fun _ => pure (looseToken s l)
      let rest ← recoveredItems fuel k
      return item :: rest

/-- Whether the reading being repaired is better mended by taking back the token `l`, the
one right before where it broke down on the same logical line, than by passing over the
token there: taking back costs no more. -/
def takesBack (start stop depth : Nat) : P Bool := do
  let e ← read
  let s := e.src
  match e.breakdown with
  | none => return false
  | some f =>
    let next := e.lexer.nextStart s stop
    if next != f || s.atEnd f then return false
    else if depth == 0 && lineBreakBetween s stop f then return false
    else
      let t := e.lexer.scan s f
      return passCost s start stop ≤ passCost s f t.stop

/-- The items of a line that could not be read: strings and keyword statements where
they read, calls after the token taken back where the reading broke down, other tokens as
they stand, up to the end of the logical line.  The token taken back stands in an error
node of its own. -/
def looseItems (fuel : Nat) : Nat → P (List Cst)
  | 0 => return []
  | k + 1 => do
    if (← atEof) || ((← get).depth == 0 && (← newlineAhead)) then return []
    else
      let l ← peek
      let s ← source
      let before ← get
      let statementKeyword ← atWords ["return", "pass", "break", "continue", "raise", "del", "assert",
        "global", "nonlocal", "import"]
      let item ← if statementKeyword then
          match ← attempt (simpleStatement fuel) with
          | some st => pure st
          | none => take l "" false >>= fun _ => pure (looseToken s l)
        else if l.kind matches .quote _ then
          match ← attempt (strings fuel) with
          | some st => pure st
          | none => take l "" false >>= fun _ => pure (looseToken s l)
        else take l "" false >>= fun _ => pure (looseToken s l)
      if ← takesBack l.start (← get).lastEnd before.depth then
        let item := match item with
          | .token _ _ a b => if l.kind == .word then Cst.token "identifier" true a b else item
          | other => other
        let err := Cst.node "ERROR" true item.start item.stop [plain item]
        let rest ← recoveredItems fuel k
        return err :: rest
      let rest ← looseItems fuel k
      return item :: rest

/-- The tokens of the lines after a line that could not be read that are indented deeper
than it: the error runs on through the block such a line would open, its words read as
names, unless the line ended with a colon that opens the block. -/
def indentedTokens (indent : Nat) (opened : Bool) : Nat → P (List Cst)
  | 0 => return []
  | k + 1 => do
    if ← atEof then return []
    else if (← newlineAhead) && (← nextIndent) ≤ indent then return []
    else
      let l ← peek
      let s ← source
      let _ ← take l "" false
      let leaf := if l.kind == .word && !opened then
          Cst.token "identifier" true (s.offset l.start) (s.offset l.stop)
        else looseToken s l
      let rest ← indentedTokens indent opened k
      return leaf :: rest

/-- Parameters, each followed by its comma, for as long as they read. -/
def parameterRun (fuel : Nat) : Nat → P (List Cst)
  | 0 => return []
  | k + 1 => do
    match ← attempt (parameter fuel true) with
    | some p =>
      if ← atPunct "," then
        let comma ← punct ","
        let rest ← parameterRun fuel k
        return p :: comma :: rest
      else return [p]
    | none => return []

/-- The start of a function definition whose parameters do not read: the keyword, the
name, the opening parenthesis and the parameters that read. -/
def definitionHead (fuel : Nat) : P (List Cst) := do
  let kw ← keyword "def"
  let name ← identifier fuel
  let o ← punct "("
  let ps ← parameterRun fuel ((← source).length + 1)
  return [kw, name, o] ++ ps

/-- An error node over a line that could not be read: the expression it starts with, if
one reads and the line does not start with a keyword, or the start of a function
definition, or the keyword of a print or exec statement, then the rest of the line, and
the lines indented deeper after it.  A `try`
with its block and no handler after it is an error node over the keyword, the colon
and the block. -/
def errorLine (fuel : Nat) : P Cst := do
  let indent ← nextIndent
  let l ← peek
  let unhandled ← if ← wordIs l "try" then
      attempt do
        let kw ← keyword "try"
        let colon ← punct ":"
        let body ← suite fuel indent
        if ← atWords ["except", "finally", "else"] then failure
        pure [kw, colon, body]
    else pure none
  if let some items := unhandled then
    return .node "ERROR" true l.start (items.getLast?.map Cst.stop |>.getD l.stop) (items.map plain)
  let lead ← if ← wordIs l "def" then attempt (definitionHead fuel)
    else if (← wordIs l "print") || (← wordIs l "exec") then
      pure (some [← take l (← lexText l) false])
    else if l.kind == .word && keywords.contains (← lexText l) then pure none
    else do
      let e ← attempt (expression fuel)
      pure (e.map fun x => [x])
  let rest ← looseItems fuel ((← source).length + 1)
  let line := lead.getD [] ++ rest
  let opened := match line.getLast? with
    | some t => t.kind == ":"
    | none => false
  let block ← indentedTokens indent opened ((← source).length + 1)
  let items := line ++ block
  match items.head?, items.getLast? with
  | some first, some last => return .node "ERROR" true first.start last.stop (items.map plain)
  | _, _ => failure

/-- A step read as it stands, or else mended where it now breaks down by passing over
one more token. -/
def onceMore {α : Type} (step : P α) : P α := do
  match ← attempt step with
  | some r => pure r
  | none =>
    let f ← brokeAt
    repairing f (recoverOne step looseToken)

/-- The statements of a module.  A line that does not read is tried again with one
missing token allowed or one token passed over, then with two tokens passed over, each
where the reading breaks down, and otherwise kept as an error node. -/
def moduleItems (fuel : Nat) : Nat → P (List Child)
  | 0 => return []
  | k + 1 => do
    if ← atEof then return []
    else
      let c ← get
      markStart
      match ← attempt (statementLine fuel 0) with
      | some items =>
        let rest ← moduleItems fuel k
        return items ++ rest
      | none =>
        let f ← brokeAt
        set { c with missing := 1 }
        let completed ← attempt <| repairing f do
          let items ← statementLine fuel 0
          pure (items, ← get)
        set { c with skips := 1 }
        let passed ← attempt <| repairing f do
          let items ← recoverOne (statementLine fuel 0) looseToken
          pure (items, ← get)
        set { c with skips := 1 }
        let popped ← attempt <| repairing f do
          let items ← recoverRun (statementLine fuel 0) looseToken true
          pure (items, ← get)
        let passed := cheaper passed popped
        let passedTwice ← if (cheaper completed passed).isSome then pure none
          else
            set { c with skips := 2 }
            attempt <| repairing f do
              let items ← recoverOne (onceMore (statementLine fuel 0)) looseToken
              pure (items, ← get)
        match cheaper (cheaper completed passed) passedTwice with
        | some (items, after) =>
          set { after with missing := 0, skips := 0, cost := 0 }
          let rest ← moduleItems fuel k
          return items ++ rest
        | none =>
          set c
          match ← attempt (repairing f (errorLine fuel)) with
          | some e =>
            let rest ← moduleItems fuel k
            return plain e :: rest
          | none =>
            let l ← peek
            let s ← source
            let _ ← take l "" false
            let rest ← moduleItems fuel k
            return plain (.node "ERROR" true (s.offset l.start) (s.offset l.stop) [plain (looseToken s l)]) :: rest

/-- Parse a whole Python source. -/
def parseModule (src : Source) : Cst :=
  let fuel := 40 * (src.length + 16)
  match (moduleItems fuel (src.length + 2)).run' { src, lexer, dialect := () } (Cursor.at 0) with
  | some (items, c) =>
    let (_, tail) := trivia src c.pos (src.length + 1)
    Cst.root "module" items (c.extras.toList ++ (Parser.commentLeaves lexer src tail).toList) src.bytes.size
  | none => Cst.root "module" [] [] src.bytes.size

end Python
end ShapeSearch
