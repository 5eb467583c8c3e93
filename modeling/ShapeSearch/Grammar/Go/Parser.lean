import ShapeSearch.Grammar.Go.Lexer
import ShapeSearch.Syntax.Parser

/-!
# The grammar of Go

A recursive-descent parser for Go that builds the concrete trees the searcher
matches against: the package clause, imports, declarations, statements,
expressions and types.

Statements end at a semicolon, which is a leaf of the tree, or at a line break,
which is not.  Within a statement a line break ends an expression only where the
statement could end; inside brackets it is a blank like any other.

Binary operators are parsed by precedence climbing over five levels: `||`, `&&`,
comparisons, additive operators and multiplicative operators.

In the header of an `if`, `for` or `switch` statement a type followed by a brace
is not read as a composite literal, so the brace opens the body.
-/

namespace ShapeSearch
namespace Go

open Syntax Parser

/-- Parsing steps of Go. -/
abbrev P := Parser Unit

/-- How an expression is read: whether composite literals are allowed, and whether a
line break ends it. -/
structure Mode where
  composite : Bool
  lineEnds : Bool

/-- Expressions of a statement: composite literals allowed, ended by a line break. -/
def Mode.statement : Mode := ⟨true, true⟩

/-- Expressions inside brackets: composite literals allowed, line breaks are blanks. -/
def Mode.nested : Mode := ⟨true, false⟩

/-- Expressions of a statement header: no composite literals. -/
def Mode.header : Mode := ⟨false, true⟩

/-- Words that are never identifiers. -/
def keywords : List String :=
  ["break", "case", "chan", "const", "continue", "default", "defer", "else", "fallthrough", "for",
   "func", "go", "goto", "if", "import", "interface", "map", "package", "range", "return", "select",
   "struct", "switch", "type", "var"]

/-- The binary operators with their levels; higher levels bind tighter. -/
def binaryLevel : String → Option Nat
  | "||" => some 1
  | "&&" => some 2
  | "==" | "!=" | "<" | "<=" | ">" | ">=" => some 3
  | "+" | "-" | "|" | "^" => some 4
  | "*" | "/" | "%" | "<<" | ">>" | "&" | "&^" => some 5
  | _ => none

/-- The assignment operators. -/
def assignmentOperators : List String :=
  ["=", "+=", "-=", "*=", "/=", "%=", "&=", "|=", "^=", "<<=", ">>=", "&^="]

/-- Whether a line break stands before the next token. -/
def newlineAhead : P Bool := do
  let c ← get
  return breakBetween (← source) c.lastEnd (← nextIndex)

/-- Whether the next token is a word that may be an identifier. -/
def atName : P Bool := do
  let l ← peek
  if l.kind == .word then return !keywords.contains (← lexText l) else return false

/-- Whether a statement ends here: a semicolon, a line break, a closing brace or
parenthesis, or the end of the source is next. -/
def atTerminator : P Bool := do
  return (← atPunct ";") || (← atPunct "\x00") || (← newlineAhead) || (← atPunct "\x7d") || (← atPunct ")") ||
    (← atEof)

/-- The end of a statement: a semicolon leaf, or nothing where a line break or a closing
bracket ends it. -/
def terminator : P (List Child) := do
  if ← atPunct ";" then return [plain (← punct ";")]
  else if ← atPunct "\x00" then return [plain (← take (← peek) "" false)]
  else if (← newlineAhead) || (← atPunct "\x7d") || (← atPunct ")") || (← atEof) then return []
  else failure

/-- A closing brace, or one reported missing while the allowance lasts; a line break
that ends the last statement is taken first, so the missing brace stands after it. -/
def closingBrace : P Cst := do
  if ← atPunct "\x7d" then punct "\x7d"
  else
    if ← newlineAhead then
      let s ← source
      commit (s.skipWhile (· != '\n') (← get).lastEnd + 1)
    missingHere "\x7d"

/-- A token as it stands in a stretch the parser could not place. -/
def looseToken (s : Source) (l : Lexeme) : Cst :=
  let a := s.offset l.start
  let b := s.offset l.stop
  match l.kind with
  | .word =>
    let w := s.slice l.start l.stop
    if keywords.contains w then .token w false a b else .token "identifier" true a b
  | .special k => .token k true a b
  | .punct p => .token (if p == "\x00" then "" else p) false a b
  | .quote _ => .token "\"" false a b
  | .backtick => .token "`" false a b
  | .invalid => .node "ERROR" true a b []
  | _ => .token "" false a b

/-- Whether a parameter item is a comma. -/
def isComma (item : List Child) : Bool :=
  match item with
  | [(none, c)] => c.kind == ","
  | _ => false

/-- Names and commas waiting for the type that follows them, as type-only parameters. -/
def flushPending (pending : List Child) : List Child :=
  pending.map fun (f, c) =>
    if c.kind == "," then (f, c)
    else plain (Cst.make "parameter_declaration" true [(some "type", .token "type_identifier" true c.start c.stop)] 0)

/-- Group parameters as written into declarations: names standing alone before a named
parameter are further names of its declaration; otherwise each stands as a type. -/
def groupParameters : List (List Child) → List Child → List Child
  | [], pending => flushPending pending
  | item :: rest, pending =>
    if isComma item then groupParameters rest (pending ++ item)
    else
      match item with
      | [(some "type", t)] =>
        if t.kind == "type_identifier" then
          groupParameters rest (pending ++ [(none, .token "identifier" true t.start t.stop)])
        else flushPending pending ++ plain (Cst.make "parameter_declaration" true item 0) :: groupParameters rest []
      | _ =>
        let (outside, names) := match pending with
          | (f, c) :: more => if c.kind == "," then ([(f, c)], more) else ([], pending)
          | [] => ([], [])
        let named := names.map fun (f, c) => if c.kind == "," then (f, c) else (some "name", c)
        let kind := if item.any (fun (f, _) => f == some "variadic") then "variadic_parameter_declaration"
          else "parameter_declaration"
        let item' := item.map fun (f, c) => if f == some "variadic" then (none, c) else (f, c)
        outside ++ plain (Cst.make kind true (named ++ item') 0) :: groupParameters rest []

/-- A case clause from its children.  When its last statement ends at a line break rather
than a semicolon, the clause reaches over that line break, which ends the statement. -/
def caseNode (kind : String) (body : List Child) (children : List Child) : P Cst := do
  let c ← node kind children
  match body.getLast? with
  | some (_, last) =>
    if last.kind == ";" then return c
    else
      let s ← source
      let j := s.skipWhile (fun x => x == ' ' || x == '\t' || x == '\r') (← get).lastEnd
      if s.get j == '\n' then
        match c with
        | .node k nm a _ cs => return .node k nm a (s.offset (j + 1)) cs
        | other => return other
      else return c
  | none => return c

/-- The alias and value of a type switch header read from a statement, when the statement
is one: an optional alias with `:=`, then the value with `.(type)`. -/
def typeSwitchParts (st : Cst) : Option (List Child) :=
  let guard (e : Cst) : Option (List Child) :=
    if e.kind == "type_assertion_expression" then
      match e.children with
      | [(_, v), d, o, (_, t), c] => if t.kind == "type" then some [fld "value" v, d, o, plain t, c] else none
      | _ => none
    else none
  match st.kind, st.children with
  | "expression_statement", [(_, e)] => guard e
  | "short_var_declaration", [(_, left), (_, op), (_, right)] =>
    match right.children with
    | [(_, e)] => (guard e).map fun g => fld "alias" left :: plain op :: g
    | _ => none
  | _, _ => none

/-- A statement of a `select` case that receives: an assignment or declaration of one
value, or an expression, read as a receive statement; a send stays as it is. -/
def asReceive (st : Cst) : Cst :=
  match st.kind, st.children with
  | "expression_statement", [(_, e)] => .node "receive_statement" true st.start st.stop [fld "right" e]
  | "short_var_declaration", [left, (_, op), (_, right)]
  | "assignment_statement", [left, (_, op), (_, right)] =>
    match right.children with
    | [(_, e)] => .node "receive_statement" true st.start st.stop [left, plain op, fld "right" e]
    | _ => st
  | _, _ => st

/-- The children of a selector read as a qualified type. -/
def qualifiedChildren : List Child → List Child
  | [] => []
  | (f, c) :: rest =>
    let c' := if f == some "operand" then Cst.token "package_identifier" true c.start c.stop
      else if f == some "field" then Cst.token "type_identifier" true c.start c.stop
      else c
    let f' := if f == some "operand" then some "package" else if f == some "field" then some "name" else f
    (f', c') :: qualifiedChildren rest

/-- Whether an operand is a name that may stand for a type. -/
def isTypeName (c : Cst) : Bool :=
  c.kind == "identifier" || c.kind == "selector_expression"

/-- Whether an operand can be read as the name of a type: an identifier, or a selector
of an identifier. -/
def namesType (c : Cst) : Bool :=
  c.kind == "identifier" ||
    (c.kind == "selector_expression" &&
      match c.children.head? with
      | some (_, ch) => ch.kind == "identifier"
      | none => false)

/-- An operand read as the name of a type: an identifier as a type identifier and a
selector as a qualified type. -/
def asTypeName (c : Cst) : Cst :=
  if c.kind == "identifier" then Cst.token "type_identifier" true c.start c.stop
  else if c.kind == "selector_expression" then
    Cst.node "qualified_type" true c.start c.stop (qualifiedChildren c.children)
  else c

/-- Whether a tree read where an operand stands is a type that is no expression: a slice,
array, map, channel, struct, interface or function type not followed by a literal. -/
def typeOnly (c : Cst) : Bool :=
  ["slice_type", "array_type", "implicit_length_array_type", "map_type", "channel_type",
    "struct_type", "interface_type", "function_type"].contains c.kind

mutual

-- ## Expressions

/-- Expressions separated by commas. -/
def expressionList : Nat → Mode → P Cst
  | 0, _ => failure
  | n + 1, m => do
    let items ← expressionItems n m
    node "expression_list" items

/-- The items of an expression list. -/
def expressionItems : Nat → Mode → P (List Child)
  | 0, _ => failure
  | n + 1, m => do
    let e ← expression n m
    if ← atPunct "," then
      let comma ← punct ","
      let rest ← expressionItems n m
      return plain e :: plain comma :: rest
    else return [plain e]

/-- An expression. -/
def expression : Nat → Mode → P Cst
  | 0, _ => failure
  | n + 1, m => binary n m 1

/-- Operands joined by binary operators of at least a level. -/
def binary : Nat → Mode → Nat → P Cst
  | 0, _, _ => failure
  | n + 1, m, minLevel => do
    let left ← unary n m
    binaryLoop n m minLevel left

/-- Extend a left operand with binary operators of at least a level. -/
def binaryLoop : Nat → Mode → Nat → Cst → P Cst
  | 0, _, _, _ => failure
  | n + 1, m, minLevel, left => do
    if m.lineEnds && (← newlineAhead) then return left
    else
      let l ← peek
      match l.kind with
      | .punct p =>
        match binaryLevel p with
        | some lv =>
          if lv < minLevel then return left
          else
            let o ← take l p false
            let right ← binary n m (lv + 1)
            let e ← node "binary_expression" [fld "left" left, fld "operator" o, fld "right" right]
            binaryLoop n m minLevel e
        | none => return left
      | _ => return left

/-- Prefix operators, or an operand with its suffixes. -/
def unary : Nat → Mode → P Cst
  | 0, _ => failure
  | n + 1, m => do
    let l ← peek
    match l.kind with
    | .punct "+" | .punct "-" | .punct "!" | .punct "^" | .punct "*" | .punct "&" | .punct "<-" =>
      let p ← lexText l
      let o ← take l p false
      let a ← unary n m
      node "unary_expression" [fld "operator" o, fld "operand" a]
    | _ =>
      let p ← primary n m
      suffixLoop n m p

/-- Extend an operand with selectors, indexing, slicing, type assertions and calls. -/
def suffixLoop : Nat → Mode → Cst → P Cst
  | 0, _, _ => failure
  | n + 1, m, base => do
    let l ← peek
    match l.kind with
    | .punct "." =>
      let dot ← punct "."
      if ← atPunct "(" then
        let o ← punct "("
        let t ← if ← atWord "type" then keyword "type" else type n
        let c ← punct ")"
        let e ← node "type_assertion_expression" [fld "operand" base, plain dot, plain o, fld "type" t, plain c]
        suffixLoop n m e
      else
        let l2 ← peek
        if l2.kind != .word then failure
        else
          let f ← take l2 "field_identifier" true
          let e ← node "selector_expression" [fld "operand" base, plain dot, fld "field" f]
          suffixLoop n m e
    | .punct "(" =>
      let args ← arguments n
      let e ← node "call_expression" [fld "function" base, fld "arguments" args]
      suffixLoop n m e
    | .punct "[" =>
      let before ← get
      let o ← punct "["
      match ← attempt (sliceRest n base o) with
      | some e => suffixLoop n m e
      | none =>
        let afterOpen ← get
        set before
        match ← attempt (typeArgumentsBeforeCall n) with
        | some ta =>
          let converted ← if namesType base then
              let ty ← node "generic_type" [fld "type" (asTypeName base), fld "type_arguments" ta]
              attempt (conversionRest n ty)
            else pure none
          match converted with
          | some e => suffixLoop n m e
          | none =>
            let args ← arguments n
            let e ← node "call_expression" [fld "function" base, fld "type_arguments" ta, fld "arguments" args]
            suffixLoop n m e
        | none =>
          set afterOpen
          let i ← expression n Mode.nested
          let several ← atPunct ","
          let c ← if several then pure o else punct "]"
          let literal := m.composite && (← atPunct "\x7b") && isTypeName base
          if several || literal then
            set before
            let ta ← typeArguments n
            let e ← node "generic_type" [fld "type" (asTypeName base), fld "type_arguments" ta]
            suffixLoop n m e
          else if typeOnly i && namesType base then
            let e ← node "type_instantiation_expression" [fld "type" (asTypeName base), plain o, plain i, plain c]
            suffixLoop n m e
          else
            let e ← node "index_expression" [fld "operand" base, plain o, fld "index" i, plain c]
            suffixLoop n m e
    | .punct "\x7b" =>
      if m.composite && (isTypeName base || base.kind == "generic_type") then
        let t := asTypeName base
        let body ← literalValue n
        let e ← node "composite_literal" [fld "type" t, fld "body" body]
        suffixLoop n m e
      else return base
    | _ => return base

/-- Type arguments followed by an opening parenthesis.  Brackets that hold types before
a call are read as type arguments rather than an index. -/
def typeArgumentsBeforeCall : Nat → P Cst
  | 0 => failure
  | n + 1 => do
    let ta ← typeArguments n
    if ← atPunct "(" then pure ta else failure

/-- A conversion to a generic type: one operand in parentheses, with an optional
trailing comma. -/
def conversionRest : Nat → Cst → P Cst
  | 0, _ => failure
  | n + 1, ty => do
    let o ← punct "("
    let e ← expression n Mode.nested
    let comma ← if ← atPunct "," then pure [plain (← punct ",")] else pure []
    let c ← punct ")"
    node "type_conversion_expression" ([fld "type" ty, plain o, fld "operand" e] ++ comma ++ [plain c])

/-- The rest of a slice expression after `[`, when a colon shows it is one. -/
def sliceRest : Nat → Cst → Cst → P Cst
  | 0, _, _ => failure
  | n + 1, base, o => do
    let start ← if ← atPunct ":" then pure [] else pure [fld "start" (← expression n Mode.nested)]
    let c1 ← punct ":"
    let stop ← if (← atPunct "]") || (← atPunct ":") then pure [] else pure [fld "end" (← expression n Mode.nested)]
    let cap ← if ← atPunct ":" then
        let c2 ← punct ":"
        let k ← expression n Mode.nested
        pure [plain c2, fld "capacity" k]
      else pure []
    let c ← punct "]"
    node "slice_expression" ([fld "operand" base, plain o] ++ start ++ [plain c1] ++ stop ++ cap ++ [plain c])

/-- Call arguments in parentheses. -/
def arguments : Nat → P Cst
  | 0 => failure
  | n + 1 => do
    let o ← punct "("
    let items ← argumentItems n
    let c ← punct ")"
    node "argument_list" ([plain o] ++ items ++ [plain c])

/-- The arguments of `new` and `make`: a type first, then expressions. -/
def typeFirstArguments : Nat → P Cst
  | 0 => failure
  | n + 1 => do
    let o ← punct "("
    let t ← type n
    let rest ← if ← atPunct "," then
        let comma ← punct ","
        pure (plain comma :: (← argumentItems n))
      else pure []
    let c ← punct ")"
    node "argument_list" ([plain o, plain t] ++ rest ++ [plain c])

/-- Arguments separated by commas; an expression followed by `...` is spread. -/
def argumentItems : Nat → P (List Child)
  | 0 => failure
  | n + 1 => do
    if ← atPunct ")" then return []
    else
      let e ← match ← attempt (expression n Mode.nested) with
        | some e =>
          if ← atPunct "..." then
            let dots ← punct "..."
            node "variadic_argument" [plain e, plain dots]
          else pure e
        | none => type n
      if ← atPunct "," then
        let comma ← punct ","
        let rest ← argumentItems n
        return plain e :: plain comma :: rest
      else return [plain e]

/-- Primary expressions: names, literals, function literals, composite literals with a
written type, and parenthesized expressions. -/
def primary : Nat → Mode → P Cst
  | 0, _ => failure
  | n + 1, _ => do
    let l ← peek
    match l.kind with
    | .word =>
      let w ← lexText l
      match w with
      | "nil" | "true" | "false" | "iota" => take l w true
      | "func" =>
        let f ← keyword "func"
        let ps ← parameterList n
        let result ← resultType n
        let body ← block n
        node "func_literal" ([plain f, fld "parameters" ps] ++ result ++ [fld "body" body])
      | "struct" | "map" | "chan" | "interface" =>
        let t ← type n
        if ← atPunct "\x7b" then
          let body ← literalValue n
          node "composite_literal" [fld "type" t, fld "body" body]
        else return t
      | "new" | "make" =>
        let f ← take l "identifier" true
        if ← atPunct "(" then
          let args ← typeFirstArguments n
          node "call_expression" [fld "function" f, fld "arguments" args]
        else return f
      | "range" => failure
      -- a keyword that no rule can take where an operand stands is read as a name there
      | _ => take l "identifier" true
    | .special k => take l k true
    | .quote _ => interpretedString n
    | .backtick => rawString n
    | .punct "(" =>
      let o ← punct "("
      let e ← expression n Mode.nested
      let c ← punct ")"
      node "parenthesized_expression" [plain o, plain e, plain c]
    | .punct "[" =>
      let t ← type n
      if ← atPunct "\x7b" then
        let body ← literalValue n
        node "composite_literal" [fld "type" t, fld "body" body]
      else return t
    | _ => missingLeaf "identifier"

/-- The body of a composite literal. -/
def literalValue : Nat → P Cst
  | 0 => failure
  | n + 1 => do
    let o ← punct "\x7b"
    let items ← literalItems n
    let c ← punct "\x7d"
    node "literal_value" ([plain o] ++ items ++ [plain c])

/-- The elements of a composite literal, keyed or not. -/
def literalItems : Nat → P (List Child)
  | 0 => failure
  | n + 1 => do
    if ← atPunct "\x7d" then return []
    else
      let first ← literalElement n
      let item ← if ← atPunct ":" then
          let colon ← punct ":"
          let second ← literalElement n
          node "keyed_element" [fld "key" first, plain colon, fld "value" second]
        else pure first
      if ← atPunct "," then
        let comma ← punct ","
        let rest ← literalItems n
        return plain item :: plain comma :: rest
      else return [plain item]

/-- One element of a composite literal: an expression or a nested literal value. -/
def literalElement : Nat → P Cst
  | 0 => failure
  | n + 1 => do
    let v ← if ← atPunct "\x7b" then literalValue n else expression n Mode.nested
    node "literal_element" [plain v]

/-- An interpreted string literal: its quotes, content and escape sequences. -/
def interpretedString : Nat → P Cst
  | 0 => failure
  | n + 1 => do
    let l ← peek
    let o ← take l "\"" false
    let parts ← stringParts n
    node "interpreted_string_literal" (plain o :: parts)

/-- The tokens after an escape that does not read, inside a string: read as tokens of
code, up to a quote, where the string goes on. -/
def tokensInString : Nat → P (List Cst)
  | 0 => failure
  | n + 1 => do
    let l ← peek
    match l.kind with
    | .eof => failure
    | .quote _ => commit l.start; return []
    | _ =>
      let _ ← take l "" false
      let t := looseToken (← source) l
      return t :: (← tokensInString n)

/-- The rest of an interpreted string after its opening quote.  An escape that does not
read is an error node, with the tokens after it up to where the string goes on. -/
def stringParts : Nat → P (List Child)
  | 0 => failure
  | n + 1 => do
    let s ← source
    let i ← pos
    let c := s.get i
    if s.atEnd i || c == '\n' then failure
    else if c == '"' then return [plain (← takeRaw (i + 1) "\"" false)]
    else if c == '\\' then
      let (j, whole) := Go.escapeScan s i
      if whole then
        let e ← takeRaw j "escape_sequence" true
        let rest ← stringParts n
        return plain e :: rest
      else
        let _ ← takeRaw j "" false
        let bad : Cst := .node "ERROR" true (s.offset i) (s.offset j) []
        let skipped ← tokensInString n
        let rest ← stringParts n
        return errorNode (bad :: skipped) ++ rest
    else
      let j := s.skipWhile (fun x => x != '"' && x != '\\' && x != '\n') i
      let f ← takeRaw j "interpreted_string_literal_content" true
      let rest ← stringParts n
      return plain f :: rest

/-- A raw string literal: its backquotes and content. -/
def rawString : Nat → P Cst
  | 0 => failure
  | _ + 1 => do
    let s ← source
    let l ← peek
    let close := s.skipWhile (· != '`') l.stop
    if s.atEnd close then failure
    else
      let o ← take l "`" false
      let content ← if close > l.stop then pure [plain (← takeRaw close "raw_string_literal_content" true)]
        else pure []
      let c ← takeRaw (close + 1) "`" false
      node "raw_string_literal" ([plain o] ++ content ++ [plain c])

-- ## Types

/-- A type. -/
def type : Nat → P Cst
  | 0 => failure
  | n + 1 => do
    let l ← peek
    match l.kind with
    | .punct "*" =>
      let star ← punct "*"
      let t ← type n
      node "pointer_type" [plain star, plain t]
    | .punct "(" =>
      let o ← punct "("
      let t ← type n
      let c ← punct ")"
      node "parenthesized_type" [plain o, plain t, plain c]
    | .punct "[" =>
      let o ← punct "["
      if ← atPunct "]" then
        let c ← punct "]"
        let el ← type n
        node "slice_type" [plain o, plain c, fld "element" el]
      else if ← atPunct "..." then
        let d ← punct "..."
        let c ← punct "]"
        let el ← type n
        node "implicit_length_array_type" [plain o, plain d, plain c, fld "element" el]
      else
        let len ← expression n Mode.nested
        let c ← punct "]"
        let el ← type n
        node "array_type" [plain o, fld "length" len, plain c, fld "element" el]
    | .punct "<-" =>
      let a ← punct "<-"
      let ch ← keyword "chan"
      let t ← type n
      node "channel_type" [plain a, plain ch, fld "value" t]
    | .word =>
      let w ← lexText l
      match w with
      | "map" =>
        let kw ← keyword "map"
        let o ← punct "["
        let k ← type n
        let c ← punct "]"
        let v ← type n
        node "map_type" [plain kw, plain o, fld "key" k, plain c, fld "value" v]
      | "chan" =>
        let kw ← keyword "chan"
        if ← atPunct "<-" then
          let a ← punct "<-"
          let t ← type n
          node "channel_type" [plain kw, plain a, fld "value" t]
        else
          let t ← type n
          node "channel_type" [plain kw, fld "value" t]
      | "func" =>
        let f ← keyword "func"
        let ps ← parameterList n
        let result ← resultType n
        node "function_type" ([plain f, fld "parameters" ps] ++ result)
      | "struct" =>
        let kw ← keyword "struct"
        let body ← fieldDeclarationList n
        node "struct_type" [plain kw, plain body]
      | "interface" =>
        let kw ← keyword "interface"
        let o ← punct "\x7b"
        let items ← interfaceItems n
        let c ← punct "\x7d"
        node "interface_type" ([plain kw, plain o] ++ items ++ [plain c])
      | _ =>
        if keywords.contains w then failure
        else
          let l2 ← peekAfter l
          let named ← if l2.kind == .punct "." then
              let pkg ← take l "package_identifier" true
              let dot ← punct "."
              let l3 ← peek
              if l3.kind != .word then failure
              else
                let name ← take l3 "type_identifier" true
                node "qualified_type" [fld "package" pkg, plain dot, fld "name" name]
            else take l "type_identifier" true
          if (← atPunct "[") && !(← newlineAhead) then
            match ← attempt (typeArguments n) with
            | some ta => node "generic_type" [fld "type" named, fld "type_arguments" ta]
            | none => return named
          else return named
    | _ => failure

/-- Type arguments in brackets. -/
def typeArguments : Nat → P Cst
  | 0 => failure
  | n + 1 => do
    let o ← punct "["
    let t ← typeElem n
    let items ← typeArgumentRest n [plain t]
    let c ← punct "]"
    node "type_arguments" ([plain o] ++ items ++ [plain c])

/-- The commas and type elements after the first type argument. -/
def typeArgumentRest : Nat → List Child → P (List Child)
  | 0, _ => failure
  | n + 1, acc => do
    if ← atPunct "," then
      let comma ← punct ","
      if ← atPunct "]" then return acc ++ [plain comma]
      else
        let t ← typeElem n
        typeArgumentRest n (acc ++ [plain comma, plain t])
    else return acc

/-- A type element: types joined by `|`. -/
def typeElem : Nat → P Cst
  | 0 => failure
  | n + 1 => do
    let first ← elemPart n
    let rest ← typeElemRest n
    node "type_elem" (plain first :: rest)

/-- One part of a type element: a type, or `~` and a type for the types whose underlying
type it is. -/
def elemPart : Nat → P Cst
  | 0 => failure
  | n + 1 => do
    if ← atPunct "~" then
      let t ← punct "~"
      let ty ← type n
      node "negated_type" [plain t, plain ty]
    else type n

/-- The `|` parts of a type element. -/
def typeElemRest : Nat → P (List Child)
  | 0 => failure
  | n + 1 => do
    if ← atPunct "|" then
      let bar ← punct "|"
      let t ← elemPart n
      let rest ← typeElemRest n
      return plain bar :: plain t :: rest
    else return []

/-- The result of a function: a parameter list or a type, if one follows. -/
def resultType : Nat → P (List Child)
  | 0 => failure
  | n + 1 => do
    if ← atPunct "(" then return [fld "result" (← parameterList n)]
    else if (← atPunct "\x7b") || (← atTerminator) || (← atPunct ",") || (← atPunct "]") then return []
    else
      match ← attempt (type n) with
      | some t => return [fld "result" t]
      | none => return []

/-- A parameter list in parentheses. -/
def parameterList : Nat → P Cst
  | 0 => failure
  | n + 1 => do
    let o ← punct "("
    let items ← parameterItems n
    let c ← punct ")"
    node "parameter_list" ([plain o] ++ groupParameters items [] ++ [plain c])

/-- Parameters as written, each as its children, with the commas between them. -/
def parameterItems : Nat → P (List (List Child))
  | 0 => failure
  | n + 1 => do
    if ← atPunct ")" then return []
    else
      let item ← parameterItem n
      if ← atPunct "," then
        let comma ← punct ","
        let rest ← parameterItems n
        return item :: [(none, comma)] :: rest
      else return [item]

/-- One parameter as written: a name and a type, a variadic parameter, or a type alone. -/
def parameterItem : Nat → P (List Child)
  | 0 => failure
  | n + 1 => do
    let l ← peek
    let l2 ← peekAfter l
    if l.kind == .punct "..." then
      let d ← punct "..."
      let t ← type n
      return [(some "variadic", d), fld "type" t]
    else if l.kind == .word && l2.kind == .punct "..." then
      let name ← take l "identifier" true
      let d ← punct "..."
      let t ← type n
      return [fld "name" name, (some "variadic", d), fld "type" t]
    else if l.kind == .word && !keywords.contains (← lexText l) &&
        !(l2.kind == .punct "," || l2.kind == .punct ")" || l2.kind == .punct ".") then
      let name ← take l "identifier" true
      let t ← type n
      return [fld "name" name, fld "type" t]
    else
      let t ← type n
      return [fld "type" t]

/-- The fields of a struct type in braces. -/
def fieldDeclarationList : Nat → P Cst
  | 0 => failure
  | n + 1 => do
    let o ← punct "\x7b"
    let items ← fieldDeclarations n
    let c ← punct "\x7d"
    node "field_declaration_list" ([plain o] ++ items ++ [plain c])

/-- Field declarations with their terminators. -/
def fieldDeclarations : Nat → P (List Child)
  | 0 => failure
  | n + 1 => do
    if ← atPunct "\x7d" then return []
    else
      let l ← peek
      let l2 ← peekAfter l
      let s ← source
      let head ← if l.kind == .word && (l2.kind == .word || l2.kind == .punct "," || l2.kind == .punct "*" ||
          l2.kind == .punct "[" || l2.kind == .punct "(" || l2.kind == .punct "<-") &&
          !breakBetween s l.stop l2.start then
          let names ← fieldNames n
          let t ← type n
          pure (names ++ [fld "type" t])
        else
          let star ← optPunct "*"
          let t ← type n
          pure (star ++ [fld "type" t])
      let tag ← match (← peek).kind with
        | .quote _ => pure [fld "tag" (← interpretedString n)]
        | .backtick => pure [fld "tag" (← rawString n)]
        | _ => pure []
      let fd ← node "field_declaration" (head ++ tag)
      let term ← terminator
      let rest ← fieldDeclarations n
      return plain fd :: term ++ rest

/-- Field names separated by commas. -/
def fieldNames : Nat → P (List Child)
  | 0 => failure
  | n + 1 => do
    let l ← peek
    let name ← take l "field_identifier" true
    if ← atPunct "," then
      let comma ← punct ","
      let rest ← fieldNames n
      return fld "name" name :: plain comma :: rest
    else return [fld "name" name]

/-- The elements of an interface type with their terminators. -/
def interfaceItems : Nat → P (List Child)
  | 0 => failure
  | n + 1 => do
    if ← atPunct "\x7d" then return []
    else
      let l ← peek
      let l2 ← peekAfter l
      let elem ← if l.kind == .word && l2.kind == .punct "(" then
          let name ← take l "field_identifier" true
          let ps ← parameterList n
          let result ← resultType n
          node "method_elem" ([fld "name" name, fld "parameters" ps] ++ result)
        else typeElem n
      let term ← terminator
      let rest ← interfaceItems n
      return plain elem :: term ++ rest

-- ## Statements

/-- A block of statements in braces. -/
def block : Nat → P Cst
  | 0 => failure
  | n + 1 => do
    let o ← punct "\x7b"
    let items ← statementList n
    let c ← closingBrace
    node "block" ([plain o] ++ items ++ [plain c])

/-- Statements with their terminators, up to a closing brace or a case label. -/
def statementList : Nat → P (List Child)
  | 0 => failure
  | n + 1 => do
    if (← atPunct "\x7d") || (← atEof) || (← atWords ["case", "default"]) then return []
    else if ← atPunct ";" then
      let semi ← punct ";"
      let rest ← statementList n
      return plain (.node "empty_statement" true semi.start semi.stop [plain semi]) :: rest
    else
      let st ← statement n
      let term ← terminator
      let rest ← statementList n
      return plain st :: term ++ rest

/-- One statement. -/
def statement : Nat → P Cst
  | 0 => failure
  | n + 1 => do
    let l ← peek
    if l.kind == .punct "\x7b" then block n
    else if l.kind != .word then simpleStatement n Mode.statement
    else
      let w ← lexText l
      let l2 ← peekAfter l
      match w with
      | "var" | "const" | "type" => declaration n
      | "return" =>
        let kw ← keyword "return"
        if ← atTerminator then node "return_statement" [plain kw]
        else
          let es ← expressionList n Mode.statement
          node "return_statement" [plain kw, plain es]
      | "go" | "defer" =>
        let kw ← keyword w
        let e ← expression n Mode.statement
        node (w ++ "_statement") [plain kw, plain e]
      | "if" => ifStatement n
      | "for" => forStatement n
      | "switch" => switchStatement n
      | "select" =>
        let kw ← keyword "select"
        let o ← punct "\x7b"
        let cases ← caseClauses n true
        let c ← punct "\x7d"
        node "select_statement" ([plain kw, plain o] ++ cases ++ [plain c])
      | "break" | "continue" | "goto" =>
        let kw ← keyword w
        if (← atName) && !(← newlineAhead) then
          let lb ← take (← peek) "label_name" true
          node (w ++ "_statement") [plain kw, plain lb]
        else node (w ++ "_statement") [plain kw]
      | "fallthrough" => node "fallthrough_statement" [plain (← keyword "fallthrough")]
      | _ =>
        if l2.kind == .punct ":" && !keywords.contains w then
          let lb ← take l "label_name" true
          let colon ← punct ":"
          if (← atPunct "\x7d") then node "labeled_statement" [fld "label" lb, plain colon]
          else
            let st ← statement n
            node "labeled_statement" [fld "label" lb, plain colon, plain st]
        else simpleStatement n Mode.statement

/-- A simple statement: an expression, a send, an increment or decrement, an assignment
or a short variable declaration. -/
def simpleStatement : Nat → Mode → P Cst
  | 0, _ => failure
  | n + 1, m => do
    let items ← expressionItems n m
    let l ← peek
    match l.kind with
    | .punct ":=" =>
      let left ← node "expression_list" items
      let op ← punct ":="
      let right ← expressionList n m
      node "short_var_declaration" [fld "left" left, plain op, fld "right" right]
    | .punct "++" =>
      match items with
      | [(_, e)] => node "inc_statement" [plain e, plain (← punct "++")]
      | _ => failure
    | .punct "--" =>
      match items with
      | [(_, e)] => node "dec_statement" [plain e, plain (← punct "--")]
      | _ => failure
    | .punct "<-" =>
      match items with
      | [(_, e)] =>
        let arrow ← punct "<-"
        let v ← expression n m
        node "send_statement" [fld "channel" e, plain arrow, fld "value" v]
      | _ => failure
    | .punct op =>
      if assignmentOperators.contains op && !(m.lineEnds && (← newlineAhead)) then
        let left ← node "expression_list" items
        let o ← punct op
        let right ← expressionList n m
        node "assignment_statement" [fld "left" left, fld "operator" o, fld "right" right]
      else
        match items with
        | [(_, e)] => node "expression_statement" [plain e]
        | _ => failure
    | _ =>
      match items with
      | [(_, e)] => node "expression_statement" [plain e]
      | _ => failure

/-- An `if` statement with its initializer and `else` branch. -/
def ifStatement : Nat → P Cst
  | 0 => failure
  | n + 1 => do
    let kw ← keyword "if"
    let first ← simpleStatement n Mode.header
    let (init, cond) ← if ← atPunct ";" then
        let semi ← punct ";"
        let c ← expression n Mode.header
        pure ([fld "initializer" first, plain semi], c)
      else
        match first.children with
        | [(_, e)] => if first.kind == "expression_statement" then pure ([], e) else failure
        | _ => failure
    let yes ← block n
    let alt ← if (← atWord "else") && !(← newlineAhead) then
        let e ← keyword "else"
        let b ← if ← atWord "if" then ifStatement n else block n
        pure [plain e, fld "alternative" b]
      else pure []
    node "if_statement" ([plain kw] ++ init ++ [fld "condition" cond, fld "consequence" yes] ++ alt)

/-- A `for` statement: a condition, a three-part clause or a range clause. -/
def forStatement : Nat → P Cst
  | 0 => failure
  | n + 1 => do
    let kw ← keyword "for"
    if ← atPunct "\x7b" then
      let body ← block n
      node "for_statement" [plain kw, fld "body" body]
    else if ← atWord "range" then
      let r ← keyword "range"
      let right ← expression n Mode.header
      let clause ← node "range_clause" [plain r, fld "right" right]
      let body ← block n
      node "for_statement" [plain kw, plain clause, fld "body" body]
    else
      let init ← if ← atPunct ";" then pure none else some <$> rangeOrSimple n
      match init with
      | some c =>
        if c.kind == "range_clause" then
          let body ← block n
          node "for_statement" [plain kw, plain c, fld "body" body]
        else if ← atPunct ";" then forClauseRest n kw [fld "initializer" c]
        else
          match c.children with
          | [(_, e)] =>
            if c.kind == "expression_statement" then
              let body ← block n
              node "for_statement" [plain kw, plain e, fld "body" body]
            else failure
          | _ => failure
      | none => forClauseRest n kw []

/-- The rest of a three-part `for` clause after its initializer. -/
def forClauseRest : Nat → Cst → List Child → P Cst
  | 0, _, _ => failure
  | n + 1, kw, init => do
    let s1 ← punct ";"
    let cond ← if ← atPunct ";" then pure [] else pure [fld "condition" (← expression n Mode.header)]
    let s2 ← if ← atPunct ";" then punct ";" else missingHere ";"
    let upd ← if ← atPunct "\x7b" then pure [] else pure [fld "update" (← simpleStatement n Mode.header)]
    let clause ← node "for_clause" (init ++ [plain s1] ++ cond ++ [plain s2] ++ upd)
    let body ← block n
    node "for_statement" [plain kw, plain clause, fld "body" body]

/-- A range clause with its left side, or a simple statement. -/
def rangeOrSimple : Nat → P Cst
  | 0 => failure
  | n + 1 => do
    match ← attempt (do
        let left ← expressionList n Mode.header
        let l ← peek
        let op ← match l.kind with
          | .punct "=" => punct "="
          | .punct ":=" => punct ":="
          | _ => failure
        let r ← keyword "range"
        let right ← expression n Mode.header
        node "range_clause" [fld "left" left, plain op, plain r, fld "right" right]) with
    | some c => return c
    | none => simpleStatement n Mode.header

/-- A `switch` statement on a value or on a type. -/
def switchStatement : Nat → P Cst
  | 0 => failure
  | n + 1 => do
    let kw ← keyword "switch"
    let (init, header) ← if ← atPunct "\x7b" then pure ([], none)
      else
        let first ← simpleStatement n Mode.header
        if ← atPunct ";" then
          let semi ← punct ";"
          if ← atPunct "\x7b" then pure ([fld "initializer" first, plain semi], none)
          else
            let second ← simpleStatement n Mode.header
            pure ([fld "initializer" first, plain semi], some second)
        else pure ([], some first)
    match header.bind typeSwitchParts with
    | some parts =>
      let o ← punct "\x7b"
      let cases ← typeCases n
      let c ← punct "\x7d"
      node "type_switch_statement" ([plain kw] ++ init ++ parts ++ [plain o] ++ cases ++ [plain c])
    | none =>
      let value ← match header with
        | none => pure []
        | some st =>
          match st.kind, st.children with
          | "expression_statement", [(_, e)] => pure [fld "value" e]
          | _, _ => failure
      let o ← punct "\x7b"
      let cases ← caseClauses n false
      let c ← punct "\x7d"
      node "expression_switch_statement" ([plain kw] ++ init ++ value ++ [plain o] ++ cases ++ [plain c])

/-- The clauses of a type switch: `case` with types, or `default`. -/
def typeCases : Nat → P (List Child)
  | 0 => failure
  | n + 1 => do
    if ← atWord "case" then
      let kw ← keyword "case"
      let types ← typeList n
      let colon ← punct ":"
      let body ← statementList n
      let clause ← caseNode "type_case" body ([plain kw] ++ inField "type" types ++ [plain colon] ++ body)
      let rest ← typeCases n
      return plain clause :: rest
    else if ← atWord "default" then
      let kw ← keyword "default"
      let colon ← punct ":"
      let body ← statementList n
      let clause ← caseNode "default_case" body ([plain kw, plain colon] ++ body)
      let rest ← typeCases n
      return plain clause :: rest
    else return []

/-- Types separated by commas. -/
def typeList : Nat → P (List Child)
  | 0 => failure
  | n + 1 => do
    let t ← type n
    if ← atPunct "," then
      let comma ← punct ","
      let rest ← typeList n
      return plain t :: plain comma :: rest
    else return [plain t]

/-- The case clauses of a `switch` or `select` statement. -/
def caseClauses : Nat → Bool → P (List Child)
  | 0, _ => failure
  | n + 1, communication => do
    if ← atWord "case" then
      let clause ← (do
        let kw ← keyword "case"
        if communication then
          let st ← simpleStatement n Mode.nested
          let st := asReceive st
          let colon ← punct ":"
          let body ← statementList n
          caseNode "communication_case" body ([plain kw, fld "communication" st, plain colon] ++ body)
        else
          let v ← expressionList n Mode.nested
          let colon ← punct ":"
          let body ← statementList n
          caseNode "expression_case" body ([plain kw, fld "value" v, plain colon] ++ body))
        <|> errorRun looseToken (interpretedString n) "\x7d"
      let rest ← caseClauses n communication
      return plain clause :: rest
    else if ← atWord "default" then
      let kw ← keyword "default"
      let colon ← punct ":"
      let body ← statementList n
      let clause ← caseNode "default_case" body ([plain kw, plain colon] ++ body)
      let rest ← caseClauses n communication
      return plain clause :: rest
    else return []

/-- A `var`, `const` or `type` declaration. -/
def declaration : Nat → P Cst
  | 0 => failure
  | n + 1 => do
    let l ← peek
    let w ← lexText l
    let kw ← keyword w
    if ← atPunct "(" then
      let o ← punct "("
      let specs ← specList n w
      let c ← punct ")"
      if w == "var" then
        let list ← node "var_spec_list" ([plain o] ++ specs ++ [plain c])
        node "var_declaration" [plain kw, plain list]
      else node (w ++ "_declaration") ([plain kw, plain o] ++ specs ++ [plain c])
    else
      let spec ← spec n w
      node (w ++ "_declaration") [plain kw, plain spec]

/-- Specifications with their terminators, up to a closing parenthesis. -/
def specList : Nat → String → P (List Child)
  | 0, _ => failure
  | n + 1, w => do
    if ← atPunct ")" then return []
    else
      let sp ← spec n w
      let term ← terminator
      let rest ← specList n w
      return plain sp :: term ++ rest

/-- One specification of a `var`, `const` or `type` declaration. -/
def spec : Nat → String → P Cst
  | 0, _ => failure
  | n + 1, w => do
    if w == "type" then
      let l ← peek
      let name ← take l "type_identifier" true
      let tps ← if (← atPunct "[") then
          match ← attempt (typeParameterList n) with
          | some tp => pure [fld "type_parameters" tp]
          | none => pure []
        else pure []
      if ← atPunct "=" then
        let eq ← punct "="
        let t ← type n
        node "type_alias" [fld "name" name, plain eq, fld "type" t]
      else
        let t ← type n
        node "type_spec" ([fld "name" name] ++ tps ++ [fld "type" t])
    else
      let names ← specNames n
      let names := if w == "const" then inField "name" names else names
      let ty ← if (← atPunct "=") || (← atTerminator) then pure [] else pure [fld "type" (← type n)]
      let value ← if ← atPunct "=" then
          let eq ← punct "="
          let v ← expressionList n Mode.statement
          pure [plain eq, fld "value" v]
        else pure []
      node (w ++ "_spec") (names ++ ty ++ value)

/-- Declared names separated by commas. -/
def specNames : Nat → P (List Child)
  | 0 => failure
  | n + 1 => do
    let l ← peek
    if !(← atName) then failure
    else
      let name ← take l "identifier" true
      if ← atPunct "," then
        let comma ← punct ","
        let rest ← specNames n
        return fld "name" name :: plain comma :: rest
      else return [fld "name" name]

/-- Type parameters in brackets. -/
def typeParameterList : Nat → P Cst
  | 0 => failure
  | n + 1 => do
    let o ← punct "["
    let items ← typeParameterItems n
    let c ← punct "]"
    node "type_parameter_list" ([plain o] ++ items ++ [plain c])

/-- Type parameter declarations separated by commas. -/
def typeParameterItems : Nat → P (List Child)
  | 0 => failure
  | n + 1 => do
    if ← atPunct "]" then return []
    else
      let names ← specNames n
      let constraint ← typeElem n
      let c ← node "type_constraint" (constraint.children)
      let decl ← node "type_parameter_declaration" (names ++ [fld "type" c])
      if ← atPunct "," then
        let comma ← punct ","
        let rest ← typeParameterItems n
        return plain decl :: plain comma :: rest
      else return [plain decl]

/-- A top-level declaration: a function, a method, an import or a declaration. -/
def topLevel : Nat → P Cst
  | 0 => failure
  | n + 1 => do
    let l ← peek
    let w ← lexText l
    match w with
    | "func" =>
      let l2 ← peekAfter l
      if l2.kind == .punct "(" then
        let method : P Cst := do
          let kw ← keyword "func"
          let recv ← parameterList n
          let l3 ← peek
          if l3.kind != .word then failure
          let name ← take l3 "field_identifier" true
          let ps ← parameterList n
          let result ← resultType n
          let body ← if ← atPunct "\x7b" then pure [fld "body" (← block n)] else pure []
          node "method_declaration" ([plain kw, fld "receiver" recv, fld "name" name, fld "parameters" ps] ++
            result ++ body)
        match ← attempt method with
        | some d => pure d
        | none => statement n
      else
        let kw ← keyword "func"
        if !(← atName) then failure
        else
          let name ← take (← peek) "identifier" true
          let tps ← if ← atPunct "[" then pure [fld "type_parameters" (← typeParameterList n)] else pure []
          let ps ← parameterList n
          let result ← resultType n
          let body ← if ← atPunct "\x7b" then pure [fld "body" (← block n)] else pure []
          node "function_declaration" ([plain kw, fld "name" name] ++ tps ++ [fld "parameters" ps] ++ result ++
            body)
    | "import" =>
      let kw ← keyword "import"
      if ← atPunct "(" then
        let o ← punct "("
        let specs ← importSpecs n
        let c ← punct ")"
        let list ← node "import_spec_list" ([plain o] ++ specs ++ [plain c])
        node "import_declaration" [plain kw, plain list]
      else
        let sp ← importSpec n
        node "import_declaration" [plain kw, plain sp]
    | "package" =>
      let kw ← keyword "package"
      let l2 ← peek
      if l2.kind != .word then failure
      else
        let name ← take l2 "package_identifier" true
        node "package_clause" [plain kw, plain name]
    | _ => statement n

/-- Import specifications with their terminators. -/
def importSpecs : Nat → P (List Child)
  | 0 => failure
  | n + 1 => do
    if ← atPunct ")" then return []
    else
      let sp ← importSpec n
      let term ← terminator
      let rest ← importSpecs n
      return plain sp :: term ++ rest

/-- One import: an optional name and the path. -/
def importSpec : Nat → P Cst
  | 0 => failure
  | n + 1 => do
    let l ← peek
    let name ← match l.kind with
      | .punct "." => pure [fld "name" (← node "dot" [plain (← punct ".")])]
      | .word =>
        let w ← lexText l
        if w == "_" then pure [fld "name" (← take l "blank_identifier" true)]
        else pure [fld "name" (← take l "package_identifier" true)]
      | _ => pure []
    let path ← match (← peek).kind with
      | .quote _ => interpretedString n
      | .backtick => rawString n
      | _ => failure
    node "import_spec" (name ++ [fld "path" path])

end

/-! ## Source files and recovery -/

/-- The items of a stretch that could not be read: expressions where they read, other
tokens as they stand, up to the end of the source. -/
def looseItems (fuel : Nat) : Nat → P (List Cst)
  | 0 => return []
  | k + 1 => do
    if ← atEof then return []
    else
      let l ← peek
      let s ← source
      let item ← if l.kind == .word && keywords.contains (s.slice l.start l.stop) then
          take l "" false >>= fun _ => pure (looseToken s l)
        else
          match ← attempt (expression fuel Mode.nested) with
          | some e => pure e
          | none => take l "" false >>= fun _ => pure (looseToken s l)
      let rest ← looseItems fuel k
      return item :: rest

/-- Whether a statement is a bare name.  At the end of a source the end itself is the
token read after a bare name, which no statement can take, while after other statements
the end of the source reads as a terminator. -/
def bareName : Cst → Bool
  | .node "expression_statement" _ _ _ [(_, .token "identifier" ..)] => true
  | _ => false

/-- Whether a declaration of variables or constants ends with the value of its last
specification.  At the end of a source the end itself does not read after such a value,
but the null terminator does, with no width. -/
def valueAtEnd (d : Cst) : Bool :=
  (d.kind == "var_declaration" || d.kind == "const_declaration") &&
    match d.children.getLast? with
    | some (_, spec) => (spec.kind == "var_spec" || spec.kind == "const_spec") &&
        match spec.children.getLast? with
        | some (fieldName, _) => fieldName == some "value"
        | none => false
    | none => false

/-- The terminator of a declaration or statement at the top level of a source: after a
bare name at the end of the source, one that is missing unless a line break stands
before the end; after the value of a declaration at the end of the source, the null
terminator with no width. -/
def topTerminator (d : Cst) : P (List Child) := do
  if bareName d && (← atEof) && !(← newlineAhead) then
    return [plain (← missingHere "\n")]
  else if valueAtEnd d && (← atEof) && !(← newlineAhead) then
    let e := (← source).bytes.size
    return [plain (.token "" false e e)]
  else terminator

/-- The declarations and statements of a source file with their terminators.  A
declaration that does not read is tried again with one missing token allowed, then
passing over one token, and otherwise the rest of the source is kept in an error node:
the trees a parse stack holds where the reading gave out, when only tokens that start
nothing follow, and the tokens as they stand otherwise.  A short rest of the source that
broke down at its end is kept so too, when that costs less than the repair. -/
def sourceItems (fuel : Nat) : Nat → P (List Child)
  | 0 => return []
  | k + 1 => do
    if ← atEof then return []
    else if ← atPunct ";" then
      let semi ← punct ";"
      let rest ← sourceItems fuel k
      return plain semi :: rest
    else
      let item : P (List Child) := do
        let d ← topLevel fuel
        let term ← topTerminator d
        pure (plain d :: term)
      let c ← get
      markStart
      match ← attempt item with
      | some items =>
        let rest ← sourceItems fuel k
        return items ++ rest
      | none =>
        let f ← brokeAt
        let s ← source
        set { c with missing := 1 }
        let completed ← attempt <| repairing f do
          let items ← item
          if (← get).pos ≤ c.pos then failure
          pure (items, ← get)
        let repaired ← match completed with
          | some r =>
            set { c with skips := 1 }
            let passed ← attempt <| repairing f do
              let items ← recoverAtBreakdown item looseToken
              pure (items, ← get)
            pure (cheaper (some r) passed)
          | none =>
            set { c with skips := 1 }
            let passed ← attempt <| repairing f do
              let items ← match ← attempt item with
                | some items => pure items
                | none => recoverOne item looseToken
              pure (items, ← get)
            set { c with skips := 1 }
            let run ← attempt <| repairing f do
              let items ← recoverRun item looseToken false
              pure (items, ← get)
            set { c with skips := 1 }
            let dropped ← attempt <| repairing f do
              let items ← recoverFromStart item looseToken
              pure (items, ← get)
            pure (cheaper (cheaper passed run) dropped)
        let g ← brokeAt
        let readings : List (P (List Child)) :=
          [item, do
            modify fun c' => { c' with skips := 1 }
            repairing f (recoverOne item looseToken)]
        let keepRest : P (List Cst) := do
          set c
          match ← wrapRest readings g looseToken with
          | some trees => pure trees
          | none => looseItems fuel (s.length + 1)
        match repaired with
        | some (items, after) =>
          let kept ← if s.length ≤ f then keepRest else pure []
          if !kept.isEmpty && wrapCost s kept < after.cost then return errorNode kept
          else
            set { after with missing := 0, skips := 0 }
            let rest ← sourceItems fuel k
            return items ++ rest
        | none => return errorNode (← keepRest)

/-- Parse a whole Go source. -/
def parseSourceFile (src : Source) : Cst :=
  let fuel := 40 * (src.length + 16)
  match (sourceItems fuel (src.length + 2)).run' { src, lexer, dialect := () } (Cursor.at 0) with
  | some (items, c) =>
    let (_, tail) := trivia src c.pos (src.length + 1)
    Cst.root "source_file" items (c.extras.toList ++ (Parser.commentLeaves lexer src tail).toList)
      src.bytes.size
  | none => Cst.root "source_file" [] [] src.bytes.size

end Go
end ShapeSearch
