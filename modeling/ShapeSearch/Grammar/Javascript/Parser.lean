import ShapeSearch.Grammar.Javascript.Cursor

/-!
# The grammar of the JavaScript family

A recursive-descent parser for JavaScript, TypeScript and TSX that builds the
concrete trees the searcher matches against: every keyword and punctuator is an
anonymous leaf, hidden rules leave no node of their own, and children carry the
fields the grammar gives them.

Binary operators are parsed by precedence climbing over the levels below, from
the loosest: `??`, `||`, `&&`, `|`, `^`, `&`, equality, relations (with `in`,
`instanceof` and the type operators `as` and `satisfies`), shifts, additive,
multiplicative, and `**`, which groups to the right.  Unary operators bind tighter
than all of them.

Every step takes a fuel argument that bounds the depth of the recursion; the
parse gives it an amount proportional to the length of the source.
-/

namespace ShapeSearch
namespace Javascript

open Syntax Parser P

/-- The character index just past the bracket closing the one at `i`, passing over
strings, templates and comments. -/
def closingBracket (s : Source) (i : Nat) (depth : Nat) (fuel : Nat) : Option Nat :=
  match fuel with
  | 0 => none
  | fuel + 1 =>
    if s.atEnd i then none
    else
      let c := s.get i
      if c == '(' || c == '[' || c == '\x7b' then closingBracket s (i + 1) (depth + 1) fuel
      else if c == ')' || c == ']' || c == '\x7d' then
        if depth ≤ 1 then some (i + 1) else closingBracket s (i + 1) (depth - 1) fuel
      else if c == '"' || c == '\'' || c == '`' then
        let j := s.skipWhile (fun d => d != c && d != '\n') (i + 1)
        closingBracket s (j + 1) depth fuel
      else if s.startsWith i "//" then
        closingBracket s (s.skipWhile (· != '\n') i) depth fuel
      else if s.startsWith i "/*" then closingBracket s (s.findText "*/" (i + 2) + 2) depth fuel
      else closingBracket s (i + 1) depth fuel

/-- The binary operators with their levels; higher levels bind tighter. -/
def binaryLevel : String → Option Nat
  | "??" => some 1
  | "||" => some 2
  | "&&" => some 3
  | "|" => some 4
  | "^" => some 5
  | "&" => some 6
  | "==" | "!=" | "===" | "!==" => some 7
  | "<" | ">" | "<=" | ">=" | "instanceof" | "in" => some 8
  | "<<" | ">>" | ">>>" => some 9
  | "+" | "-" => some 10
  | "*" | "/" | "%" => some 11
  | "**" => some 12
  | _ => none

/-- The compound assignment operators. -/
def augmentedOperators : List String :=
  ["+=", "-=", "*=", "/=", "%=", "^=", "&=", "|=", ">>=", ">>>=", "<<=", "**=", "&&=", "||=", "??="]

/-- The predefined types of TypeScript. -/
def predefinedTypes : List String :=
  ["any", "number", "boolean", "string", "symbol", "void", "unknown", "never", "object"]

/-- Rewrite the children of a node, failing if any child fails. -/
def mapChildren (g : Child → Option Child) (cs : List Child) : Option (List Child) :=
  cs.mapM g

/-- Turn an expression into the pattern it stands for on the left of `=`: arrays and
objects become array and object patterns, element by element. -/
def toPattern : Nat → Cst → Option Cst
  | 0, _ => none
  | fuel + 1, c =>
    let every : Child → Option Child := fun fc => (toPattern fuel fc.2).map fun y => (fc.1, y)
    let only (name : String) : Child → Option Child := fun fc =>
      if fc.1 == some name then (toPattern fuel fc.2).map fun y => (fc.1, y) else some fc
    match c with
    | .node "array" true s e cs => (mapChildren every cs).map (.node "array_pattern" true s e)
    | .node "object" true s e cs => (mapChildren every cs).map (.node "object_pattern" true s e)
    | .node "pair" true s e cs => (mapChildren (only "value") cs).map (.node "pair_pattern" true s e)
    | .node "assignment_expression" true s e cs =>
      (mapChildren (only "left") cs).map (.node "assignment_pattern" true s e)
    | .node "spread_element" true s e cs => (mapChildren every cs).map (.node "rest_pattern" true s e)
    | .token "shorthand_property_identifier" true s e =>
      some (.token "shorthand_property_identifier_pattern" true s e)
    | .node "method_definition" .. => none
    | other => some other

/-- Whether an expression may stand on the left of `=`. -/
def assignable (c : Cst) : Bool :=
  ["identifier", "member_expression", "subscript_expression", "parenthesized_expression",
   "array", "object", "undefined", "non_null_expression"].contains c.kind

mutual

-- ## Expressions

/-- An expression, or several joined by commas into a sequence. -/
def expressions : Nat → P (List Child)
  | 0 => failure
  | n + 1 => do
    let e ← expression n
    if ← atPunct "," then
      let rest ← sequenceRest n
      return [plain (Cst.make "sequence_expression" true (plain e :: rest) 0)]
    else return [plain e]

/-- The commas and expressions after the first of a sequence. -/
def sequenceRest : Nat → P (List Child)
  | 0 => failure
  | n + 1 => do
    if ← atPunct "," then
      let comma ← punct ","
      let e ← expression n
      let rest ← sequenceRest n
      return plain comma :: plain e :: rest
    else return []

/-- An expression: an arrow function, a `yield`, or a conditional expression with an
assignment after it.  An arrow function whose body is a block is complete at its closing
brace, so it may be called, accessed or used as an operand like any other operand. -/
def expression : Nat → P Cst
  | 0 => failure
  | n + 1 => do
    match ← attempt (arrowFunction n) with
    | some a =>
      match a.children.getLast? with
      | some (_, .node "statement_block" ..) =>
        let e ← suffixLoop n a true
        binaryLoop n 1 e
      | _ => return a
    | none =>
      if ← atWord "yield" then yieldExpression n
      else
        let left ← conditional n
        assignmentTail n left

/-- What may follow a complete left side: `=` or a compound assignment. -/
def assignmentTail : Nat → Cst → P Cst
  | 0, _ => failure
  | n + 1, left => do
    let l ← peek
    match l.kind with
    | .punct "=" =>
      if assignable left then
        match toPattern 64 left with
        | some target =>
          match ← attempt (do
              let eq ← punct "="
              let right ← expression n
              node "assignment_expression" [fld "left" target, plain eq, fld "right" right]) with
          | some a => return a
          | none => return left
        | none => return left
      else return left
    | .punct op =>
      if augmentedOperators.contains op && assignable left then
        match ← attempt (do
            let o ← punct op
            let right ← expression n
            node "augmented_assignment_expression" [fld "left" left, fld "operator" o, fld "right" right]) with
        | some a => return a
        | none => return left
      else return left
    | _ => return left

/-- `yield`, optionally delegating with `*`, and its operand. -/
def yieldExpression : Nat → P Cst
  | 0 => failure
  | n + 1 => do
    let y ← keyword "yield"
    if ← atPunct "*" then
      let star ← punct "*"
      let e ← expression n
      node "yield_expression" [plain y, plain star, plain e]
    else
      match ← attempt (expression n) with
      | some e => node "yield_expression" [plain y, plain e]
      | none => node "yield_expression" [plain y]

/-- A binary expression followed by `? :` branches, if there are any. -/
def conditional : Nat → P Cst
  | 0 => failure
  | n + 1 => do
    let c ← binary n 1
    if ← atPunct "?" then
      let q ← punct "?"
      let yes ← expression n
      let colon ← punct ":"
      let no ← expression n
      node "ternary_expression"
        [fld "condition" c, plain q, fld "consequence" yes, plain colon, fld "alternative" no]
    else return c

/-- The operator after an operand, with its level, if one follows. -/
def binaryOperator : Nat → P (Option (Lexeme × String × Nat))
  | 0 => failure
  | _ + 1 => do
    let l ← peek
    match l.kind with
    | .punct p =>
      match binaryLevel p with
      | some lv => return some (l, p, lv)
      | none => return none
    | .word =>
      let w ← lexText l
      if w == "in" || w == "instanceof" then return some (l, w, 8)
      else if (w == "as" || w == "satisfies") && (← typed) && !(← breakAhead) then
        return some (l, w, 8)
      else return none
    | _ => return none

/-- Operands joined by operators of at least a level. -/
def binary : Nat → Nat → P Cst
  | 0, _ => failure
  | n + 1, minLevel => do
    let left ← unary n
    binaryLoop n minLevel left

/-- Extend a left operand with operators of at least a level. -/
def binaryLoop : Nat → Nat → Cst → P Cst
  | 0, _, _ => failure
  | n + 1, minLevel, left => do
    match ← binaryOperator n with
    | some (l, op, lv) =>
      if lv < minLevel then return left
      else if op == "as" || op == "satisfies" then
        let kw ← take l op false
        let t ← if op == "as" && (← atWord "const") then keyword "const" else type n
        let e ← node (if op == "as" then "as_expression" else "satisfies_expression")
          [plain left, plain kw, plain t]
        binaryLoop n minLevel e
      else
        let o ← take l op false
        let right ← binary n (if op == "**" then lv else lv + 1)
        let e ← node "binary_expression" [fld "left" left, fld "operator" o, fld "right" right]
        binaryLoop n minLevel e
    | none => return left

/-- Prefix operators, `await`, type assertions, or an operand with its suffixed parts. -/
def unary : Nat → P Cst
  | 0 => failure
  | n + 1 => do
    let l ← peek
    match l.kind with
    | .punct "!" | .punct "~" | .punct "-" | .punct "+" =>
      let p ← lexText l
      let o ← take l p false
      let a ← unary n
      node "unary_expression" [fld "operator" o, fld "argument" a]
    | .punct "++" | .punct "--" =>
      let p ← lexText l
      let o ← take l p false
      let a ← unary n
      node "update_expression" [fld "operator" o, fld "argument" a]
    | .punct "<" =>
      if (← dialect) == .typescript then
        let lt ← punct "<"
        let t ← type n
        let gt ← punct ">"
        let e ← unary n
        node "type_assertion" [plain (← node "type_arguments" [plain lt, plain t, plain gt]), plain e]
      else suffixed n
    | .word =>
      let w ← lexText l
      if w == "typeof" || w == "void" || w == "delete" then
        let o ← take l w false
        let a ← unary n
        node "unary_expression" [fld "operator" o, fld "argument" a]
      else if w == "await" then
        let o ← take l w false
        let a ← unary n
        node "await_expression" [plain o, plain a]
      else suffixed n
    | _ => suffixed n

/-- An operand and its member accesses, calls, subscripts and suffixed operators. -/
def suffixed : Nat → P Cst
  | 0 => failure
  | n + 1 => do
    let base ← if ← atWord "new" then newExpression n else primary n
    suffixLoop n base true

/-- Extend an operand with member accesses, subscripts and, when allowed, calls. -/
def suffixLoop : Nat → Cst → Bool → P Cst
  | 0, _, _ => failure
  | n + 1, base, calls => do
    let l ← peek
    match l.kind with
    | .punct "." =>
      let dot ← punct "."
      let prop ← propertyName n
      let e ← node "member_expression" [fld "object" base, plain dot, fld "property" prop]
      suffixLoop n e calls
    | .punct "?." =>
      let q ← if ← typed then node "optional_chain" [plain (← take l "?." false)]
        else take l "optional_chain" true
      if ← atPunct "(" then
        if calls then
          let args ← arguments n
          let e ← node "call_expression"
            [fld "function" base, fld "optional_chain" q, fld "arguments" args]
          suffixLoop n e calls
        else failure
      else if ← atPunct "[" then
        let o ← punct "["
        let i ← expressions n
        let c ← punct "]"
        let e ← node "subscript_expression"
          ([fld "object" base, fld "optional_chain" q, plain o] ++ inField "index" i ++ [plain c])
        suffixLoop n e calls
      else
        let prop ← propertyName n
        let e ← node "member_expression" [fld "object" base, fld "optional_chain" q, fld "property" prop]
        suffixLoop n e calls
    | .punct "[" =>
      let o ← punct "["
      let i ← expressions n
      let c ← punct "]"
      let e ← node "subscript_expression" ([fld "object" base, plain o] ++ inField "index" i ++ [plain c])
      suffixLoop n e calls
    | .punct "(" =>
      if calls then
        let args ← arguments n
        let e ← node "call_expression" [fld "function" base, fld "arguments" args]
        suffixLoop n e calls
      else return base
    | .backtick =>
      if calls then
        let t ← templateString n
        let e ← node "call_expression" [fld "function" base, fld "arguments" t]
        suffixLoop n e calls
      else return base
    | .punct "++" | .punct "--" =>
      if ← breakAhead then return base
      else
        let p ← lexText l
        let o ← take l p false
        node "update_expression" [fld "argument" base, fld "operator" o]
    | .punct "!" =>
      if (← typed) && !(← breakAhead) then
        let bang ← punct "!"
        let e ← node "non_null_expression" [plain base, plain bang]
        suffixLoop n e calls
      else return base
    | .punct "<" =>
      if (← typed) && calls then
        match ← attempt (do
            let ta ← typeArguments n
            if ← atPunct "(" then
              let args ← arguments n
              node "call_expression" [fld "function" base, fld "type_arguments" ta, fld "arguments" args]
            else
              let l2 ← peek
              let ends := l2.kind == .eof || [";", ")", "]", "\x7d", ",", ":"].any (l2.kind == .punct ·)
              if ends || (← P.lineBreakEnds) then
                node "instantiation_expression" [plain base, fld "type_arguments" ta]
              else failure) with
        | some e => suffixLoop n e calls
        | none => return base
      else return base
    | _ => return base

/-- The name after a dot: any word as a property identifier, or a private name. -/
def propertyName : Nat → P Cst
  | 0 => failure
  | _ + 1 => do
    let l ← peek
    match l.kind with
    | .word => take l "property_identifier" true
    | .privateName => take l "private_property_identifier" true
    | _ => failure

/-- `new` with its constructor and arguments, or the `new.target` meta property. -/
def newExpression : Nat → P Cst
  | 0 => failure
  | n + 1 => do
    let nw ← keyword "new"
    if ← atPunct "." then
      let dot ← punct "."
      let t ← keyword "target"
      node "meta_property" [plain nw, plain dot, plain t]
    else
      let ctorBase ← if ← atWord "new" then newExpression n else primary n
      let ctor ← suffixLoop n ctorBase false
      let targs ← if (← typed) && (← atPunct "<") then
          match ← attempt (typeArguments n) with
          | some ta => pure [fld "type_arguments" ta]
          | none => pure []
        else pure []
      if ← atPunct "(" then
        let args ← arguments n
        node "new_expression" ([plain nw, fld "constructor" ctor] ++ targs ++ [fld "arguments" args])
      else node "new_expression" ([plain nw, fld "constructor" ctor] ++ targs)

/-- Call arguments in parentheses; holes are allowed between commas. -/
def arguments : Nat → P Cst
  | 0 => failure
  | n + 1 => do
    let o ← punct "("
    let items ← listItems n ")" 0
    let c ← punct ")"
    node "arguments" ([plain o] ++ items ++ [plain c])

/-- Items of an argument list or array up to a closing punctuator: expressions and spread
elements separated by commas, with holes. -/
def listItems : Nat → String → Nat → P (List Child)
  | 0, _, _ => failure
  | n + 1, close, _ => do
    if ← atPunct close then return []
    else if ← atPunct "," then
      let comma ← punct ","
      let rest ← listItems n close 0
      return plain comma :: rest
    else
      let item ← if ← atPunct "..." then spreadElement n else expression n
      if ← atPunct "," then
        let comma ← punct ","
        let rest ← listItems n close 0
        return plain item :: plain comma :: rest
      else return [plain item]

/-- `...` and an expression. -/
def spreadElement : Nat → P Cst
  | 0 => failure
  | n + 1 => do
    let d ← punct "..."
    let e ← expression n
    node "spread_element" [plain d, plain e]

/-- Put the named children of a comma-separated list into a field, leaving the commas
without one. -/
def namedInField (name : String) (cs : List Child) : List Child :=
  cs.map fun (f, c) => if c.kind == "," then (f, c) else (f.orElse fun _ => some name, c)

/-- Primary expressions: names, literals, brackets, functions, classes and JSX. -/
def primary : Nat → P Cst
  | 0 => failure
  | n + 1 => do
    let l ← peek
    match l.kind with
    | .word =>
      let w ← lexText l
      match w with
      | "function" => functionExpression n []
      | "async" =>
        let l2 ← peekAfter l
        if (← wordIs l2 "function") && !breakBefore (← source) l.stop l2.start then
          let a ← take l "async" false
          functionExpression n [plain a]
        else take l "identifier" true
      | "class" => classExpression n []
      | "this" => take l "this" true
      | "super" => take l "super" true
      | "true" => take l "true" true
      | "false" => take l "false" true
      | "null" => take l "null" true
      | "undefined" => take l "undefined" true
      | "import" =>
        let i ← take l "import" false
        if ← atPunct "." then
          let dot ← punct "."
          let m ← keyword "meta"
          node "meta_property" [plain i, plain dot, plain m]
        else node "import" [plain i]
      | _ =>
        if reservedWords.contains w then failure else take l "identifier" true
    | .number => take l "number" true
    | .quote q =>
      match ← attempt (stringLiteral n q) with
      | some str => return str
      | none => unclosedString n q
    | .backtick => templateString n
    | .punct "(" => parenthesized n
    | .punct "[" => array n
    | .punct "\x7b" => object n
    | .punct "/" | .punct "/=" => regex n
    | .punct "<" => if ← jsx then jsxElement n else failure
    | .punct "@" => do
      let ds ← decorators n
      classExpression n ds
    | .privateName => take l "private_property_identifier" true
    | _ => failure

/-- An expression in parentheses (with a type annotation in TypeScript). -/
def parenthesized : Nat → P Cst
  | 0 => failure
  | n + 1 => do
    let o ← punct "("
    let e ← expressions n
    let ann ← if (← typed) && (← atPunct ":") then pure [plain (← typeAnnotation n)] else pure []
    let c ← if ← atPunct ")" then punct ")" else missingHere ")"
    node "parenthesized_expression" ([plain o] ++ e ++ ann ++ [plain c])

/-- An array literal. -/
def array : Nat → P Cst
  | 0 => failure
  | n + 1 => do
    let o ← punct "["
    let items ← listItems n "]" 0
    let c ← if ← atPunct "]" then punct "]" else missingHere "]"
    node "array" ([plain o] ++ items ++ [plain c])

/-- An object literal. -/
def object : Nat → P Cst
  | 0 => failure
  | n + 1 => do
    let o ← punct "\x7b"
    let items ← objectItems n
    let c ← punct "\x7d"
    node "object" ([plain o] ++ items ++ [plain c])

/-- The members of an object literal, separated by commas. -/
def objectItems : Nat → P (List Child)
  | 0 => failure
  | n + 1 => do
    if ← atPunct "\x7d" then return []
    else if ← atPunct "," then
      let comma ← punct ","
      let rest ← objectItems n
      return plain comma :: rest
    else
      let item ← objectMember n
      if ← atPunct "," then
        let comma ← punct ","
        let rest ← objectItems n
        return plain item :: plain comma :: rest
      else return [plain item]

/-- One member of an object literal: a spread, a method, a pair or a shorthand name. -/
def objectMember : Nat → P Cst
  | 0 => failure
  | n + 1 => do
    if ← atPunct "..." then spreadElement n
    else
      match ← attempt (methodDefinition n []) with
      | some m => return m
      | none =>
        let l ← peek
        let l2 ← peekAfter l
        if l.kind == .word && (l2.kind == .punct "," || l2.kind == .punct "\x7d") then
          take l "shorthand_property_identifier" true
        else if l.kind == .word && l2.kind == .punct "=" then
          let left ← take l "shorthand_property_identifier_pattern" true
          let eq ← punct "="
          let right ← expression n
          node "object_assignment_pattern" [fld "left" left, plain eq, fld "right" right]
        else
          let key ← propertyKey n
          let colon ← punct ":"
          let value ← expression n
          node "pair" [fld "key" key, plain colon, fld "value" value]

/-- A property key: a name, a string, a number, a private name or a computed key. -/
def propertyKey : Nat → P Cst
  | 0 => failure
  | n + 1 => do
    let l ← peek
    match l.kind with
    | .word => take l "property_identifier" true
    | .privateName => take l "private_property_identifier" true
    | .quote q => stringLiteral n q
    | .number => take l "number" true
    | .punct "[" =>
      let o ← punct "["
      let e ← expression n
      let c ← punct "]"
      node "computed_property_name" [plain o, plain e, plain c]
    | _ => failure

/-- A quoted string: its quotes, unescaped fragments and escape sequences. -/
def stringLiteral : Nat → Char → P Cst
  | 0, _ => failure
  | n + 1, q => do
    let l ← peek
    let o ← take l (String.singleton q) false
    let parts ← stringParts n q
    node "string" (plain o :: parts)

/-- Statement keywords, which cannot start an expression. -/
def statementWords : List String :=
  ["var", "let", "const", "if", "for", "while", "do", "return", "throw", "try", "switch", "break",
   "continue"]

/-- Statement keywords as names, for as long as they come. -/
def statementWordRun : Nat → P (List Cst)
  | 0 => return []
  | n + 1 => do
    let l ← peek
    if l.kind == .word && statementWords.contains (← lexText l) then
      let t ← take l "identifier" true
      let rest ← statementWordRun n
      return t :: rest
    else return []

/-- In a repair, while the allowance lasts, a string left open at the end of its line:
its quote and text, with the statement keywords on the lines after it read as names, are
kept in an error node, and the expression after them stands in its place. -/
def unclosedString : Nat → Char → P Cst
  | 0, _ => failure
  | n + 1, q => do
    let c ← get
    if c.skips == 0 then failure
    let l ← peek
    let s ← source
    let o ← take l (String.singleton q) false
    let i ← pos
    let stop := s.skipWhile (fun ch => ch != '\n' && ch != '\r') i
    let text ← if stop > i then pure [← takeRaw stop "string_fragment" true] else pure []
    let words ← statementWordRun (s.length + 1)
    let items := o :: text ++ words
    let last := items.getLast?.getD o
    let err := Cst.node "ERROR" true o.start last.stop (items.map plain)
    let cost := passCost s l.start (← get).lastEnd + 100 * (items.length - 1)
    modify fun c' => { c' with skips := c'.skips - 1, cost := c'.cost + cost, extras := c'.extras.push err }
    primary n

/-- The tokens after a piece of a string that does not read: read as tokens of code, up
to the token that closes the string (`close`), where the string goes on. -/
def tokensInString : Nat → LexKind → P (List Cst)
  | 0, _ => failure
  | n + 1, close => do
    let l ← peek
    if l.kind == .eof then failure
    else if l.kind == close then
      commit l.start
      return []
    else
      let _ ← take l "" false
      return looseToken (← source) l :: (← tokensInString n close)

/-- The rest of a quoted string after its opening quote.  A piece that does not read, an
escape cut short or a null character, is an error node with the tokens after it up to
where the string goes on. -/
def stringParts : Nat → Char → P (List Child)
  | 0, _ => failure
  | n + 1, q => do
    let s ← source
    let i ← pos
    let c := s.get i
    if s.atEnd i || c == '\n' || c == '\r' then failure
    else if c == q then return [plain (← takeRaw (i + 1) (String.singleton q) false)]
    else if let some (j, whole) := stringSpecial s i then
      if whole then
        let e ← takeRaw j "escape_sequence" true
        let rest ← stringParts n q
        return plain e :: rest
      else
        let _ ← takeRaw j "" false
        let bad : Cst := .node "ERROR" true (s.offset i) (s.offset j) []
        let skipped ← tokensInString n (.quote q)
        let rest ← stringParts n q
        return errorNode (bad :: skipped) ++ rest
    else
      let f ← takeRaw (stringFragmentEnd s q i) "string_fragment" true
      let rest ← stringParts n q
      return plain f :: rest

/-- A template literal with its fragments, escapes and substitutions. -/
def templateString : Nat → P Cst
  | 0 => failure
  | n + 1 => do
    let l ← peek
    let o ← take l "`" false
    let parts ← templateParts n
    node "template_string" (plain o :: parts)

/-- The rest of a template literal after its opening backtick.  An escape cut short is an
error node with the tokens after it up to the closing backtick. -/
def templateParts : Nat → P (List Child)
  | 0 => failure
  | n + 1 => do
    let s ← source
    let i ← pos
    let c := s.get i
    if s.atEnd i then failure
    else if c == '`' then return [plain (← takeRaw (i + 1) "`" false)]
    else if c == '\\' then
      let (j, whole) := escapeScan s i
      if whole then
        let e ← takeRaw j "escape_sequence" true
        let rest ← templateParts n
        return plain e :: rest
      else
        let _ ← takeRaw j "" false
        let bad : Cst := .node "ERROR" true (s.offset i) (s.offset j) []
        let skipped ← tokensInString n .backtick
        let rest ← templateParts n
        return errorNode (bad :: skipped) ++ rest
    else if c == '$' && s.get (i + 1) == '\x7b' then
      let o ← takeRaw (i + 2) "$\x7b" false
      let e ← expressions n
      let c ← punct "\x7d"
      let sub ← node "template_substitution" ([plain o] ++ e ++ [plain c])
      let rest ← templateParts n
      return plain sub :: rest
    else
      let f ← takeRaw (templateCharsEnd s i s.length) "string_fragment" true
      let rest ← templateParts n
      return plain f :: rest

/-- A regular expression literal: its body and flags. -/
def regex : Nat → P Cst
  | 0 => failure
  | _ + 1 => do
    let s ← source
    let l ← peek
    match regexBodyEnd s (l.start + 1) false s.length with
    | some close =>
      if close == l.start + 1 then failure
      else
        let o ← take ⟨.punct "/", l.start, l.start + 1⟩ "/" false
        let body ← takeRaw close "regex_pattern" true
        let c ← takeRaw (close + 1) "/" false
        let flagsEnd := regexFlagsEnd s close
        if flagsEnd > close + 1 then
          let f ← takeRaw flagsEnd "regex_flags" true
          node "regex" [plain o, fld "pattern" body, plain c, fld "flags" f]
        else node "regex" [plain o, fld "pattern" body, plain c]
    | none => failure

-- ## Functions and classes

/-- The rest of what `typeof` names after its first name: property accesses, indexing
by a literal or a predefined type, calls, and finally type arguments. -/
def typeQueryTail : Nat → Cst → P Cst
  | 0, _ => failure
  | n + 1, base => do
    let l ← peek
    match l.kind with
    | .punct "." | .punct "?." =>
      let l2 ← peekAfter l
      if l2.kind == .punct "[" then
        let q ← punct "?."
        let o ← punct "["
        let i ← typeQueryIndex n
        let c ← punct "]"
        let e ← node "subscript_expression" [fld "object" base, plain q, plain o, fld "index" i, plain c]
        typeQueryTail n e
      else
        let dot ← take l (← lexText l) false
        let prop ← match l2.kind with
          | .word => take l2 "property_identifier" true
          | .privateName => take l2 "private_property_identifier" true
          | _ => failure
        let e ← node "member_expression" [fld "object" base, plain dot, fld "property" prop]
        typeQueryTail n e
    | .punct "[" =>
      match ← attempt (do
          let o ← punct "["
          let i ← typeQueryIndex n
          let c ← punct "]"
          pure (o, i, c)) with
      | some (o, i, c) =>
        let e ← node "subscript_expression" [fld "object" base, plain o, fld "index" i, plain c]
        typeQueryTail n e
      | none => return base
    | .punct "(" =>
      if base.kind == "call_expression" then return base
      else
        let args ← arguments n
        let e ← node "call_expression" [fld "function" base, fld "arguments" args]
        typeQueryTail n e
    | .punct "<" =>
      if base.kind == "call_expression" || base.kind == "this" then return base
      else
        match ← attempt (typeArguments n) with
        | some ta => node "instantiation_expression" [fld "function" base, fld "type_arguments" ta]
        | none => return base
    | _ => return base

/-- The index of a subscript after `typeof`: a predefined type, a string or a number. -/
def typeQueryIndex : Nat → P Cst
  | 0 => failure
  | n + 1 => do
    let l ← peek
    match l.kind with
    | .number => take l "number" true
    | .quote q => stringLiteral n q
    | .word =>
      let w ← lexText l
      if predefinedTypes.contains w then node "predefined_type" [plain (← take l w false)]
      else failure
    | _ => failure

/-- A function or generator expression after its leading `async`, if any. -/
def functionExpression : Nat → List Child → P Cst
  | 0, _ => failure
  | n + 1, pre => do
    let f ← keyword "function"
    let star ← optPunct "*"
    let name ← if (← peek).kind == .word && !(← atPunct "(") then
        pure [fld "name" (← identifier n)] else pure []
    let sig ← callSignature n
    let body ← statementBlock n
    node (if star.isEmpty then "function_expression" else "generator_function")
      (pre ++ [plain f] ++ star ++ name ++ sig ++ [fld "body" body])

/-- An identifier: a word that is not reserved. -/
def identifier : Nat → P Cst
  | 0 => failure
  | _ + 1 => do
    let l ← peek
    if l.kind != .word then failure
    else
      let w ← lexText l
      if reservedWords.contains w then failure else take l "identifier" true

/-- The parameters of a function, with type parameters and return type in TypeScript. -/
def callSignature : Nat → P (List Child)
  | 0 => failure
  | n + 1 => do
    let tps ← if (← typed) && (← atPunct "<") then pure [fld "type_parameters" (← typeParameters n)]
      else pure []
    let ps ← formalParameters n
    let rt ← if (← typed) && (← atPunct ":") then pure [fld "return_type" (← returnType n)]
      else pure []
    return tps ++ [fld "parameters" ps] ++ rt

/-- Formal parameters in parentheses. -/
def formalParameters : Nat → P Cst
  | 0 => failure
  | n + 1 => do
    let o ← punct "("
    let ps ← parameterItems n
    let c ← punct ")"
    node "formal_parameters" ([plain o] ++ ps ++ [plain c])

/-- Parameters separated by commas, with an optional trailing comma.  A colon left after
a parameter, with no type after it, stands in an error node of its own. -/
def parameterItems : Nat → P (List Child)
  | 0 => failure
  | n + 1 => do
    if ← atPunct ")" then return []
    else
      let p ← parameter n
      let stray ← if ← atPunct ":" then
          let colon ← punct ":"
          pure [plain (Cst.node "ERROR" true colon.start colon.stop [plain colon])]
        else pure []
      if ← atPunct "," then
        let comma ← punct ","
        let rest ← parameterItems n
        return plain p :: stray ++ plain comma :: rest
      else return plain p :: stray

/-- One formal parameter. -/
def parameter : Nat → P Cst
  | 0 => failure
  | n + 1 => do
    if ← typed then typedParameter n
    else
      let p ← pattern n
      if ← atPunct "=" then
        let eq ← punct "="
        let v ← expression n
        node "assignment_pattern" [fld "left" p, plain eq, fld "right" v]
      else return p

/-- A TypeScript parameter: modifiers, a pattern, `?`, a type and a default. -/
def typedParameter : Nat → P Cst
  | 0 => failure
  | n + 1 => do
    let ds ← decorators n
    let access ← if ← atWords ["public", "private", "protected"] then
        let l ← peek
        let w ← lexText l
        let l2 ← peekAfter l
        if l2.kind == .word || l2.kind == .punct "\x7b" || l2.kind == .punct "[" then
          pure [plain (← node "accessibility_modifier" [plain (← take l w false)])]
        else pure []
      else pure []
    let overrideMod ← if ← atWord "override" then
        let l2 ← peekAfter (← peek)
        if l2.kind == .word then pure [plain (← node "override_modifier" [plain (← keyword "override")])]
        else pure []
      else pure []
    let ro ← if ← atWord "readonly" then
        let l2 ← peekAfter (← peek)
        if l2.kind == .word || l2.kind == .punct "\x7b" || l2.kind == .punct "[" then
          pure [plain (← keyword "readonly")]
        else pure []
      else pure []
    let pat ← if ← atWord "this" then keyword "this" >>= fun t => pure (Cst.token "this" true t.start t.stop)
      else pattern n
    let q ← optPunct "?"
    let ty ← if ← atPunct ":" then
        match ← attempt <| typeAnnotation n with
        | some t => pure [fld "type" t]
        | none => pure []
      else pure []
    let init ← if ← atPunct "=" then
        let eq ← punct "="
        let v ← expression n
        pure [plain eq, fld "value" v]
      else pure []
    node (if q.isEmpty then "required_parameter" else "optional_parameter")
      (ds.map (fun d => fld "decorator" d) ++ access ++ overrideMod ++ ro ++ [fld "pattern" pat] ++ q ++ ty ++ init)

/-- A binding pattern: a name, a destructuring pattern or a rest pattern. -/
def pattern : Nat → P Cst
  | 0 => failure
  | n + 1 => do
    let l ← peek
    match l.kind with
    | .punct "..." =>
      let d ← punct "..."
      let p ← pattern n
      node "rest_pattern" [plain d, plain p]
    | .punct "\x7b" => objectPattern n
    | .punct "[" => arrayPattern n
    | _ =>
      let base ← primary n
      let e ← suffixLoop n base false
      if ["identifier", "member_expression", "subscript_expression", "undefined"].contains e.kind then
        return e
      else failure

/-- A destructuring object pattern. -/
def objectPattern : Nat → P Cst
  | 0 => failure
  | n + 1 => do
    let o ← punct "\x7b"
    let items ← objectPatternItems n
    let c ← punct "\x7d"
    node "object_pattern" ([plain o] ++ items ++ [plain c])

/-- The members of an object pattern. -/
def objectPatternItems : Nat → P (List Child)
  | 0 => failure
  | n + 1 => do
    if ← atPunct "\x7d" then return []
    else if ← atPunct "," then
      let comma ← punct ","
      let rest ← objectPatternItems n
      return plain comma :: rest
    else
      let item ← objectPatternMember n
      if ← atPunct "," then
        let comma ← punct ","
        let rest ← objectPatternItems n
        return plain item :: plain comma :: rest
      else return [plain item]

/-- One member of an object pattern. -/
def objectPatternMember : Nat → P Cst
  | 0 => failure
  | n + 1 => do
    let l ← peek
    let l2 ← peekAfter l
    if l.kind == .punct "..." then
      let d ← punct "..."
      let p ← pattern n
      node "rest_pattern" [plain d, plain p]
    else if l.kind == .word && (l2.kind == .punct "," || l2.kind == .punct "\x7d") then
      take l "shorthand_property_identifier_pattern" true
    else if l.kind == .word && l2.kind == .punct "=" then
      let left ← take l "shorthand_property_identifier_pattern" true
      let eq ← punct "="
      let right ← expression n
      node "object_assignment_pattern" [fld "left" left, plain eq, fld "right" right]
    else
      let key ← propertyKey n
      let colon ← punct ":"
      let v ← pattern n
      let v' ← if ← atPunct "=" then
          let eq ← punct "="
          let right ← expression n
          node "assignment_pattern" [fld "left" v, plain eq, fld "right" right]
        else pure v
      node "pair_pattern" [fld "key" key, plain colon, fld "value" v']

/-- A destructuring array pattern. -/
def arrayPattern : Nat → P Cst
  | 0 => failure
  | n + 1 => do
    let o ← punct "["
    let items ← arrayPatternItems n
    let c ← punct "]"
    node "array_pattern" ([plain o] ++ items ++ [plain c])

/-- The elements of an array pattern, with holes. -/
def arrayPatternItems : Nat → P (List Child)
  | 0 => failure
  | n + 1 => do
    if ← atPunct "]" then return []
    else if ← atPunct "," then
      let comma ← punct ","
      let rest ← arrayPatternItems n
      return plain comma :: rest
    else
      let p ← pattern n
      let item ← if ← atPunct "=" then
          let eq ← punct "="
          let right ← expression n
          node "assignment_pattern" [fld "left" p, plain eq, fld "right" right]
        else pure p
      if ← atPunct "," then
        let comma ← punct ","
        let rest ← arrayPatternItems n
        return plain item :: plain comma :: rest
      else return [plain item]

/-- An arrow function: parameters (a single name or a parenthesized list), `=>`, and a
body block or expression. -/
def arrowFunction : Nat → P Cst
  | 0 => failure
  | n + 1 => do
    let s ← source
    let l ← peek
    let asyncPart ← if ← wordIs l "async" then
        let l2 ← peekAfter l
        if (l2.kind == .word && !(breakBefore s l.stop l2.start)) || l2.kind == .punct "(" ||
            l2.kind == .punct "<" then
          pure [plain (← take l "async" false)]
        else pure []
      else pure []
    let l ← peek
    let params ← match l.kind with
      | .word =>
        let l2 ← peekAfter l
        if l2.kind == .punct "=>" then
          let w ← lexText l
          if reservedWords.contains w then failure
          else pure [fld "parameter" (← take l "identifier" true)]
        else failure
      | .punct "(" =>
        match closingBracket s l.start 0 s.length with
        | some close =>
          let after := scan s (nextStart s close)
          if after.kind == .punct "=>" || ((← typed) && after.kind == .punct ":") then callSignature n
          else failure
        | none => failure
      | .punct "<" => if ← typed then callSignature n else failure
      | _ => failure
    let arrow ← punct "=>"
    let body ← if ← atPunct "\x7b" then statementBlock n else expression n
    node "arrow_function" (asyncPart ++ params ++ [plain arrow, fld "body" body])

/-- Decorators: `@` and a name, member access or call. -/
def decorators : Nat → P (List Cst)
  | 0 => failure
  | n + 1 => do
    if ← atPunct "@" then
      let at_ ← punct "@"
      let base ← identifier n
      let e ← decoratorTail n base
      let d ← node "decorator" [plain at_, plain e]
      let rest ← decorators n
      return d :: rest
    else return []

/-- The member accesses and call after a decorator's name. -/
def decoratorTail : Nat → Cst → P Cst
  | 0, _ => failure
  | n + 1, base => do
    if ← atPunct "." then
      let dot ← punct "."
      let prop ← propertyName n
      let e ← node "member_expression" [fld "object" base, plain dot, fld "property" prop]
      decoratorTail n e
    else if ← atPunct "(" then
      let args ← arguments n
      node "call_expression" [fld "function" base, fld "arguments" args]
    else return base

/-- A class expression after its decorators. -/
def classExpression : Nat → List Cst → P Cst
  | 0, _ => failure
  | n + 1, ds => do
    let c ← keyword "class"
    let name ← if (← peek).kind == .word && !(← atWords ["extends", "implements"]) then
        pure [fld "name" (← className n)] else pure []
    let rest ← classRest n
    node "class" (ds.map (fld "decorator") ++ [plain c] ++ name ++ rest)

/-- A class name: an identifier, or a type identifier in TypeScript. -/
def className : Nat → P Cst
  | 0 => failure
  | n + 1 => do
    let i ← identifier n
    if ← typed then return .token "type_identifier" true i.start i.stop else return i

/-- What follows a class name: type parameters, heritage and the body. -/
def classRest : Nat → P (List Child)
  | 0 => failure
  | n + 1 => do
    let tps ← if (← typed) && (← atPunct "<") then pure [fld "type_parameters" (← typeParameters n)]
      else pure []
    let heritage ← if ← atWords ["extends", "implements"] then pure [plain (← classHeritage n)]
      else pure []
    let body ← classBody n
    return tps ++ heritage ++ [fld "body" body]

/-- `extends` and, in TypeScript, `implements` clauses. -/
def classHeritage : Nat → P Cst
  | 0 => failure
  | n + 1 => do
    if ← typed then
      let ext ← if ← atWord "extends" then
          let kw ← keyword "extends"
          let v ← leftHandSide n
          let ta ← if ← atPunct "<" then pure [fld "type_arguments" (← typeArguments n)] else pure []
          pure [plain (← node "extends_clause" ([plain kw, fld "value" v] ++ ta))]
        else pure []
      let impl ← if ← atWord "implements" then
          let kw ← keyword "implements"
          let ts ← typeList n
          pure [plain (← node "implements_clause" (plain kw :: ts))]
        else pure []
      node "class_heritage" (ext ++ impl)
    else
      let kw ← keyword "extends"
      let e ← leftHandSide n
      node "class_heritage" [plain kw, plain e]

/-- Types separated by commas. -/
def typeList : Nat → P (List Child)
  | 0 => failure
  | n + 1 => do
    let t ← type n
    if ← atPunct "," then
      let comma ← punct ","
      let rest ← typeList n
      return plain t :: plain comma :: rest
    else return [plain t]

/-- A member access or call chain, as after `extends`. -/
def leftHandSide : Nat → P Cst
  | 0 => failure
  | n + 1 => do
    let base ← if ← atWord "new" then newExpression n else primary n
    suffixLoop n base true

/-- The body of a class. -/
def classBody : Nat → P Cst
  | 0 => failure
  | n + 1 => do
    let o ← punct "\x7b"
    let members ← classMembers n
    let c ← expect "\x7d"
    node "class_body" ([plain o] ++ members ++ [plain c])

/-- The members of a class body. -/
def classMembers : Nat → P (List Child)
  | 0 => failure
  | n + 1 => do
    if (← atPunct "\x7d") || (← atEof) then return []
    else if ← atPunct ";" then
      let semi ← punct ";"
      let rest ← classMembers n
      return plain semi :: rest
    else
      let m ← classMember n
      let rest ← classMembers n
      return m ++ rest

/-- One member of a class body with the separator after it.  With types, the decorators
of a method stand in the class body before it. -/
def classMember : Nat → P (List Child)
  | 0 => failure
  | n + 1 => do
    let typedDialect ← typed
    let member := fun (c : Cst) => if typedDialect then plain c else fld "member" c
    if (← atWord "static") && (← peekAfter (← peek)).kind == .punct "\x7b" then
      let st ← keyword "static"
      let body ← statementBlock n
      return [member (← node "class_static_block" [plain st, fld "body" body])]
    else
      let ds ← decorators n
      match ← attempt (methodDefinition n (if typedDialect then [] else ds)) with
      | some m =>
        let semi ← optPunct ";"
        let lead := if typedDialect then ds.map (fld "decorator") else []
        return lead ++ member m :: semi
      | none =>
        let signature ← if typedDialect && ds.isEmpty then
            match ← attempt (methodSignature n) with
            | some m => pure (some m)
            | none => attempt (indexSignature n)
          else pure none
        let f ← match signature with
          | some m => pure m
          | none => fieldDefinition n ds
        let sep ← if ← atPunct "," then pure [plain (← punct ",")] else semicolon
        return member f :: sep

/-- A class field: modifiers, a name, a type and an initializer. -/
def fieldDefinition : Nat → List Cst → P Cst
  | 0, _ => failure
  | n + 1, ds => do
    if ← typed then
      let mods ← memberModifiers n
      let name ← propertyKey n
      let mark ← if ← atPunct "?" then optPunct "?" else optPunct "!"
      let ty ← if ← atPunct ":" then pure [fld "type" (← typeAnnotation n)] else pure []
      let init ← if ← atPunct "=" then
          let eq ← punct "="
          let v ← expression n
          pure [plain eq, fld "value" v]
        else pure []
      node "public_field_definition"
        (ds.map (fld "decorator") ++ mods ++ [fld "name" name] ++ mark ++ ty ++ init)
    else
      let after := (← peekAfter (← peek)).kind
      let st ← if (← atWord "static") && after != .punct "=" && after != .punct ";" &&
          after != .punct "\x7d" then
          optKeyword "static" else pure []
      let name ← propertyKey n
      let init ← if ← atPunct "=" then
          let eq ← punct "="
          let v ← expression n
          pure [plain eq, fld "value" v]
        else pure []
      node "field_definition" (ds.map (fld "decorator") ++ st ++ [fld "property" name] ++ init)

/-- The modifiers before a TypeScript class member name. -/
def memberModifiers : Nat → P (List Child)
  | 0 => failure
  | n + 1 => do
    let l ← peek
    if l.kind != .word then return []
    else
      let w ← lexText l
      let l2 ← peekAfter l
      let isName := l2.kind == .punct "(" || l2.kind == .punct "=" || l2.kind == .punct ":" ||
        l2.kind == .punct ";" || l2.kind == .punct "?" || l2.kind == .punct "!" ||
        l2.kind == .punct "<" || l2.kind == .punct "\x7d"
      if isName then return []
      else if w == "public" || w == "private" || w == "protected" then
        let m ← node "accessibility_modifier" [plain (← take l w false)]
        let rest ← memberModifiers n
        return plain m :: rest
      else if w == "override" then
        let m ← node "override_modifier" [plain (← take l w false)]
        let rest ← memberModifiers n
        return plain m :: rest
      else if ["static", "readonly", "abstract", "declare", "accessor", "async"].contains w then
        let m ← take l w false
        let rest ← memberModifiers n
        return plain m :: rest
      else return []

/-- A method: modifiers, `get`, `set` or `*`, a name, the signature and the body. -/
def methodDefinition : Nat → List Cst → P Cst
  | 0, _ => failure
  | n + 1, ds => do
    let mods ← if ← typed then memberModifiers n else jsMethodModifiers n
    let l ← peek
    let kindPart ← if l.kind == .punct "*" then pure [plain (← punct "*")]
      else if ← wordIs l "get" <||> wordIs l "set" then
        let l2 ← peekAfter l
        if l2.kind == .punct "(" || l2.kind == .punct "<" then pure []
        else pure [plain (← take l (← lexText l) false)]
      else pure []
    let name ← propertyKey n
    let q ← if ← typed then optPunct "?" else pure []
    let sig ← callSignature n
    let body ← statementBlock n
    node "method_definition" (ds.map (fld "decorator") ++ mods ++ kindPart ++ [fld "name" name] ++ q ++
      sig ++ [fld "body" body])

/-- A method without a body: modifiers, `get`, `set` or `*`, a name, `?` and the
signature; with `abstract` among the modifiers it is an abstract method. -/
def methodSignature : Nat → P Cst
  | 0 => failure
  | n + 1 => do
    let mods ← memberModifiers n
    let l ← peek
    let kindPart ← if l.kind == .punct "*" then pure [plain (← punct "*")]
      else if ← wordIs l "get" <||> wordIs l "set" then
        let l2 ← peekAfter l
        if l2.kind == .punct "(" || l2.kind == .punct "<" then pure []
        else pure [plain (← take l (← lexText l) false)]
      else pure []
    let name ← propertyKey n
    let q ← optPunct "?"
    if !((← atPunct "(") || (← atPunct "<")) then failure
    let sig ← callSignature n
    if ← atPunct "\x7b" then failure
    let isAbstract := mods.any fun (_, c) => c.kind == "abstract"
    node (if isAbstract then "abstract_method_signature" else "method_signature")
      (mods ++ kindPart ++ [fld "name" name] ++ q ++ sig)

/-- `static` and `async` before a JavaScript method name. -/
def jsMethodModifiers : Nat → P (List Child)
  | 0 => failure
  | n + 1 => do
    let l ← peek
    if l.kind != .word then return []
    else
      let w ← lexText l
      let l2 ← peekAfter l
      if l2.kind == .punct "(" then return []
      else if w == "static" then
        let m ← take l "static" false
        let rest ← jsMethodModifiers n
        return plain m :: rest
      else if w == "async" then
        let s ← source
        if breakBefore s l.stop l2.start then return []
        else
          let m ← take l "async" false
          return [plain m]
      else return []

-- ## Statements

/-- A block of statements in braces. -/
def statementBlock : Nat → P Cst
  | 0 => failure
  | n + 1 => do
    let o ← punct "\x7b"
    let body ← statements n
    let c ← expect "\x7d"
    node "statement_block" ([plain o] ++ body ++ [plain c])

/-- Statements up to a closing brace or the end. -/
def statements : Nat → P (List Child)
  | 0 => failure
  | n + 1 => do
    if (← atPunct "\x7d") || (← atEof) then return []
    else
      let s ← match ← attempt (statement n) with
        | some s => pure s
        | none => recoverOne (statement n) looseToken
      let rest ← statements n
      return s ++ rest

/-- One statement. -/
def statement : Nat → P (List Child)
  | 0 => failure
  | n + 1 => do
    let l ← peek
    match l.kind with
    | .punct "\x7b" => return [plain (← statementBlock n)]
    | .punct ";" => return [plain (← node "empty_statement" [plain (← punct ";")])]
    | .punct "@" =>
      let ds ← decorators n
      if ← atWord "export" then return [plain (← exportStatement n ds)]
      else return [plain (← classDeclaration n ds)]
    | .word =>
      let w ← lexText l
      let l2 ← peekAfter l
      if l2.kind == .punct ":" && !reservedWords.contains w then
        return [plain (← labeledStatement n)]
      else
        match ← wordStatement n w with
        | some s =>
          if s.kind == "internal_module" then
            match ← attempt semicolon with
            | some semi => return [plain (← node "expression_statement" (plain s :: semi))]
            | none => return [plain s]
          else return [plain s]
        | none => expressionStatement n
    | _ => expressionStatement n

/-- A statement introduced by a keyword, or `none` when the word starts an expression. -/
def wordStatement : Nat → String → P (Option Cst)
  | 0, _ => failure
  | n + 1, w => do
    let l ← peek
    let l2 ← peekAfter l
    let s ← source
    let sameLine := !breakBefore s l.stop l2.start
    match w with
    | "var" => return some (← variableDeclaration n)
    | "let" =>
      if l2.kind == .word || l2.kind == .punct "[" || l2.kind == .punct "\x7b" then
        return some (← lexicalDeclaration n)
      else return none
    | "const" =>
      if (← typed) && (← wordIs l2 "enum") then return some (← enumDeclaration n)
      else return some (← lexicalDeclaration n)
    | "function" =>
      let l3 ← peekAfter l2
      if l2.kind == .punct "(" || (l2.kind == .punct "*" && l3.kind == .punct "(") then return none
      else return some (← functionDeclaration n [])
    | "async" =>
      if (← wordIs l2 "function") && sameLine then
        let a ← keyword "async"
        return some (← functionDeclaration n [plain a])
      else return none
    | "class" =>
      if l2.kind == .punct "\x7b" || (← wordIs l2 "extends") then return none
      else return some (← classDeclaration n [])
    | "if" => return some (← ifStatement n)
    | "switch" => return some (← switchStatement n)
    | "for" => return some (← forStatement n)
    | "while" =>
      let kw ← keyword "while"
      let c ← parenthesized n
      let body ← statement n
      return some (← node "while_statement" ([plain kw, fld "condition" c] ++ inField "body" body))
    | "do" =>
      let kw ← keyword "do"
      let body ← statement n
      let wh ← keyword "while"
      let c ← parenthesized n
      let semi ← (semicolon <|> pure [])
      return some (← node "do_statement"
        (plain kw :: inField "body" body ++ [plain wh, fld "condition" c] ++ semi))
    | "try" => return some (← tryStatement n)
    | "with" =>
      let kw ← keyword "with"
      let o ← parenthesized n
      let body ← statement n
      return some (← node "with_statement" ([plain kw, fld "object" o] ++ inField "body" body))
    | "break" | "continue" =>
      let kw ← keyword w
      let label ← if (← peek).kind == .word && !(← P.lineBreakEnds) then
          let i ← identifier n
          pure [fld "label" (.token "statement_identifier" true i.start i.stop)]
        else pure []
      let semi ← semicolon
      return some (← node (w ++ "_statement") ([plain kw] ++ label ++ semi))
    | "return" =>
      let kw ← keyword "return"
      if (← atPunct ";") || (← P.lineBreakEnds) then
        return some (← node "return_statement" (plain kw :: (← semicolon)))
      else
        let e ← expressions n
        let semi ← semicolon
        return some (← node "return_statement" ([plain kw] ++ e ++ semi))
    | "throw" =>
      let kw ← keyword "throw"
      let e ← expressions n
      let semi ← semicolon
      return some (← node "throw_statement" ([plain kw] ++ e ++ semi))
    | "debugger" =>
      let kw ← keyword "debugger"
      let semi ← semicolon
      return some (← node "debugger_statement" (plain kw :: semi))
    | "import" =>
      if l2.kind == .punct "(" || l2.kind == .punct "." then return none
      else return some (← importStatement n)
    | "export" => return some (← exportStatement n [])
    | "interface" =>
      if (← typed) && l2.kind == .word && sameLine then return some (← interfaceDeclaration n)
      else return none
    | "type" =>
      if (← typed) && l2.kind == .word && sameLine then return some (← typeAliasDeclaration n)
      else return none
    | "enum" =>
      if (← typed) && l2.kind == .word then return some (← enumDeclaration n) else return none
    | "abstract" =>
      if (← typed) && (← wordIs l2 "class") then
        let a ← keyword "abstract"
        let c ← keyword "class"
        let name ← className n
        let rest ← classRest n
        return some (← node "abstract_class_declaration" ([plain a, plain c, fld "name" name] ++ rest))
      else return none
    | "declare" =>
      if (← typed) && (← wordIs l2 "global") && (← peekAfter l2).kind == .punct "\x7b" then
        let d ← keyword "declare"
        let g ← keyword "global"
        let body ← statementBlock n
        return some (← node "ambient_declaration" [plain d, plain g, plain body])
      else if (← typed) && (l2.kind == .word) && sameLine then
        let d ← keyword "declare"
        let decl ← declaration n
        return some (← node "ambient_declaration" [plain d, plain decl])
      else return none
    | "namespace" =>
      if (← typed) && (l2.kind == .word) && sameLine then
        let kw ← keyword "namespace"
        let rest ← moduleRest n
        return some (← node "internal_module" (plain kw :: rest))
      else return none
    | "module" =>
      if (← typed) && (l2.kind == .word || l2.kind == .quote '"' || l2.kind == .quote '\'') && sameLine then
        let kw ← keyword "module"
        let rest ← moduleRest n
        return some (← node "module" (plain kw :: rest))
      else return none
    | _ => return none

/-- A declaration, as after `declare` or `export`. -/
def declaration : Nat → P Cst
  | 0 => failure
  | n + 1 => do
    let l ← peek
    let w ← lexText l
    match ← wordStatement n w with
    | some d => return d
    | none => failure

/-- The name and body of a module or namespace. -/
def moduleRest : Nat → P (List Child)
  | 0 => failure
  | n + 1 => do
    let l ← peek
    let name ← match l.kind with
      | .quote q => stringLiteral n q
      | _ => nestedIdentifier n
    let body ← if ← atPunct "\x7b" then pure [fld "body" (← statementBlock n)] else pure []
    return fld "name" name :: body

/-- A dotted name. -/
def nestedIdentifier : Nat → P Cst
  | 0 => failure
  | n + 1 => do
    let first ← identifier n
    nestedIdentifierTail n first

/-- The dotted parts after the first name of a dotted name. -/
def nestedIdentifierTail : Nat → Cst → P Cst
  | 0, _ => failure
  | n + 1, left => do
    if ← atPunct "." then
      let dot ← punct "."
      let prop ← propertyName n
      let left' := if left.kind == "nested_identifier" then
          Cst.node "member_expression" true left.start left.stop left.children
        else left
      let e ← node "nested_identifier" [fld "object" left', plain dot, fld "property" prop]
      nestedIdentifierTail n e
    else return left

/-- A labeled statement. -/
def labeledStatement : Nat → P Cst
  | 0 => failure
  | n + 1 => do
    let l ← peek
    let label ← take l "statement_identifier" true
    let colon ← punct ":"
    let body ← statement n
    node "labeled_statement" ([fld "label" label, plain colon] ++ inField "body" body)

/-- An expression followed by the end of the statement. -/
def expressionStatement : Nat → P (List Child)
  | 0 => failure
  | n + 1 => do
    let e ← expressions n
    let semi ← semicolon
    return [plain (← node "expression_statement" (e ++ semi))]

/-- A statement that is its leading operand followed by a stretch of tokens that cannot
be placed, kept in an error node, up to a semicolon. -/
def strayStatement : Nat → P (List Child)
  | 0 => failure
  | n + 1 => do
    let e ← suffixed n
    let skipped ← strayTokens n
    match skipped with
    | [] => failure
    | first :: more =>
      let last := (first :: more).getLast (List.cons_ne_nil first more)
      let semi ← punct ";"
      let err := Cst.node "ERROR" true first.start last.stop ((first :: more).map plain)
      return [plain (← node "expression_statement" [plain e, plain err, plain semi])]

/-- Tokens up to a semicolon, none of them a brace, as loose tokens. -/
def strayTokens : Nat → P (List Cst)
  | 0 => failure
  | n + 1 => do
    let l ← peek
    match l.kind with
    | .punct ";" => return []
    | .eof | .punct "\x7b" | .punct "\x7d" => failure
    | _ =>
      let s ← source
      commit l.stop
      let rest ← strayTokens n
      return looseToken s l :: rest

/-- `var` and its declarators. -/
def variableDeclaration : Nat → P Cst
  | 0 => failure
  | n + 1 => do
    let kw ← keyword "var"
    let ds ← declarators n
    let semi ← semicolon
    node "variable_declaration" ([plain kw] ++ ds ++ semi)

/-- `let` or `const` and its declarators. -/
def lexicalDeclaration : Nat → P Cst
  | 0 => failure
  | n + 1 => do
    let l ← peek
    let kind ← take l (← lexText l) false
    let ds ← declarators n
    let semi ← semicolon
    node "lexical_declaration" ([fld "kind" kind] ++ ds ++ semi)

/-- Declarators separated by commas. -/
def declarators : Nat → P (List Child)
  | 0 => failure
  | n + 1 => do
    let d ← variableDeclarator n
    if ← atPunct "," then
      let comma ← punct ","
      let rest ← declarators n
      return plain d :: plain comma :: rest
    else return [plain d]

/-- A declared name or pattern with its type and initializer. -/
def variableDeclarator : Nat → P Cst
  | 0 => failure
  | n + 1 => do
    let name ← bindingName n
    let bang ← if ← typed then optPunct "!" else pure []
    let ty ← if (← typed) && (← atPunct ":") then pure [fld "type" (← typeAnnotation n)] else pure []
    let init ← if ← atPunct "=" then
        let eq ← punct "="
        let v ← expression n
        pure [plain eq, fld "value" v]
      else pure []
    node "variable_declarator" ([fld "name" name] ++ bang ++ ty ++ init)

/-- A declared name: an identifier or a destructuring pattern. -/
def bindingName : Nat → P Cst
  | 0 => failure
  | n + 1 => do
    let l ← peek
    match l.kind with
    | .punct "\x7b" => objectPattern n
    | .punct "[" => arrayPattern n
    | _ => identifier n

/-- A function or generator declaration. -/
def functionDeclaration : Nat → List Child → P Cst
  | 0, _ => failure
  | n + 1, pre => do
    let f ← keyword "function"
    let star ← optPunct "*"
    let name ← identifier n
    let sig ← callSignature n
    if (← typed) && !(← atPunct "\x7b") then
      let semi ← semicolon
      node "function_signature" (pre ++ [plain f] ++ star ++ [fld "name" name] ++ sig ++ semi)
    else
      let body ← statementBlock n
      node (if star.isEmpty then "function_declaration" else "generator_function_declaration")
        (pre ++ [plain f] ++ star ++ [fld "name" name] ++ sig ++ [fld "body" body])

/-- A class declaration after its decorators. -/
def classDeclaration : Nat → List Cst → P Cst
  | 0, _ => failure
  | n + 1, ds => do
    let c ← keyword "class"
    let name ← className n
    let rest ← classRest n
    node "class_declaration" (ds.map (fld "decorator") ++ [plain c, fld "name" name] ++ rest)

/-- An `if` statement with its optional `else` clause. -/
def ifStatement : Nat → P Cst
  | 0 => failure
  | n + 1 => do
    let kw ← keyword "if"
    let c ← parenthesized n
    let yes ← statement n
    let alt ← if ← atWord "else" then
        let e ← keyword "else"
        let s ← statement n
        pure [fld "alternative" (← node "else_clause" (plain e :: s))]
      else pure []
    node "if_statement" ([plain kw, fld "condition" c] ++ inField "consequence" yes ++ alt)

/-- A `switch` statement. -/
def switchStatement : Nat → P Cst
  | 0 => failure
  | n + 1 => do
    let kw ← keyword "switch"
    let v ← parenthesized n
    let o ← punct "\x7b"
    let cases ← switchCases n
    let c ← punct "\x7d"
    let body ← node "switch_body" ([plain o] ++ cases ++ [plain c])
    node "switch_statement" [plain kw, fld "value" v, fld "body" body]

/-- The cases of a `switch` body. -/
def switchCases : Nat → P (List Child)
  | 0 => failure
  | n + 1 => do
    if ← atWord "case" then
      let kw ← keyword "case"
      let v ← expressions n
      let colon ← punct ":"
      let body ← caseBody n
      let c ← node "switch_case" ([plain kw] ++ inField "value" v ++ [plain colon] ++ inField "body" body)
      let rest ← switchCases n
      return plain c :: rest
    else if ← atWord "default" then
      let kw ← keyword "default"
      let colon ← punct ":"
      let body ← caseBody n
      let c ← node "switch_default" ([plain kw, plain colon] ++ inField "body" body)
      let rest ← switchCases n
      return plain c :: rest
    else return []

/-- The statements of one case, up to the next case or the end of the body. -/
def caseBody : Nat → P (List Child)
  | 0 => failure
  | n + 1 => do
    if (← atWords ["case", "default"]) || (← atPunct "\x7d") || (← atEof) then return []
    else
      let s ← statement n
      let rest ← caseBody n
      return s ++ rest

/-- A `for`, `for in`, `for of` or `for await` statement. -/
def forStatement : Nat → P Cst
  | 0 => failure
  | n + 1 => do
    let kw ← keyword "for"
    let aw ← optKeyword "await"
    match ← attempt (forInHeader n) with
    | some header =>
      let body ← statement n
      node "for_in_statement" ([plain kw] ++ aw ++ header ++ inField "body" body)
    | none =>
      let o ← punct "("
      let init ← if ← atPunct ";" then
          pure [fld "initializer" (← node "empty_statement" [plain (← punct ";")])]
        else if ← atWord "var" then pure [fld "initializer" (← variableDeclaration n)]
        else if (← atWords ["let", "const"]) then pure [fld "initializer" (← lexicalDeclaration n)]
        else
          let e ← expressions n
          let semi ← punct ";"
          pure (inField "initializer" e ++ [plain semi])
      let cond ← if ← atPunct ";" then
          pure [fld "condition" (← node "empty_statement" [plain (← punct ";")])]
        else
          let e ← expressions n
          let semi ← punct ";"
          pure (inField "condition" (e ++ [plain semi]))
      let incr ← if ← atPunct ")" then pure [] else inField "increment" <$> expressions n
      let c ← punct ")"
      let body ← statement n
      node "for_statement" ([plain kw, plain o] ++ init ++ cond ++ incr ++ [plain c] ++ inField "body" body)

/-- The header of a `for in` or `for of` loop, parentheses included. -/
def forInHeader : Nat → P (List Child)
  | 0 => failure
  | n + 1 => do
    let o ← punct "("
    let left ← if ← atWords ["var", "let", "const"] then
        let l ← peek
        let kind ← take l (← lexText l) false
        let name ← bindingName n
        pure [fld "kind" kind, fld "left" name]
      else
        let e ← leftHandSide n
        pure [fld "left" e]
    let l ← peek
    let w ← lexText l
    if l.kind == .word && (w == "in" || w == "of") then
      let op ← take l w false
      let right ← expressions n
      let c ← punct ")"
      return [plain o] ++ left ++ [fld "operator" op] ++ inField "right" right ++ [plain c]
    else failure

/-- A `try` statement with its handler and finalizer. -/
def tryStatement : Nat → P Cst
  | 0 => failure
  | n + 1 => do
    let kw ← keyword "try"
    let body ← statementBlock n
    let handler ← if ← atWord "catch" then
        let c ← keyword "catch"
        let param ← if ← atPunct "(" then
            let o ← punct "("
            let p ← bindingName n
            let ty ← if (← typed) && (← atPunct ":") then pure [fld "type" (← typeAnnotation n)]
              else pure []
            let cl ← punct ")"
            pure ([plain o, fld "parameter" p] ++ ty ++ [plain cl])
          else pure []
        let b ← statementBlock n
        pure [fld "handler" (← node "catch_clause" ([plain c] ++ param ++ [fld "body" b]))]
      else pure []
    let fin ← if ← atWord "finally" then
        let f ← keyword "finally"
        let b ← statementBlock n
        pure [fld "finalizer" (← node "finally_clause" [plain f, fld "body" b])]
      else pure []
    node "try_statement" ([plain kw, fld "body" body] ++ handler ++ fin)

/-- An `import` statement. -/
def importStatement : Nat → P Cst
  | 0 => failure
  | n + 1 => do
    let kw ← keyword "import"
    let l ← peek
    match l.kind with
    | .quote q =>
      let src ← stringLiteral n q
      let semi ← semicolon
      node "import_statement" ([plain kw, fld "source" src] ++ semi)
    | _ =>
      let typeKw ← if (← typed) && (← atWord "type") && (← peekAfter (← peek)).kind != .punct "," &&
          !(← wordIs (← peekAfter (← peek)) "from") then optKeyword "type" else pure []
      if (← typed) && (← peek).kind == .word && (← peekAfter (← peek)).kind == .punct "=" then
        let name ← identifier n
        let eq ← punct "="
        let value ← if ← atWord "require" then
            let r ← keyword "require"
            let o ← punct "("
            let l2 ← peek
            match l2.kind with
            | .quote q =>
              let s ← stringLiteral n q
              let c ← punct ")"
              node "import_require_clause" [plain r, plain o, fld "source" s, plain c]
            | _ => failure
          else nestedIdentifier n
        let semi ← semicolon
        if value.kind == "import_require_clause" then
          let clause := Cst.make "import_require_clause" true (plain name :: plain eq :: value.children) 0
          node "import_statement" ([plain kw] ++ typeKw ++ [plain clause] ++ semi)
        else node "import_alias" ([plain kw, plain name, plain eq, plain value] ++ semi)
      else
        let clause ← importClause n
        let fromKw ← keyword "from"
        let l2 ← peek
        let src ← match l2.kind with
          | .quote q => stringLiteral n q
          | _ => failure
        let attr ← if ← atWord "with" then
            let w ← keyword "with"
            let o ← object n
            pure [plain (← node "import_attribute" [plain w, plain o])]
          else pure []
        let semi ← semicolon
        node "import_statement" ([plain kw] ++ typeKw ++ [plain clause, plain fromKw, fld "source" src] ++
          attr ++ semi)

/-- What an `import` binds: a default name, a namespace or named imports. -/
def importClause : Nat → P Cst
  | 0 => failure
  | n + 1 => do
    if ← atPunct "*" then node "import_clause" [plain (← namespaceImport n)]
    else if ← atPunct "\x7b" then node "import_clause" [plain (← namedImports n)]
    else
      let name ← identifier n
      if ← atPunct "," then
        let comma ← punct ","
        let rest ← if ← atPunct "*" then namespaceImport n else namedImports n
        node "import_clause" [plain name, plain comma, plain rest]
      else node "import_clause" [plain name]

/-- `* as name`. -/
def namespaceImport : Nat → P Cst
  | 0 => failure
  | n + 1 => do
    let star ← punct "*"
    let as_ ← keyword "as"
    let name ← identifier n
    node "namespace_import" [plain star, plain as_, plain name]

/-- Named imports in braces. -/
def namedImports : Nat → P Cst
  | 0 => failure
  | n + 1 => do
    let o ← punct "\x7b"
    let items ← specifiers n "import_specifier"
    let c ← punct "\x7d"
    node "named_imports" ([plain o] ++ items ++ [plain c])

/-- Import or export specifiers separated by commas. -/
def specifiers : Nat → String → P (List Child)
  | 0, _ => failure
  | n + 1, kind => do
    if ← atPunct "\x7d" then return []
    else
      let spec ← specifier n kind
      if ← atPunct "," then
        let comma ← punct ","
        let rest ← specifiers n kind
        return plain spec :: plain comma :: rest
      else return [plain spec]

/-- One specifier: a name with an optional alias. -/
def specifier : Nat → String → P Cst
  | 0, _ => failure
  | n + 1, kind => do
    let l0 ← peek
    let l1 ← peekAfter l0
    let prefix_ ← if (← typed) && ((← wordIs l0 "type") || (← wordIs l0 "typeof")) &&
        ((l1.kind == .word && !(← wordIs l1 "as")) || l1.kind matches .quote _) then
        pure [plain (← take l0 (← lexText l0) false)]
      else pure []
    let l ← peek
    let name ← match l.kind with
      | .quote q => stringLiteral n q
      | .word => take l "identifier" true
      | _ => failure
    if ← atWord "as" then
      let as_ ← keyword "as"
      let l2 ← peek
      let aliasPart ← match l2.kind with
        | .quote q => stringLiteral n q
        | .word => take l2 "identifier" true
        | _ => failure
      node kind (prefix_ ++ [fld "name" name, plain as_, fld "alias" aliasPart])
    else node kind (prefix_ ++ [fld "name" name])

/-- An `export` statement after its decorators. -/
def exportStatement : Nat → List Cst → P Cst
  | 0, _ => failure
  | n + 1, ds => do
    let kw ← keyword "export"
    let pre := ds.map (fld "decorator") ++ [plain kw]
    let l ← peek
    match l.kind with
    | .punct "*" =>
      let star ← punct "*"
      if ← atWord "as" then
        let as_ ← keyword "as"
        let l2 ← peek
        let name ← match l2.kind with
          | .quote q => stringLiteral n q
          | _ => take l2 "identifier" true
        let ns ← node "namespace_export" [plain star, plain as_, plain name]
        let fromKw ← keyword "from"
        let src ← stringOf n
        let semi ← semicolon
        node "export_statement" (pre ++ [plain ns, plain fromKw, fld "source" src] ++ semi)
      else
        let fromKw ← keyword "from"
        let src ← stringOf n
        let semi ← semicolon
        node "export_statement" (pre ++ [plain star, plain fromKw, fld "source" src] ++ semi)
    | .punct "\x7b" =>
      let o ← punct "\x7b"
      let items ← specifiers n "export_specifier"
      let c ← punct "\x7d"
      let clause ← node "export_clause" ([plain o] ++ items ++ [plain c])
      let src ← if ← atWord "from" then
          let fromKw ← keyword "from"
          let s ← stringOf n
          pure [plain fromKw, fld "source" s]
        else pure []
      let semi ← semicolon
      node "export_statement" (pre ++ [plain clause] ++ src ++ semi)
    | .word =>
      if (← typed) && (← atWord "type") && (← peekAfter (← peek)).kind == .punct "\x7b" then
        let t ← keyword "type"
        let o ← punct "\x7b"
        let items ← specifiers n "export_specifier"
        let c ← punct "\x7d"
        let clause ← node "export_clause" ([plain o] ++ items ++ [plain c])
        let src ← if ← atWord "from" then
            let fromKw ← keyword "from"
            let s ← stringOf n
            pure [plain fromKw, fld "source" s]
          else pure []
        let semi ← semicolon
        node "export_statement" (pre ++ [plain t, plain clause] ++ src ++ semi)
      else if (← typed) && (← atWord "as") && (← wordIs (← peekAfter (← peek)) "namespace") then
        let a ← keyword "as"
        let ns ← keyword "namespace"
        let name ← identifier n
        let semi ← semicolon
        node "export_statement" (pre ++ [plain a, plain ns, plain name] ++ semi)
      else exportRest n pre
    | .punct "=" =>
      if ← typed then
        let eq ← punct "="
        let e ← expression n
        let semi ← semicolon
        node "export_statement" (pre ++ [plain eq, plain e] ++ semi)
      else failure
    | _ => exportRest n pre

/-- An `export` of a default value or of a declaration. -/
def exportRest : Nat → List Child → P Cst
  | 0, _ => failure
  | n + 1, pre => do
    if ← atWord "default" then
      let d ← keyword "default"
      let l2 ← peek
      let w ← lexText l2
      let declared ← if w == "function" || w == "class" || w == "async" then
          attempt (do
            let decl ← if w == "class" then classDeclaration n []
              else if w == "async" then
                let a ← keyword "async"
                functionDeclaration n [plain a]
              else functionDeclaration n []
            pure decl)
        else pure none
      match declared with
      | some decl => node "export_statement" (pre ++ [plain d, fld "declaration" decl])
      | none =>
        let e ← expression n
        let semi ← semicolon
        node "export_statement" (pre ++ [plain d, fld "value" e] ++ semi)
    else
      let decl ← declaration n
      node "export_statement" (pre ++ [fld "declaration" decl])

/-- A string literal where one is required. -/
def stringOf : Nat → P Cst
  | 0 => failure
  | n + 1 => do
    let l ← peek
    match l.kind with
    | .quote q => stringLiteral n q
    | _ => failure

-- ## JSX

/-- A JSX element: self-closing, or an opening tag, children and a closing tag. -/
def jsxElement : Nat → P Cst
  | 0 => failure
  | n + 1 => do
    let lt ← punct "<"
    if ← atPunct ">" then
      let gt ← punct ">"
      let openTag ← node "jsx_opening_element" [plain lt, plain gt]
      let children ← jsxChildren n
      let close ← jsxClosing n
      node "jsx_element" ([fld "open_tag" openTag] ++ children ++ [fld "close_tag" close])
    else
      let name ← jsxElementName n
      let targs ← if (← typed) && (← atPunct "<") && name.kind != "jsx_namespace_name" then
          pure [fld "type_arguments" (← typeArguments n)]
        else pure []
      let attrs ← jsxAttributes n
      if ← atPunct "/" then
        let s ← source
        let p ← pos
        let i := nextStart s p
        if s.get (i + 1) == '>' then
          commit i
          let sc ← takeRaw (i + 2) "/>" false
          node "jsx_self_closing_element" ([plain lt, fld "name" name] ++ targs ++ attrs ++ [plain sc])
        else failure
      else
        let gt ← punct ">"
        let openTag ← node "jsx_opening_element" ([plain lt, fld "name" name] ++ targs ++ attrs ++ [plain gt])
        let children ← jsxChildren n
        let close ← jsxClosing n
        node "jsx_element" ([fld "open_tag" openTag] ++ children ++ [fld "close_tag" close])

/-- A JSX element name: a name, a dotted name or a namespaced name. -/
def jsxElementName : Nat → P Cst
  | 0 => failure
  | n + 1 => do
    let first ← jsxIdentifier n
    if ← atPunct ":" then
      let colon ← punct ":"
      let second ← jsxIdentifier n
      node "jsx_namespace_name" [plain first, plain colon, plain second]
    else jsxMemberTail n first

/-- The dotted parts of a JSX element name. -/
def jsxMemberTail : Nat → Cst → P Cst
  | 0, _ => failure
  | n + 1, base => do
    if ← atPunct "." then
      let dot ← punct "."
      let prop ← propertyName n
      let e ← node "member_expression" [fld "object" base, plain dot, fld "property" prop]
      jsxMemberTail n e
    else return base

/-- A JSX identifier: a word, possibly with dashes. -/
def jsxIdentifier : Nat → P Cst
  | 0 => failure
  | _ + 1 => do
    let l ← peek
    if l.kind != .word then failure
    else
      let s ← source
      let stop := s.skipWhile (fun c => isIdentifierPart c || c == '-') l.stop
      take ⟨.word, l.start, stop⟩ "identifier" true

/-- The attributes of a JSX tag. -/
def jsxAttributes : Nat → P (List Child)
  | 0 => failure
  | n + 1 => do
    let l ← peek
    match l.kind with
    | .word =>
      let a ← jsxAttribute n
      let rest ← jsxAttributes n
      return fld "attribute" a :: rest
    | .punct "\x7b" =>
      let e ← jsxExpression n
      let rest ← jsxAttributes n
      return fld "attribute" e :: rest
    | _ => return []

/-- A JSX attribute: a name and an optional value. -/
def jsxAttribute : Nat → P Cst
  | 0 => failure
  | n + 1 => do
    let first ← jsxIdentifier n
    let name ← if ← atPunct ":" then
        let colon ← punct ":"
        let second ← jsxIdentifier n
        node "jsx_namespace_name" [plain first, plain colon, plain second]
      else pure (Cst.token "property_identifier" true first.start first.stop)
    if ← atPunct "=" then
      let eq ← punct "="
      let l ← peek
      let value ← match l.kind with
        | .quote q => jsxString n q
        | .punct "\x7b" => jsxExpression n
        | .punct "<" => jsxElement n
        | _ => failure
      node "jsx_attribute" [plain name, plain eq, plain value]
    else node "jsx_attribute" [plain name]

/-- A JSX attribute string: no escapes, character references allowed. -/
def jsxString : Nat → Char → P Cst
  | 0, _ => failure
  | n + 1, q => do
    let l ← peek
    let o ← take l (String.singleton q) false
    let parts ← jsxStringParts n q
    node "string" (plain o :: parts)

/-- The rest of a JSX attribute string. -/
def jsxStringParts : Nat → Char → P (List Child)
  | 0, _ => failure
  | n + 1, q => do
    let s ← source
    let i ← pos
    if s.atEnd i then failure
    else if s.get i == q then return [plain (← takeRaw (i + 1) (String.singleton q) false)]
    else
      match characterReferenceEnd s i with
      | some j =>
        let r ← takeRaw j "html_character_reference" true
        let rest ← jsxStringParts n q
        return plain r :: rest
      | none =>
        let stop := s.skipWhile (fun c => c != q && c != '&') (i + 1)
        let f ← takeRaw stop "string_fragment" true
        let rest ← jsxStringParts n q
        return plain f :: rest

/-- `{`, an optional expression or spread, and `}`. -/
def jsxExpression : Nat → P Cst
  | 0 => failure
  | n + 1 => do
    let o ← punct "\x7b"
    let inner ← if ← atPunct "\x7d" then pure []
      else if ← atPunct "..." then pure [plain (← spreadElement n)]
      else expressions n
    let c ← punct "\x7d"
    node "jsx_expression" ([plain o] ++ inner ++ [plain c])

/-- The children of a JSX element up to its closing tag. -/
def jsxChildren : Nat → P (List Child)
  | 0 => failure
  | n + 1 => do
    let s ← source
    let i ← pos
    if s.atEnd i then failure
    else
      let (stop, sawText) := jsxTextEnd s i s.length false false
      if sawText then
        let t ← takeRaw stop "jsx_text" true
        let rest ← jsxChildren n
        return plain t :: rest
      else
        let j := if stop > i then stop else i
        let c := s.get j
        if c == '<' then
          if s.get (nextStart s (j + 1)) == '/' then return []
          else
            set { (← get) with pos := j }
            let e ← jsxElement n
            let rest ← jsxChildren n
            return plain e :: rest
        else if c == '\x7b' then
          set { (← get) with pos := j }
          let e ← jsxExpression n
          let rest ← jsxChildren n
          return plain e :: rest
        else if c == '&' then
          match characterReferenceEnd s j with
          | some k =>
            set { (← get) with pos := j }
            let r ← takeRaw k "html_character_reference" true
            let rest ← jsxChildren n
            return plain r :: rest
          | none => failure
        else failure

/-- A JSX closing tag. -/
def jsxClosing : Nat → P Cst
  | 0 => failure
  | n + 1 => do
    let s ← source
    let i := nextStart s (← pos)
    if s.get i == '<' then
      commit i
      let j := nextStart s (i + 1)
      if s.get j == '/' then
        let o ← takeRaw (j + 1) "</" false
        let name ← if ← atPunct ">" then pure [] else pure [fld "name" (← jsxElementName n)]
        let gt ← punct ">"
        node "jsx_closing_element" ([plain o] ++ name ++ [plain gt])
      else failure
    else failure

-- ## Types

/-- `:` and a type. -/
def typeAnnotation : Nat → P Cst
  | 0 => failure
  | n + 1 => do
    let colon ← punct ":"
    let t ← type n
    node "type_annotation" [plain colon, plain t]

/-- A return type: a type, a type predicate or an assertion. -/
def returnType : Nat → P Cst
  | 0 => failure
  | n + 1 => do
    let l ← peek
    let colon ← punct ":"
    if ← atWord "asserts" then
      let a ← keyword "asserts"
      let target ← typePredicateOrName n
      let asserts ← node "asserts" [plain a, plain target]
      node "asserts_annotation" [plain colon, plain asserts]
    else
      let l1 ← peek
      let l2 ← peekAfter l1
      if l1.kind == .word && (← wordIs l2 "is") then
        let p ← typePredicate n
        node "type_predicate_annotation" [plain colon, plain p]
      else
        let t ← type n
        let _ := l
        node "type_annotation" [plain colon, plain t]

/-- A type predicate or a plain name, as after `asserts`. -/
def typePredicateOrName : Nat → P Cst
  | 0 => failure
  | n + 1 => do
    let l1 ← peek
    let l2 ← peekAfter l1
    if ← wordIs l2 "is" then typePredicate n
    else if ← wordIs l1 "this" then keyword "this" >>= fun t => pure (Cst.token "this" true t.start t.stop)
    else identifier n

/-- `name is Type`. -/
def typePredicate : Nat → P Cst
  | 0 => failure
  | n + 1 => do
    let l ← peek
    let name ← if ← wordIs l "this" then
        keyword "this" >>= fun t => pure (Cst.token "this" true t.start t.stop)
      else take l "identifier" true
    let is_ ← keyword "is"
    let t ← type n
    node "type_predicate" [fld "name" name, plain is_, fld "type" t]

/-- A type: function and constructor types, conditional types, unions and intersections. -/
def type : Nat → P Cst
  | 0 => failure
  | n + 1 => do
    match ← attempt (functionType n) with
    | some f => return f
    | none =>
      let u ← unionType n
      if (← atWord "extends") && !(← breakAhead) then
        let ext ← keyword "extends"
        let right ← unionType n
        let q ← punct "?"
        let yes ← type n
        let colon ← punct ":"
        let no ← type n
        node "conditional_type" [fld "left" u, plain ext, fld "right" right, plain q,
          fld "consequence" yes, plain colon, fld "alternative" no]
      else return u

/-- A function or constructor type. -/
def functionType : Nat → P Cst
  | 0 => failure
  | n + 1 => do
    let s ← source
    let l ← peek
    let abstractKw ← if (← wordIs l "abstract") && (← wordIs (← peekAfter l) "new") then
        pure [plain (← keyword "abstract")] else pure []
    let l ← peek
    let newKw ← if ← wordIs l "new" then pure [plain (← keyword "new")] else pure []
    let kind := if newKw.isEmpty then "function_type" else "constructor_type"
    let resultField := if newKw.isEmpty then "return_type" else "type"
    let l ← peek
    let tps ← match l.kind with
      | .punct "(" =>
        match closingBracket s l.start 0 s.length with
        | some close =>
          if (scan s (nextStart s close)).kind == .punct "=>" then pure [] else failure
        | none => failure
      | .punct "<" => pure [fld "type_parameters" (← typeParameters n)]
      | _ => failure
    let ps ← formalParameters n
    let arrow ← punct "=>"
    let ret ← if newKw.isEmpty then functionTypeResult n else type n
    node kind (abstractKw ++ newKw ++ tps ++ [fld "parameters" ps, plain arrow, fld resultField ret])

/-- What a function type returns: a type predicate, an assertion or a type. -/
def functionTypeResult : Nat → P Cst
  | 0 => failure
  | n + 1 => do
    let l ← peek
    let l2 ← peekAfter l
    if (← wordIs l "asserts") && l2.kind == .word then
      let a ← keyword "asserts"
      let target ← typePredicateOrName n
      node "asserts" [plain a, plain target]
    else if l.kind == .word && (← wordIs l2 "is") then typePredicate n
    else type n

/-- Types joined by `|`, with an optional leading bar. -/
def unionType : Nat → P Cst
  | 0 => failure
  | n + 1 => do
    if ← atPunct "|" then
      let bar ← punct "|"
      let t ← intersectionType n
      let u ← node "union_type" [plain bar, plain t]
      unionTail n u
    else
      let t ← intersectionType n
      unionTail n t

/-- The `|` parts after the first member of a union. -/
def unionTail : Nat → Cst → P Cst
  | 0, _ => failure
  | n + 1, left => do
    if ← atPunct "|" then
      let bar ← punct "|"
      let t ← intersectionType n
      let u ← node "union_type" [plain left, plain bar, plain t]
      unionTail n u
    else return left

/-- Types joined by `&`, with an optional leading ampersand. -/
def intersectionType : Nat → P Cst
  | 0 => failure
  | n + 1 => do
    if ← atPunct "&" then
      let amp ← punct "&"
      let t ← suffixedType n
      let u ← node "intersection_type" [plain amp, plain t]
      intersectionTail n u
    else
      let t ← suffixedType n
      intersectionTail n t

/-- The `&` parts after the first member of an intersection. -/
def intersectionTail : Nat → Cst → P Cst
  | 0, _ => failure
  | n + 1, left => do
    if ← atPunct "&" then
      let amp ← punct "&"
      let t ← suffixedType n
      let u ← node "intersection_type" [plain left, plain amp, plain t]
      intersectionTail n u
    else return left

/-- A primary type with array suffixes and indexed accesses. -/
def suffixedType : Nat → P Cst
  | 0 => failure
  | n + 1 => do
    let l ← peek
    if ← wordIs l "keyof" then
      let k ← keyword "keyof"
      let t ← suffixedType n
      node "index_type_query" [plain k, plain t]
    else if ← wordIs l "readonly" then
      let r ← keyword "readonly"
      let t ← suffixedType n
      node "readonly_type" [plain r, plain t]
    else if ← wordIs l "infer" then
      let i ← keyword "infer"
      let name ← identifier n
      let bound ← if ← atWord "extends" then
          let e ← keyword "extends"
          let t ← type n
          pure [plain e, plain t]
        else pure []
      node "infer_type" ([plain i, plain (.token "type_identifier" true name.start name.stop)] ++ bound)
    else
      let t ← primaryType n
      typeSuffixes n t

/-- Array suffixes `[]` and indexed access types after a type. -/
def typeSuffixes : Nat → Cst → P Cst
  | 0, _ => failure
  | n + 1, t => do
    if (← atPunct "[") && !(← breakAhead) then
      let o ← punct "["
      if ← atPunct "]" then
        let c ← punct "]"
        let a ← node "array_type" [plain t, plain o, plain c]
        typeSuffixes n a
      else
        let i ← type n
        let c ← punct "]"
        let a ← node "lookup_type" [plain t, plain o, plain i, plain c]
        typeSuffixes n a
    else return t

/-- Primary types: names, predefined types, literals, objects, tuples and parentheses. -/
def primaryType : Nat → P Cst
  | 0 => failure
  | n + 1 => do
    let l ← peek
    match l.kind with
    | .word =>
      let w ← lexText l
      if predefinedTypes.contains w then node "predefined_type" [plain (← take l w false)]
      else if w == "unique" then
        let u ← keyword "unique"
        let s ← keyword "symbol"
        node "predefined_type" [plain (Cst.token "unique symbol" false u.start u.stop),
          plain (Cst.token "unique symbol" false s.start s.stop)]
      else if w == "typeof" then
        let t ← keyword "typeof"
        let l2 ← peek
        let base ← if ← wordIs l2 "import" then
            take l2 "import" false >>= fun i => node "import" [plain i]
          else if ← wordIs l2 "this" then take l2 "this" true
          else if l2.kind == .word then take l2 "identifier" true
          else failure
        let e ← typeQueryTail n base
        node "type_query" [plain t, plain e]
      else if w == "this" then take l "this_type" true
      else if w == "null" then node "literal_type" [plain (← take l "null" true)]
      else if w == "undefined" then node "literal_type" [plain (← take l "undefined" true)]
      else if w == "true" then node "literal_type" [plain (← take l "true" true)]
      else if w == "false" then node "literal_type" [plain (← take l "false" true)]
      else typeReference n
    | .number => node "literal_type" [plain (← take l "number" true)]
    | .quote q => node "literal_type" [plain (← stringLiteral n q)]
    | .punct "-" =>
      let m ← punct "-"
      let num ← take (← peek) "number" true
      node "literal_type" [plain (← node "unary_expression" [fld "operator" m, fld "argument" num])]
    | .punct "(" =>
      let o ← punct "("
      let t ← type n
      let c ← punct ")"
      node "parenthesized_type" [plain o, plain t, plain c]
    | .punct "\x7b" => objectType n "object_type"
    | .punct "[" =>
      let o ← punct "["
      let items ← tupleItems n
      let c ← punct "]"
      node "tuple_type" ([plain o] ++ items ++ [plain c])
    | .punct "*" => node "existential_type" [plain (← punct "*")]
    | .punct "?" =>
      let q ← punct "?"
      let t ← primaryType n
      node "flow_maybe_type" [plain q, plain t]
    | .backtick => templateType n
    | .punct ";" | .eof => missingLeaf "type_identifier"
    | _ => failure

/-- A named type, dotted or generic. -/
def typeReference : Nat → P Cst
  | 0 => failure
  | n + 1 => do
    let l ← peek
    let first ← take l "type_identifier" true
    let named ← typeReferenceTail n first
    if (← atPunct "<") && !(← breakAhead) then
      let ta ← typeArguments n
      node "generic_type" [fld "name" named, fld "type_arguments" ta]
    else return named

/-- The dotted parts of a type name. -/
def typeReferenceTail : Nat → Cst → P Cst
  | 0, _ => failure
  | n + 1, left => do
    if ← atPunct "." then
      let dot ← punct "."
      let l ← peek
      if l.kind != .word then failure
      else
        let right ← take l "type_identifier" true
        let left' := if left.kind == "type_identifier" then Cst.token "identifier" true left.start left.stop
          else if left.kind == "nested_type_identifier" then
            Cst.node "nested_identifier" true left.start left.stop left.children
          else left
        let e ← node "nested_type_identifier" [fld "module" left', plain dot, fld "name" right]
        typeReferenceTail n e
    else return left

/-- Type arguments in angle brackets. -/
def typeArguments : Nat → P Cst
  | 0 => failure
  | n + 1 => do
    let lt ← punct "<"
    let ts ← typeList n
    let comma ← optPunct ","
    let s ← source
    let i := nextStart s (← pos)
    if s.get i == '>' then
      commit i
      let gt ← takeRaw (i + 1) ">" false
      node "type_arguments" ([plain lt] ++ ts ++ comma ++ [plain gt])
    else failure

/-- Type parameters in angle brackets. -/
def typeParameters : Nat → P Cst
  | 0 => failure
  | n + 1 => do
    let lt ← punct "<"
    let ps ← typeParameterItems n
    let s ← source
    let i := nextStart s (← pos)
    if s.get i == '>' then
      commit i
      let gt ← takeRaw (i + 1) ">" false
      node "type_parameters" ([plain lt] ++ ps ++ [plain gt])
    else node "type_parameters" ([plain lt] ++ ps ++ [plain (← missingHere ">")])

/-- Type parameters separated by commas, with an optional trailing comma. -/
def typeParameterItems : Nat → P (List Child)
  | 0 => failure
  | n + 1 => do
    if ← atPunct ">" then return []
    else
      let p ← typeParameter n
      if ← atPunct "," then
        let comma ← punct ","
        let rest ← typeParameterItems n
        return plain p :: plain comma :: rest
      else if (← source).get (← nextIndex) == '>' then return [plain p]
      else
        match ← attempt (errorRun looseToken failure ">") with
        | some e => return [plain p, plain e]
        | none => return [plain p]

/-- One type parameter with its constraint and default. -/
def typeParameter : Nat → P Cst
  | 0 => failure
  | n + 1 => do
    let c ← optKeyword "const"
    let l ← peek
    if l.kind != .word then failure
    else
      let name ← take l "type_identifier" true
      let constraint ← if ← atWord "extends" then
          let e ← keyword "extends"
          let t ← type n
          pure [fld "constraint" (← node "constraint" [plain e, plain t])]
        else pure []
      let dflt ← if ← atPunct "=" then
          let eq ← punct "="
          let t ← type n
          pure [fld "value" (← node "default_type" [plain eq, plain t])]
        else pure []
      node "type_parameter" (c ++ [fld "name" name] ++ constraint ++ dflt)

/-- The members of a tuple type. -/
def tupleItems : Nat → P (List Child)
  | 0 => failure
  | n + 1 => do
    if ← atPunct "]" then return []
    else
      let t ← tupleMember n
      if ← atPunct "," then
        let comma ← punct ","
        let rest ← tupleItems n
        return plain t :: plain comma :: rest
      else return [plain t]

/-- One member of a tuple type: a named member (`name: T`, `name?: T`, `...name: T`), a
rest type `...T`, an optional type `T?`, or a type. -/
def tupleMember : Nat → P Cst
  | 0 => failure
  | n + 1 => do
    let l ← peek
    let l2 ← peekAfter l
    let l3 ← peekAfter l2
    if l.kind == .word && l2.kind == .punct ":" then
      let name ← take l "identifier" true
      let ann ← typeAnnotation n
      node "required_parameter" [fld "name" name, fld "type" ann]
    else if l.kind == .word && l2.kind == .punct "?" && l3.kind == .punct ":" then
      let name ← take l "identifier" true
      let q ← punct "?"
      let ann ← typeAnnotation n
      node "optional_parameter" [fld "name" name, plain q, fld "type" ann]
    else if l.kind == .punct "..." then
      if l2.kind == .word && l3.kind == .punct ":" then
        let dots ← punct "..."
        let name ← take l2 "identifier" true
        let rest ← node "rest_pattern" [plain dots, plain name]
        let ann ← typeAnnotation n
        node "required_parameter" [fld "name" rest, fld "type" ann]
      else
        let dots ← punct "..."
        let t ← type n
        node "rest_type" [plain dots, plain t]
    else
      let t ← type n
      if ← atPunct "?" then
        let q ← punct "?"
        node "optional_type" [plain t, plain q]
      else return t

/-- A template literal type. -/
def templateType : Nat → P Cst
  | 0 => failure
  | n + 1 => do
    let l ← peek
    let o ← take l "`" false
    let parts ← templateTypeParts n
    node "template_literal_type" (plain o :: parts)

/-- The rest of a template literal type. -/
def templateTypeParts : Nat → P (List Child)
  | 0 => failure
  | n + 1 => do
    let s ← source
    let i ← pos
    let c := s.get i
    if s.atEnd i then failure
    else if c == '`' then return [plain (← takeRaw (i + 1) "`" false)]
    else if c == '$' && s.get (i + 1) == '\x7b' then
      let o ← takeRaw (i + 2) "$\x7b" false
      let t ← type n
      let c ← punct "\x7d"
      let sub ← node "template_type" [plain o, plain t, plain c]
      let rest ← templateTypeParts n
      return plain sub :: rest
    else
      let f ← takeRaw (templateCharsEnd s i s.length) "string_fragment" true
      let rest ← templateTypeParts n
      return plain f :: rest

/-- An object type or interface body: members separated by commas or semicolons. -/
def objectType : Nat → String → P Cst
  | 0, _ => failure
  | n + 1, kind => do
    let o ← punct "\x7b"
    let members ← objectTypeMembers n
    let c ← punct "\x7d"
    node kind ([plain o] ++ members ++ [plain c])

/-- The members of an object type with their separators. -/
def objectTypeMembers : Nat → P (List Child)
  | 0 => failure
  | n + 1 => do
    if ← atPunct "\x7d" then return []
    else if (← atPunct ",") || (← atPunct ";") then
      let l ← peek
      let sep ← take l (← lexText l) false
      let rest ← objectTypeMembers n
      return plain sep :: rest
    else
      let m ← typeMember n
      let rest ← objectTypeMembers n
      return plain m :: rest

/-- One member of an object type: a property, method, call, construct or index signature. -/
def typeMember : Nat → P Cst
  | 0 => failure
  | n + 1 => do
    let l ← peek
    if l.kind == .punct "(" || l.kind == .punct "<" then
      let sig ← callSignature n
      node "call_signature" sig
    else if (← wordIs l "new") && ((← peekAfter l).kind == .punct "(" || (← peekAfter l).kind == .punct "<") then
      let nw ← keyword "new"
      let sig ← callSignature n
      node "construct_signature" (plain nw :: sig.map fun (f, c) =>
        (if f == some "return_type" then some "type" else f, c))
    else
      match ← attempt (indexSignature n) with
      | some s => return s
      | none =>
        let mods ← memberModifiers n
        let la ← peek
        let la2 ← peekAfter la
        let acc ← if ((← wordIs la "get") || (← wordIs la "set")) && la2.kind != .punct "(" &&
            la2.kind != .punct "<" && la2.kind != .punct ":" && la2.kind != .punct "?" &&
            la2.kind != .punct ";" && la2.kind != .punct "," && la2.kind != .punct "\x7d" then
            pure [plain (← take la (← lexText la) false)]
          else pure []
        let mods := mods ++ acc
        let name ← propertyKey n
        let q ← optPunct "?"
        if (← atPunct "(") || (← atPunct "<") then
          let sig ← callSignature n
          node "method_signature" (mods ++ [fld "name" name] ++ q ++ sig)
        else
          let ty ← if ← atPunct ":" then pure [fld "type" (← typeAnnotation n)] else pure []
          node "property_signature" (mods ++ [fld "name" name] ++ q ++ ty)

/-- An index signature `[key: Type]: Type`, or a mapped member `[K in Keys]: Type`,
perhaps `readonly` (with a sign that adds or removes it) and with `?` (likewise). -/
def indexSignature : Nat → P Cst
  | 0 => failure
  | n + 1 => do
    let l0 ← peek
    let pre ← if (l0.kind == .punct "-" || l0.kind == .punct "+") && (← wordIs (← peekAfter l0) "readonly") then
        let sign ← take l0 (← lexText l0) false
        let r ← keyword "readonly"
        pure [fld "sign" sign, plain r]
      else if (← wordIs l0 "readonly") && (← peekAfter l0).kind == .punct "[" then
        pure [plain (← keyword "readonly")]
      else pure []
    let o ← punct "["
    let l ← peek
    let l2 ← peekAfter l
    if l.kind != .word then failure
    let inner ← if ← wordIs l2 "in" then
        let name ← take l "type_identifier" true
        let i ← keyword "in"
        let t ← type n
        let aliasPart ← if ← atWord "as" then
            let a ← keyword "as"
            let t2 ← type n
            pure [plain a, fld "alias" t2]
          else pure []
        pure [plain (← node "mapped_type_clause" ([fld "name" name, plain i, fld "type" t] ++ aliasPart))]
      else
        let name ← take l "identifier" true
        let colon ← punct ":"
        let kt ← type n
        pure [fld "name" name, plain colon, fld "index_type" kt]
    let c ← punct "]"
    let ann ← mappedAnnotation n
    node "index_signature" (pre ++ [plain o] ++ inner ++ [plain c, fld "type" ann])

/-- The type of an index signature: `: T`, or `-?: T`, `+?: T` and `?: T`, which remove,
add or keep optionality; each of the three marks is one token. -/
def mappedAnnotation : Nat → P Cst
  | 0 => failure
  | n + 1 => do
    let l ← peek
    let l2 ← peekAfter l
    let l3 ← peekAfter l2
    if (l.kind == .punct "-" || l.kind == .punct "+") && l2.kind == .punct "?" &&
        l3.kind == .punct ":" && l.stop == l2.start && l2.stop == l3.start then
      let sign ← lexText l
      let first ← take l sign false
      let _ ← take l2 "?" false
      let colon ← take l3 ":" false
      let mark := Cst.token (sign ++ "?:") false first.start colon.stop
      let t ← type n
      node (if sign == "-" then "omitting_type_annotation" else "adding_type_annotation")
        [plain mark, plain t]
    else if l.kind == .punct "?" && l2.kind == .punct ":" && l.stop == l2.start then
      let q ← take l "?" false
      let colon ← take l2 ":" false
      let mark := Cst.token "?:" false q.start colon.stop
      let t ← type n
      node "opting_type_annotation" [plain mark, plain t]
    else typeAnnotation n

-- ## TypeScript declarations

/-- An interface declaration. -/
def interfaceDeclaration : Nat → P Cst
  | 0 => failure
  | n + 1 => do
    let kw ← keyword "interface"
    let l ← peek
    let name ← take l "type_identifier" true
    let tps ← if ← atPunct "<" then pure [fld "type_parameters" (← typeParameters n)] else pure []
    let ext ← if ← atWord "extends" then
        let e ← keyword "extends"
        let ts ← typeList n
        pure [plain (← node "extends_type_clause" (plain e :: namedInField "type" ts))]
      else pure []
    let body ← objectType n "interface_body"
    node "interface_declaration" ([plain kw, fld "name" name] ++ tps ++ ext ++ [fld "body" body])

/-- A type alias declaration. -/
def typeAliasDeclaration : Nat → P Cst
  | 0 => failure
  | n + 1 => do
    let kw ← keyword "type"
    let l ← peek
    let name ← take l "type_identifier" true
    let tps ← if ← atPunct "<" then pure [fld "type_parameters" (← typeParameters n)] else pure []
    let eq ← punct "="
    let t ← type n
    let semi ← semicolon
    node "type_alias_declaration" ([plain kw, fld "name" name] ++ tps ++ [plain eq, fld "value" t] ++ semi)

/-- An enum declaration. -/
def enumDeclaration : Nat → P Cst
  | 0 => failure
  | n + 1 => do
    let c ← optKeyword "const"
    let kw ← keyword "enum"
    let name ← identifier n
    let o ← punct "\x7b"
    let members ← enumMembers n
    let cl ← punct "\x7d"
    let body ← node "enum_body" ([plain o] ++ members ++ [plain cl])
    node "enum_declaration" (c ++ [plain kw, fld "name" name, fld "body" body])

/-- The members of an enum body. -/
def enumMembers : Nat → P (List Child)
  | 0 => failure
  | n + 1 => do
    if ← atPunct "\x7d" then return []
    else
      let name ← propertyKey n
      let m ← if ← atPunct "=" then
          let eq ← punct "="
          let v ← expression n
          node "enum_assignment" [fld "name" name, plain eq, fld "value" v]
        else pure name
      let member := if m.kind == "enum_assignment" then plain m else fld "name" m
      if ← atPunct "," then
        let comma ← punct ","
        let rest ← enumMembers n
        return member :: plain comma :: rest
      else return [member]

end

/-! ## Programs and recovery -/

/-- A function declaration whose body was completed by a missing brace at the end of the
source is read as an expression statement holding a function expression, and an empty
block so completed, alone or as the last part of a statement, as an object. -/
def reshapeUnfinished (c : Cst) : Cst :=
  let endsMissing (x : Cst) : Bool :=
    match x.children.getLast? with
    | some (_, body) =>
      match body.children.getLast? with
      | some (_, .missing ..) => true
      | _ => false
    | none => false
  let emptyBlock : Cst → Option Cst
    | .node "statement_block" true s e [(f, .token "\x7b" false a b), (g, .missing "\x7d" false p)] =>
      some (.node "expression_statement" true s e
        [(none, .node "object" true s e [(f, .token "\x7b" false a b), (g, .missing "\x7d" false p)])])
    | _ => none
  match c with
  | .node "function_declaration" true s e cs =>
    if endsMissing c then .node "expression_statement" true s e [(none, .node "function_expression" true s e cs)]
    else c
  | .node "statement_block" .. => (emptyBlock c).getD c
  | .node "generator_function_declaration" true s e cs =>
    if endsMissing c then .node "expression_statement" true s e [(none, .node "generator_function" true s e cs)]
    else c
  | .node k true s e cs =>
    match cs.getLast? with
    | some (f, last) =>
      match emptyBlock last with
      | some x => .node k true s e (cs.dropLast ++ [(f, x)])
      | none => c
    | none => c
  | other => other

/-- The words of the type language that are keywords wherever a statement starts: no
rule reads them as names, so one passed over there stays a keyword. -/
def statementKeywords : List String :=
  ["interface", "enum", "abstract"]

/-- The leaf of a token passed over where a statement starts at index `start`. -/
def statementLead (typed : Bool) (start : Nat) (s : Source) (l : Lexeme) : Cst :=
  let w := s.slice l.start l.stop
  if typed && l.start == start && l.kind == .word && statementKeywords.contains w then
    .token w false (s.offset l.start) (s.offset l.stop)
  else looseToken s l

/-- Skip tokens as loose tokens until a statement reads cleanly or the source ends.  A
slash that opens a regular expression never closed is kept with the pattern read after it
up to where the pattern gives out. -/
def skipToStatement (fuel : Nat) : Nat → List Cst → P (List Cst)
  | 0, acc => return acc.reverse
  | k + 1, acc => do
    let l ← peek
    if l.kind == .eof then return acc.reverse
    else
      let s ← source
      let unclosed := (l.kind == .punct "/" || l.kind == .punct "/=") &&
        (regexBodyEnd s (l.start + 1) false s.length).isNone
      let toks ← if unclosed then
          let stop := regexBodyReach s (l.start + 1) false s.length
          commit stop
          let slash := Cst.token "/" false (s.offset l.start) (s.offset (l.start + 1))
          if stop > l.start + 1 then
            pure [.token "regex_pattern" true (s.offset (l.start + 1)) (s.offset stop), slash]
          else pure [slash]
        else
          commit l.stop
          pure [looseToken s l]
      let canRead ← Parser.succeeds (statement fuel)
      if canRead then return (toks ++ acc).reverse
      else skipToStatement fuel k (toks ++ acc)

/-- A statement that reads when the last token of the source, where its reading broke
down at `f`, is passed over: that token is kept in an error node at the end of the
innermost construct the statement ends with. -/
def trailingStray (fuel : Nat) (f : Nat) : P (List Child) := do
  let s ← source
  let lx := (← read).lexer
  let t := lx.scan s f
  if (lx.scan s (lx.nextStart s t.stop)).kind != .eof || (← nextIndex) ≥ f then failure
  if t.kind matches .quote _ then failure
  let items ← withReader (fun e => { e with lexer := e.lexer.passingOver f looseToken, passing := f :: e.passing })
    (statement fuel)
  match items.reverse with
  | (fl, .node k n st _ cs) :: earlier =>
    let err := Cst.node "ERROR" true (s.offset f) (s.offset t.stop) [plain (looseToken s t)]
    commit t.stop
    modify fun c' => { c' with cost := c'.cost + passCost s f t.stop }
    return (earlier.reverse ++ [(fl, Cst.node k n st err.stop (Cst.appendInnermost err cs))])
  | _ => failure

/-- The tree of the regular expression literal from the slash at `i` to its closing slash
at `close`, with its flags up to `stop`. -/
def regexTree (s : Source) (i close stop : Nat) : Cst :=
  let flags := if stop > close + 1 then
      [fld "flags" (.token "regex_flags" true (s.offset (close + 1)) (s.offset stop))]
    else []
  .node "regex" true (s.offset i) (s.offset stop)
    ([plain (.token "/" false (s.offset i) (s.offset (i + 1))),
      fld "pattern" (.token "regex_pattern" true (s.offset (i + 1)) (s.offset close)),
      plain (.token "/" false (s.offset close) (s.offset (close + 1)))] ++ flags)

/-- A regular expression literal opening at one of the tokens starting at `starts` and
ending right before the token at `f`: its start and closing slash. -/
def regexBefore (lx : Lexer) (s : Source) (f : Nat) : List Nat → Option (Nat × Nat)
  | [] => none
  | i :: rest =>
    let t := lx.scan s i
    let found := if t.kind == .punct "/" || t.kind == .punct "/=" then
        match regexBodyEnd s (i + 1) false s.length with
        | some close =>
          if close > i + 1 && lx.nextStart s (regexFlagsEnd s close) == f then some (i, close)
          else none
        | none => none
      else none
    match found with
    | some r => some r
    | none => regexBefore lx s f rest

/-- Parse the statements of a program, recovering from statements that cannot be read:
a statement cut off by the end of the source may be completed by one missing token, a
statement may pass over one token kept in an error node, or over a regular expression
literal right before where it broke down, a reading that gives out at the end of the source keeps what it built in an error node, and otherwise the tokens from
the failure on are kept in an error node up to the first token where a statement reads
again.  A reading that breaks down at the last token keeps what it built up to there:
that token is passed over and the end follows. -/
def programItems (fuel : Nat) : Nat → P (List Child)
  | 0 => return []
  | k + 1 => do
    if ← atEof then return []
    else
      let c ← get
      markStart
      match ← attempt (statement fuel) with
      | some s =>
        let rest ← programItems fuel k
        return s ++ rest
      | none =>
        let f ← brokeAt
        set { c with missing := 1 }
        let completed ← attempt <| repairing f do
          let s ← statement fuel
          pure (s.map (fun (f, x) => (f, reshapeUnfinished x)), ← get)
        set { c with skips := 1 }
        let lead := statementLead (← read).dialect.typed (← nextIndex)
        let passed ← attempt <| repairing f do
          let s ← match ← attempt (statement fuel) with
            | some s => pure s
            | none => recoverChain (statement fuel) lead 3
          pure (s, ← get)
        set c
        let trailing ← attempt <| repairing f do
          let s ← trailingStray fuel f
          pure (s, ← get)
        set { c with skips := 1 }
        let popped ← attempt <| repairing f do
          let src ← source
          let lx := (← read).lexer
          match regexBefore lx src f (Parser.tokenStarts lx src 16 c.pos 0) with
          | some (i, close) =>
            let stop := regexFlagsEnd src close
            let s ← recoverSpan (statement fuel) i stop (regexTree src i close stop)
            pure (s, ← get)
          | none => failure
        match cheaper (cheaper (cheaper completed passed) trailing) popped with
        | some (s, after) =>
          set { after with missing := 0, skips := 0 }
          let rest ← programItems fuel k
          return s ++ rest
        | none =>
          let g ← brokeAt
          let s ← source
          let lx := (← read).lexer
          let lastBroke := (lx.scan s (lx.nextStart s (lx.scan s f).stop)).kind == .eof
          set c
          let readings : List (P (List Child)) :=
            [statement fuel, do
              modify fun c' => { c' with skips := 1 }
              repairing f (recoverOne (statement fuel) lead)]
          let wrapped ← if lastBroke then wrapFrom [statement fuel] f looseToken
            else wrapRest readings g looseToken
          match wrapped with
          | some trees => return errorNode trees
          | none =>
            match ← attempt (strayStatement fuel) with
            | some s =>
              let rest ← programItems fuel k
              return s ++ rest
            | none =>
              let skipped ← skipToStatement fuel k []
              let rest ← programItems fuel k
              return errorNode skipped ++ rest

/-- Parse a whole source in a dialect. -/
def parseProgram (dialect : Dialect) (src : Source) : Cst :=
  let fuel := 40 * (src.length + 16)
  let start := Cursor.at 0
  let bang : List Child × Cursor :=
    let i := nextStart src 0
    if src.startsWith i "#!" && i == 0 then
      let j := src.skipWhile (fun c => c != '\n') i
      ([plain (.token "hash_bang_line" true (src.offset i) (src.offset j))],
        { start with pos := j, lastEnd := j })
    else ([], start)
  match (programItems fuel (src.length + 2)).run' { src, lexer, dialect } bang.2 with
  | some (items, c) =>
    let (_, tail) := triviaFrom src c.pos
    let trailing := tail.map fun (a, b) => extra src a b
    Cst.root "program" (bang.1 ++ items) (c.extras.toList ++ trailing) src.bytes.size
  | none => Cst.root "program" [] [] src.bytes.size

end Javascript
end ShapeSearch
