import ShapeSearch.Grammar.Rust.Lexer
import ShapeSearch.Syntax.Parser

/-!
# The grammar of Rust

A recursive-descent parser for Rust that builds the concrete trees the searcher
matches against: items, statements, expressions, patterns, types and the token
trees of macro invocations.

Binary operators are parsed by precedence climbing over the grammar's levels, from
the loosest: ranges, `||`, `&&`, comparisons, `|`, `^`, `&`, shifts, additive and
multiplicative operators; casts with `as` bind tighter, and prefix operators
tighter still.  Assignments are looser than all of them and group to the right.

Where a condition is expected (after `if`, `while`, `match` and `for ... in`), a
path followed by a brace is not read as a struct expression, so the brace opens
the body.
-/

namespace ShapeSearch
namespace Rust

open Syntax Parser

/-- Parsing steps of Rust. -/
abbrev P := Parser Unit

/-- Words that are never identifiers. -/
def keywords : List String :=
  ["as", "async", "await", "break", "const", "continue", "crate", "dyn", "else", "enum", "extern",
   "false", "fn", "for", "if", "impl", "in", "let", "loop", "match", "mod", "move", "mut", "pub",
   "ref", "return", "self", "static", "struct", "super", "trait", "true", "type", "unsafe", "use",
   "where", "while"]

/-- The kinds of fragment a macro pattern can bind. -/
def fragmentSpecifiers : List String :=
  ["block", "expr", "expr_2021", "ident", "item", "lifetime", "literal", "meta", "pat",
   "pat_param", "path", "stmt", "tt", "ty", "vis"]

/-- The primitive types. -/
def primitiveTypes : List String :=
  ["bool", "char", "str", "u8", "i8", "u16", "i16", "u32", "i32", "u64", "i64", "u128", "i128",
   "isize", "usize", "f32", "f64"]

/-- The binary operators with their levels; higher levels bind tighter. -/
def binaryLevel : String → Option Nat
  | "||" => some 2
  | "&&" => some 3
  | "==" | "!=" | "<" | "<=" | ">" | ">=" => some 4
  | "|" => some 5
  | "^" => some 6
  | "&" => some 7
  | "<<" | ">>" => some 8
  | "+" | "-" => some 9
  | "*" | "/" | "%" => some 10
  | _ => none

/-- The compound assignment operators. -/
def compoundOperators : List String :=
  ["+=", "-=", "*=", "/=", "%=", "^=", "&=", "|=", "<<=", ">>="]

/-- Whether the next token is a word that may be an identifier. -/
def atName : P Bool := do
  let l ← peek
  if l.kind == .word then return !keywords.contains (← lexText l) else return false

/-- Take one character of the next token, which must start with it, as a leaf. -/
def takeChar (c : Char) : P Cst := do
  let s ← source
  let i ← nextIndex
  if s.get i == c then
    commit i
    takeRaw (i + 1) (String.singleton c) false
  else failure

/-- Whether the next token starts with a character. -/
def atChar (c : Char) : P Bool := do
  return (← source).get (← nextIndex) == c

/-- The `mut` keyword as a mutable specifier. -/
def mutable : P Cst := do
  let k ← keyword "mut"
  return .token "mutable_specifier" true k.start k.stop

/-- The kinds of expression that end with a block and may stand as statements. -/
def endsWithBlock (c : Cst) : Bool :=
  ["if_expression", "match_expression", "loop_expression", "while_expression", "for_expression",
   "block", "unsafe_block", "async_block", "const_block", "try_block", "gen_block"].contains c.kind

/-- A literal token as its tree: strings keep their pieces, booleans wrap their keyword. -/
def literalKinds : List String :=
  ["integer_literal", "float_literal", "char_literal"]

/-- A token as it stands in a stretch the parser could not place. -/
def looseToken (s : Source) (l : Lexeme) : Cst :=
  let a := s.offset l.start
  let b := s.offset l.stop
  match l.kind with
  | .word =>
    let w := s.slice l.start l.stop
    if keywords.contains w then .token w false a b else .token "identifier" true a b
  | .special k => .token k true a b
  | .punct p => .token p false a b
  | .quote _ => .token "\"" false a b
  | .invalid => .node "ERROR" true a b []
  | _ => .token "" false a b

/-- The items of a value that does not read, up to the semicolon that ends its
statement: the tokens as they stand, but a quote, an error and a name in a row, which
read as a label with the error inside it.  The items hold an error token, and no
brace opens among them. -/
def strayValueItems : Nat → P (List Cst)
  | 0 => failure
  | n + 1 => do
    let l ← peek
    let s ← source
    match l.kind with
    | .eof => failure
    | .punct ";" => return []
    | .punct "\x7b" => failure
    | .punct "'" =>
      let bad ← peekAfter l
      let name ← peekAfter bad
      if bad.kind == .invalid && name.kind == .word then
        let q ← take l "'" false
        let _ ← take bad "" false
        let a := s.offset bad.start
        let b := s.offset bad.stop
        let err : Cst := .node "ERROR" true a b [plain (.node "ERROR" true a b [])]
        let nm ← take name "identifier" true
        let lab ← node "label" [plain q, plain err, plain nm]
        return lab :: (← strayValueItems n)
      else
        let _ ← take l "" false
        return looseToken s l :: (← strayValueItems n)
    | _ =>
      let _ ← take l "" false
      return looseToken s l :: (← strayValueItems n)

/-- Whether the tokens from `l` up to a semicolon hold an error token and open no
brace. -/
def strayUpToSemicolon (lx : Lexer) (s : Source) (l : Lexeme) : Nat → Bool → Bool
  | 0, _ => false
  | n + 1, seen =>
    match l.kind with
    | .eof => false
    | .punct ";" => seen
    | .punct "\x7b" => false
    | k => strayUpToSemicolon lx s (lx.scan s (lx.nextStart s l.stop)) n (seen || k == .invalid)

/-- A value that does not read, kept with its equals sign in an error node up to the
semicolon, when an error token stands in it. -/
def strayValue (n : Nat) : P (List Child) := do
  let e ← read
  let l ← peek
  if !strayUpToSemicolon e.lexer e.src l (e.src.length + 1) false then failure
  else
    let eq ← punct "="
    let items ← strayValueItems n
    return errorNode (eq :: items)

mutual

-- ## Expressions

/-- An expression: an assignment, or a range or binary expression. -/
def expression : Nat → Bool → P Cst
  | 0, _ => failure
  | n + 1, structOk => do
    let left ← range n structOk
    let l ← peek
    match l.kind with
    | .punct "=" =>
      let eq ← punct "="
      let right ← expression n structOk
      node "assignment_expression" [fld "left" left, plain eq, fld "right" right]
    | .punct op =>
      if compoundOperators.contains op then
        let o ← punct op
        let right ← expression n structOk
        node "compound_assignment_expr" [fld "left" left, fld "operator" o, fld "right" right]
      else return left
    | _ => return left

/-- A range expression, or a binary expression. -/
def range : Nat → Bool → P Cst
  | 0, _ => failure
  | n + 1, structOk => do
    if (← atPunct "..") || (← atPunct "..=") then
      let l ← peek
      commit l.start
      let op ← takeRaw (l.start + 2) ".." false
      if ← startsExpression then
        let right ← binary n structOk 2
        node "range_expression" [plain op, plain right]
      else node "range_expression" [plain op]
    else
      let left ← binary n structOk 2
      if (← atPunct "..") || (← atPunct "..=") || (← atPunct "...") then
        let l ← peek
        let op ← take l (← lexText l) false
        if ← startsExpression then
          let right ← binary n structOk 2
          node "range_expression" [plain left, plain op, plain right]
        else node "range_expression" [plain left, plain op]
      else return left

/-- Whether the next token may start an expression. -/
def startsExpression : P Bool := do
  let l ← peek
  match l.kind with
  | .eof => return false
  | .punct p => return ["(", "[", "\x7b", "-", "!", "*", "&", "&&", "|", "||", "::", "<", "'", "#"].contains p
  | .word => return !(["as", "else", "in"].contains (← lexText l))
  | _ => return true

/-- Operands joined by binary operators of at least a level. -/
def binary : Nat → Bool → Nat → P Cst
  | 0, _, _ => failure
  | n + 1, structOk, minLevel => do
    let left ← cast n structOk
    binaryLoop n structOk minLevel left

/-- Extend a left operand with binary operators of at least a level. -/
def binaryLoop : Nat → Bool → Nat → Cst → P Cst
  | 0, _, _, _ => failure
  | n + 1, structOk, minLevel, left => do
    let l ← peek
    match l.kind with
    | .punct p =>
      match binaryLevel p with
      | some lv =>
        if lv < minLevel then return left
        else
          let o ← take l p false
          let right ← binary n structOk (lv + 1)
          let e ← node "binary_expression" [fld "left" left, fld "operator" o, fld "right" right]
          binaryLoop n structOk minLevel e
      | none => return left
    | _ => return left

/-- A prefix expression followed by casts with `as`. -/
def cast : Nat → Bool → P Cst
  | 0, _ => failure
  | n + 1, structOk => do
    let e ← unary n structOk
    castLoop n e

/-- The `as` casts after an operand. -/
def castLoop : Nat → Cst → P Cst
  | 0, _ => failure
  | n + 1, e => do
    if ← atWord "as" then
      let a ← keyword "as"
      let t ← singleType n
      let c ← node "type_cast_expression" [fld "value" e, plain a, fld "type" t]
      castLoop n c
    else return e

/-- Prefix operators and references, or an operand with its suffixes. -/
def unary : Nat → Bool → P Cst
  | 0, _ => failure
  | n + 1, structOk => do
    let l ← peek
    match l.kind with
    | .punct "-" | .punct "!" | .punct "*" =>
      let p ← lexText l
      let o ← take l p false
      let a ← unary n structOk
      node "unary_expression" [plain o, plain a]
    | .punct "&" | .punct "&&" =>
      let amp ← takeChar '&'
      if ← atChar '&' then
        let inner ← unary n structOk
        let r ← node "reference_expression" [plain amp, fld "value" inner]
        return r
      else
        let m ← if ← atWord "mut" then pure [plain (← mutable)]
          else pure []
        let a ← unary n structOk
        node "reference_expression" ([plain amp] ++ m ++ [fld "value" a])
    | _ =>
      let p ← primary n structOk
      suffixLoop n structOk p

/-- Extend an operand with calls, indexing, field accesses, `.await` and `?`. -/
def suffixLoop : Nat → Bool → Cst → P Cst
  | 0, _, _ => failure
  | n + 1, structOk, base => do
    let l ← peek
    match l.kind with
    | .punct "?" =>
      let q ← punct "?"
      let e ← node "try_expression" [plain base, plain q]
      suffixLoop n structOk e
    | .punct "(" =>
      let args ← arguments n
      let e ← node "call_expression" [fld "function" base, fld "arguments" args]
      suffixLoop n structOk e
    | .punct "[" =>
      let o ← punct "["
      let i ← expression n true
      let c ← punct "]"
      let e ← node "index_expression" [plain base, plain o, plain i, plain c]
      suffixLoop n structOk e
    | .punct "." =>
      let dot ← punct "."
      let l2 ← peek
      if ← wordIs l2 "await" then
        let a ← keyword "await"
        let e ← node "await_expression" [plain base, plain dot, plain a]
        suffixLoop n structOk e
      else
        let field ← match l2.kind with
          | .word => take l2 "field_identifier" true
          | .special "integer_literal" => take l2 "integer_literal" true
          | .special "float_literal" => do
            let s ← source
            let j := s.skipWhile (·.isDigit) l2.start
            if s.get j == '.' then
              commit l2.start
              takeRaw j "integer_literal" true
            else failure
          | _ => failure
        let e ← node "field_expression" [fld "value" base, plain dot, fld "field" field]
        if (← atPunct "::") && (← peekAfter (← peek)).kind == .punct "<" then
          let cc ← punct "::"
          let ta ← typeArguments n
          let g ← node "generic_function" [fld "function" e, plain cc, fld "type_arguments" ta]
          suffixLoop n structOk g
        else suffixLoop n structOk e
    | _ => return base

/-- Call arguments in parentheses. -/
def arguments : Nat → P Cst
  | 0 => failure
  | n + 1 => do
    let o ← punct "("
    let items ← expressionItems n ")"
    let c ← closing ")"
    node "arguments" ([plain o] ++ items ++ [plain c])

/-- A closing bracket, or one reported missing while the allowance lasts. -/
def closing : String → P Cst
  | p => do
    if ← atPunct p then punct p else missingHere p

/-- Expressions separated by commas up to a closing bracket. -/
def expressionItems : Nat → String → P (List Child)
  | 0, _ => failure
  | n + 1, close => do
    if ← atPunct close then return []
    else
      let attrs ← attributes n
      let e ← expression n true
      if ← atPunct "," then
        let comma ← punct ","
        let rest ← expressionItems n close
        return attrs ++ plain e :: plain comma :: rest
      else return attrs ++ [plain e]

/-- Primary expressions: literals, paths, macro invocations, struct expressions, bracketed
forms, closures, blocks and the control-flow expressions. -/
def primary : Nat → Bool → P Cst
  | 0, _ => failure
  | n + 1, structOk => do
    let l ← peek
    match l.kind with
    | .special "raw_string" => rawString n
    | .special k => take l k true
    | .quote _ => stringLiteral n
    | .punct "(" =>
      let o ← punct "("
      if ← atPunct ")" then
        let c ← punct ")"
        node "unit_expression" [plain o, plain c]
      else
        let first ← expression n true
        if ← atPunct "," then
          let comma ← punct ","
          let rest ← expressionItems n ")"
          let c ← punct ")"
          node "tuple_expression" ([plain o, plain first, plain comma] ++ rest ++ [plain c])
        else
          let c ← punct ")"
          node "parenthesized_expression" [plain o, plain first, plain c]
    | .punct "[" =>
      let o ← punct "["
      if ← atPunct "]" then
        let c ← punct "]"
        node "array_expression" [plain o, plain c]
      else
        let first ← expression n true
        if ← atPunct ";" then
          let semi ← punct ";"
          let len ← expression n true
          let c ← punct "]"
          node "array_expression" [plain o, plain first, plain semi, fld "length" len, plain c]
        else if ← atPunct "," then
          let comma ← punct ","
          let rest ← expressionItems n "]"
          let c ← punct "]"
          node "array_expression" ([plain o, plain first, plain comma] ++ rest ++ [plain c])
        else
          let c ← punct "]"
          node "array_expression" [plain o, plain first, plain c]
    | .punct "|" | .punct "||" => closure n structOk []
    | .punct "\x7b" => block n []
    | .punct "'" =>
      let lbl ← label n
      let colon ← punct ":"
      let pre := [plain lbl, plain colon]
      if ← atWord "loop" then loopExpression n pre
      else if ← atWord "while" then whileExpression n pre
      else if ← atWord "for" then forExpression n pre
      else block n pre
    | .punct "::" => pathExpression n structOk
    | .punct "<" => pathExpression n structOk
    | .word =>
      let w ← lexText l
      let l2 ← peekAfter l
      match w with
      | "true" | "false" => node "boolean_literal" [plain (← take l w false)]
      | "if" => ifExpression n
      | "match" => matchExpression n
      | "loop" => loopExpression n []
      | "while" => whileExpression n []
      | "for" => forExpression n []
      | "unsafe" =>
        let u ← keyword "unsafe"
        let b ← block n []
        node "unsafe_block" [plain u, plain b]
      | "async" =>
        if (← wordIs l2 "move") || l2.kind == .punct "\x7b" then
          let a ← keyword "async"
          let mv ← optKeyword "move"
          let b ← block n []
          node "async_block" ([plain a] ++ mv ++ [plain b])
        else closure n structOk []
      | "const" =>
        let c ← keyword "const"
        let b ← block n []
        node "const_block" [plain c, fld "body" b]
      | "gen" =>
        if (← wordIs l2 "move") || l2.kind == .punct "\x7b" then
          let g ← take l "gen" false
          let mv ← optKeyword "move"
          let b ← block n []
          node "gen_block" ([plain g] ++ mv ++ [plain b])
        else pathExpression n structOk
      | "try" =>
        if l2.kind == .punct "\x7b" then
          let t ← take l "try" false
          let b ← block n []
          node "try_block" [plain t, plain b]
        else pathExpression n structOk
      | "move" => closure n structOk []
      | "static" => closure n structOk []
      | "return" =>
        let r ← keyword "return"
        if ← startsExpression then
          let e ← expression n structOk
          node "return_expression" [plain r, plain e]
        else node "return_expression" [plain r]
      | "break" =>
        let b ← keyword "break"
        let lbl ← if ← atPunct "'" then pure [plain (← label n)] else pure []
        if ← startsExpression then
          let e ← expression n structOk
          node "break_expression" ([plain b] ++ lbl ++ [plain e])
        else node "break_expression" ([plain b] ++ lbl)
      | "continue" =>
        let c ← keyword "continue"
        let lbl ← if ← atPunct "'" then pure [plain (← label n)] else pure []
        node "continue_expression" ([plain c] ++ lbl)
      | "yield" =>
        let y ← take l "yield" false
        if ← startsExpression then
          let e ← expression n structOk
          node "yield_expression" [plain y, plain e]
        else node "yield_expression" [plain y]
      | _ => pathExpression n structOk
    | .punct "\x7d" =>
      -- before a closing brace the operand reported missing is a literal
      let t ← missingHere "true"
      return .node "boolean_literal" true t.start t.stop [plain t]
    | .punct "," | .punct ";" | .punct ")" | .punct "]" | .eof =>
      missingLeaf "identifier"
    | _ => failure

/-- A path used as an expression, with what may follow it: a macro invocation, a struct
expression or generic arguments. -/
def pathExpression : Nat → Bool → P Cst
  | 0, _ => failure
  | n + 1, structOk => do
    let p ← path n
    if (← atPunct "!") && ["identifier", "scoped_identifier"].contains p.kind then
      let l2 ← peekAfter (← peek)
      if l2.kind == .punct "(" || l2.kind == .punct "[" || l2.kind == .punct "\x7b" then
        match ← attempt (do let bang ← punct "!"; let tt ← tokenTree n; pure (bang, tt)) with
        | some (bang, tt) => node "macro_invocation" [fld "macro" p, plain bang, plain tt]
        | none =>
          -- an invocation left open up to the brace that closes the block: in a repair the
          -- name stands alone, the rest is an error, and the end of the statement is missing
          let err ← errorRun looseToken (stringLiteral n) "\x7d"
          modify fun c => { c with extras := c.extras.push err, missing := 1 }
          return p
      else return p
    else if structOk && (← atPunct "\x7b") && (p.kind == "identifier" || p.kind == "scoped_identifier") then
      match ← attempt (fieldInitializers n) with
      | some body =>
        let name := if p.kind == "identifier" then Cst.token "type_identifier" true p.start p.stop
          else Cst.node "scoped_type_identifier" true p.start p.stop (renameLast p.children)
        node "struct_expression" [fld "name" name, fld "body" body]
      | none => return p
    else turbofish n p

/-- Generic arguments after `::` at the end of a path: the path is a generic function, or,
when more segments follow, a generic type they are scoped in. -/
def turbofish : Nat → Cst → P Cst
  | 0, _ => failure
  | n + 1, p => do
    if (← atPunct "::") && (← peekAfter (← peek)).kind == .punct "<" then
      let cc ← punct "::"
      let ta ← typeArguments n
      if (← atPunct "::") && (← peekAfter (← peek)).kind == .word then
        let t := if p.kind == "identifier" then Cst.token "type_identifier" true p.start p.stop else p
        let g ← node "generic_type" [fld "type" t, plain cc, fld "type_arguments" ta]
        let cc2 ← punct "::"
        let name ← pathSegment n
        let e ← node "scoped_identifier" [fld "path" g, plain cc2, fld "name" name]
        let e ← pathTail n e
        turbofish n e
      else node "generic_function" [fld "function" p, plain cc, fld "type_arguments" ta]
    else return p

/-- The fields of a scoped path with its last name read as a type identifier. -/
def renameLast : List Child → List Child
  | [] => []
  | [(f, c)] => [(f, Cst.token "type_identifier" true c.start c.stop)]
  | x :: rest => x :: renameLast rest

/-- A path: names joined by `::`, each an identifier or `self`, `super` or `crate`. -/
def path : Nat → P Cst
  | 0 => failure
  | n + 1 => do
    let first ← if ← atPunct "::" then
        let cc ← punct "::"
        let name ← pathSegment n
        node "scoped_identifier" [plain cc, fld "name" name]
      else if ← atPunct "<" then
        let bt ← bracketedType n
        let cc ← punct "::"
        let name ← pathSegment n
        node "scoped_identifier" [fld "path" bt, plain cc, fld "name" name]
      else pathSegment n
    pathTail n first

/-- A type in angle brackets that a path starts from, possibly qualified as a trait
with `as`. -/
def bracketedType : Nat → P Cst
  | 0 => failure
  | n + 1 => do
    let lt ← punct "<"
    let t ← type n
    let inner ← if ← atWord "as" then
        let a ← keyword "as"
        let aliasPart ← type n
        node "qualified_type" [fld "type" t, plain a, fld "alias" aliasPart]
      else pure t
    let gt ← takeChar '>'
    node "bracketed_type" [plain lt, plain inner, plain gt]

/-- One segment of a path. -/
def pathSegment : Nat → P Cst
  | 0 => failure
  | _ + 1 => do
    let l ← peek
    if l.kind != .word then failure
    else
      let w ← lexText l
      if w == "self" || w == "super" || w == "crate" then take l w true
      else if keywords.contains w then failure
      else take l "identifier" true

/-- The `::` segments after the first of a path. -/
def pathTail : Nat → Cst → P Cst
  | 0, _ => failure
  | n + 1, left => do
    if (← atPunct "::") && (← peekAfter (← peek)).kind == .word then
      let cc ← punct "::"
      let name ← pathSegment n
      let e ← node "scoped_identifier" [fld "path" left, plain cc, fld "name" name]
      pathTail n e
    else return left

/-- The field initializers of a struct expression. -/
def fieldInitializers : Nat → P Cst
  | 0 => failure
  | n + 1 => do
    let o ← punct "\x7b"
    let items ← fieldInitializerItems n
    let c ← punct "\x7d"
    node "field_initializer_list" ([plain o] ++ items ++ [plain c])

/-- Field initializers separated by commas. -/
def fieldInitializerItems : Nat → P (List Child)
  | 0 => failure
  | n + 1 => do
    if ← atPunct "\x7d" then return []
    else
      let item ← if ← atPunct ".." then
          let d ← punct ".."
          let e ← expression n true
          node "base_field_initializer" [plain d, plain e]
        else
          let l ← peek
          let l2 ← peekAfter l
          if l2.kind == .punct ":" then
            let name ← match l.kind with
              | .special "integer_literal" => take l "integer_literal" true
              | .word => take l "field_identifier" true
              | _ => failure
            let colon ← punct ":"
            let v ← expression n true
            node "field_initializer" [fld "field" name, plain colon, fld "value" v]
          else if l.kind == .word then
            node "shorthand_field_initializer" [plain (← take l "identifier" true)]
          else failure
      if ← atPunct "," then
        let comma ← punct ","
        let rest ← fieldInitializerItems n
        return plain item :: plain comma :: rest
      else return [plain item]

/-- A string literal: its quotes, content and escape sequences. -/
def stringLiteral : Nat → P Cst
  | 0 => failure
  | n + 1 => do
    let l ← peek
    let o ← take l "\"" false
    let parts ← stringParts n
    node "string_literal" (plain o :: parts)

/-- The tokens after an escape that does not read, inside a string: read as tokens of
code, up to a quote or a whole escape sequence, where the string goes on. -/
def tokensInString : Nat → P (List Cst)
  | 0 => failure
  | n + 1 => do
    let l ← peek
    match l.kind with
    | .eof => failure
    | .quote _ => commit l.start; return []
    | .special "escape_sequence" => commit l.start; return []
    | _ =>
      let _ ← take l "" false
      let t := looseToken (← source) l
      return t :: (← tokensInString n)

/-- The rest of a string literal after its opening quote.  An escape that does not read
is an error node, with the tokens after it up to where the string goes on. -/
def stringParts : Nat → P (List Child)
  | 0 => failure
  | n + 1 => do
    let s ← source
    let i ← pos
    let c := s.get i
    if s.atEnd i then failure
    else if c == '"' then return [plain (← takeRaw (i + 1) "\"" false)]
    else if c == '\\' then
      let (j, whole) := Rust.escapeScan s i
      if whole then
        let e ← takeRaw j "escape_sequence" true
        let rest ← stringParts n
        return plain e :: rest
      else
        let _ ← takeRaw j "" false
        let bad : Cst := .node "ERROR" true (s.offset i) (s.offset j) []
        let skipped ← tokensInString n
        let items := bad :: skipped
        let rest ← stringParts n
        return errorNode items ++ rest
    else
      let j := s.skipWhile (fun x => x != '"' && x != '\\') i
      let f ← takeRaw j "string_content" true
      let rest ← stringParts n
      return plain f :: rest

/-- A raw string literal: its opening, its content and its closing. -/
def rawString : Nat → P Cst
  | 0 => failure
  | _ + 1 => do
    let s ← source
    let l ← peek
    let prefixed := if s.get l.start == 'r' then l.start else l.start + 1
    let hashes := l.stop - prefixed - 2
    let closer := "\"" ++ String.ofList (List.replicate hashes '#')
    let close := s.findText closer l.stop
    if s.atEnd close then failure
    else
      let _ ← take l "" false
      let content ← takeRaw close "string_content" true
      let _ ← takeRaw (close + closer.length) "" false
      return .node "raw_string_literal" true (s.offset l.start) (s.offset (close + closer.length))
        [plain content]

/-- A label: a quote and a name. -/
def label : Nat → P Cst
  | 0 => failure
  | _ + 1 => do
    let q ← punct "'"
    let l ← peek
    if l.kind != .word then failure
    else
      let name ← take l "identifier" true
      node "label" [plain q, plain name]

/-- A lifetime: a quote and a name. -/
def lifetime : Nat → P Cst
  | 0 => failure
  | _ + 1 => do
    let q ← punct "'"
    let l ← peek
    if l.kind != .word then failure
    else
      let name ← take l "identifier" true
      node "lifetime" [plain q, plain name]

/-- A closure: modifiers, parameters between bars, an optional return type and a body. -/
def closure : Nat → Bool → List Child → P Cst
  | 0, _, _ => failure
  | n + 1, structOk, _ => do
    let st ← optKeyword "static"
    let asy ← optKeyword "async"
    let mv ← optKeyword "move"
    let params ← if ← atPunct "||" then
        let l ← peek
        let a ← takeRaw' l.start (l.start + 1)
        let b ← takeRaw' (l.start + 1) (l.start + 2)
        node "closure_parameters" [plain a, plain b]
      else
        let o ← punct "|"
        let items ← closureParameterItems n
        let c ← punct "|"
        node "closure_parameters" ([plain o] ++ items ++ [plain c])
    if ← atPunct "->" then
      let arrow ← punct "->"
      let t ← type n
      let body ← block n []
      node "closure_expression" (st ++ asy ++ mv ++ [fld "parameters" params, plain arrow, fld "return_type" t,
        fld "body" body])
    else
      let body ← expression n structOk
      node "closure_expression" (st ++ asy ++ mv ++ [fld "parameters" params, fld "body" body])

/-- Take the characters between two indices as a bar leaf. -/
def takeRaw' : Nat → Nat → P Cst
  | a, b => do
    commit a
    takeRaw b "|" false

/-- The parameters of a closure. -/
def closureParameterItems : Nat → P (List Child)
  | 0 => failure
  | n + 1 => do
    if ← atPunct "|" then return []
    else
      let p ← pattern n false
      let item ← if ← atPunct ":" then
          let colon ← punct ":"
          let t ← type n
          node "parameter" [fld "pattern" p, plain colon, fld "type" t]
        else pure p
      if ← atPunct "," then
        let comma ← punct ","
        let rest ← closureParameterItems n
        return plain item :: plain comma :: rest
      else return [plain item]

/-- A block: an optional label, `{`, statements, an optional final expression and `}`. -/
def block : Nat → List Child → P Cst
  | 0, _ => failure
  | n + 1, pre => do
    let o ← punct "\x7b"
    let items ← blockItems n
    let c ← closing "\x7d"
    node "block" (pre ++ [plain o] ++ items ++ [plain c])

/-- The statements of a block, with its final expression. -/
def blockItems : Nat → P (List Child)
  | 0 => failure
  | n + 1 => do
    if (← atPunct "\x7d") || (← atEof) then return []
    else
      let st ← match ← attempt (statement n true) with
        | some st => pure st
        | none => recoverOne (statement n true) looseToken
      let rest ← blockItems n
      return st ++ rest

/-- An `if` expression with its `else` clause. -/
def ifExpression : Nat → P Cst
  | 0 => failure
  | n + 1 => do
    let kw ← keyword "if"
    let c ← condition n
    let yes ← block n []
    let alt ← if ← atWord "else" then
        let e ← keyword "else"
        let body ← if ← atWord "if" then ifExpression n else block n []
        pure [fld "alternative" (← node "else_clause" [plain e, plain body])]
      else pure []
    node "if_expression" ([plain kw] ++ inField "condition" c ++ [fld "consequence" yes] ++ alt)

/-- A condition: an expression, a `let` condition or a chain of them joined by `&&`. -/
def condition : Nat → P (List Child)
  | 0 => failure
  | n + 1 => do
    if ← atWord "let" then
      let first ← letCondition n
      if ← atPunct "&&" then
        let rest ← letChainRest n
        return [plain (← node "let_chain" (plain first :: rest))]
      else return [plain first]
    else
      let e ← expression n false
      if (← atPunct "&&") && (← wordIs (← peekAfter (← peek)) "let") then
        let rest ← letChainRest n
        return [plain (← node "let_chain" (plain e :: rest))]
      else return [plain e]

/-- `let`, a pattern, `=` and a value, as a condition. -/
def letCondition : Nat → P Cst
  | 0 => failure
  | n + 1 => do
    let kw ← keyword "let"
    let p ← pattern n true
    let eq ← punct "="
    let v ← binary n false 4
    node "let_condition" [plain kw, fld "pattern" p, plain eq, fld "value" v]

/-- The `&&` parts of a chain of conditions. -/
def letChainRest : Nat → P (List Child)
  | 0 => failure
  | n + 1 => do
    if ← atPunct "&&" then
      let amp ← punct "&&"
      let c ← if ← atWord "let" then letCondition n else binary n false 4
      let rest ← letChainRest n
      return plain amp :: plain c :: rest
    else return []

/-- A `match` expression. -/
def matchExpression : Nat → P Cst
  | 0 => failure
  | n + 1 => do
    let kw ← keyword "match"
    let v ← expression n false
    let o ← punct "\x7b"
    let arms ← matchArms n
    let c ← punct "\x7d"
    let body ← node "match_block" ([plain o] ++ arms ++ [plain c])
    node "match_expression" [plain kw, fld "value" v, fld "body" body]

/-- The arms of a `match` block. -/
def matchArms : Nat → P (List Child)
  | 0 => failure
  | n + 1 => do
    if ← atPunct "\x7d" then return []
    else
      let attrs ← attributes n
      let p ← pattern n true
      let guard ← if ← atWord "if" then
          let i ← keyword "if"
          let c ← condition n
          pure (plain i :: inField "condition" c)
        else pure []
      let mp ← node "match_pattern" (plain p :: guard)
      let arrow ← punct "=>"
      let v ← expression n true
      if ← atPunct "," then
        let comma ← punct ","
        let arm ← node "match_arm" (attrs ++ [fld "pattern" mp, plain arrow, fld "value" v, plain comma])
        let rest ← matchArms n
        return plain arm :: rest
      else if (← atPunct "\x7d") || endsWithBlock v then
        let arm ← node "match_arm" (attrs ++ [fld "pattern" mp, plain arrow, fld "value" v])
        let rest ← matchArms n
        return plain arm :: rest
      else failure

/-- A `loop` expression after its label. -/
def loopExpression : Nat → List Child → P Cst
  | 0, _ => failure
  | n + 1, pre => do
    let kw ← keyword "loop"
    let body ← block n []
    node "loop_expression" (pre ++ [plain kw, fld "body" body])

/-- A `while` expression after its label. -/
def whileExpression : Nat → List Child → P Cst
  | 0, _ => failure
  | n + 1, pre => do
    let kw ← keyword "while"
    let c ← condition n
    let body ← block n []
    node "while_expression" (pre ++ [plain kw] ++ inField "condition" c ++ [fld "body" body])

/-- A `for` expression after its label. -/
def forExpression : Nat → List Child → P Cst
  | 0, _ => failure
  | n + 1, pre => do
    let kw ← keyword "for"
    let p ← pattern n true
    let inKw ← keyword "in"
    let v ← expression n false
    let body ← block n []
    node "for_expression" (pre ++ [plain kw, fld "pattern" p, plain inKw, fld "value" v, fld "body" body])

/-- A token tree in parentheses, brackets or braces. -/
def tokenTree : Nat → P Cst
  | 0 => failure
  | n + 1 => delimitedTokens n false

/-- Tokens in parentheses, brackets or braces: a token tree, or a pattern tree when
`pattern` (the left side of a macro rule). -/
def delimitedTokens : Nat → Bool → P Cst
  | 0, _ => failure
  | n + 1, pattern => do
    let l ← peek
    let close ← match l.kind with
      | .punct "(" => pure ")"
      | .punct "[" => pure "]"
      | .punct "\x7b" => pure "\x7d"
      | _ => failure
    let o ← take l (← lexText l) false
    let items ← tokenTreeItems n close pattern
    let c ← punct close
    node (if pattern then "token_tree_pattern" else "token_tree") ([plain o] ++ items ++ [plain c])

/-- A repetition in a token tree after its `$`: tokens in parentheses, an optional
separator, which leaves no node, and the operator `+`, `*` or `?`. -/
def tokenRepetition : Nat → Cst → Bool → P Cst
  | 0, _, _ => failure
  | n + 1, d, pattern => do
    let o ← punct "("
    let items ← tokenTreeItems n ")" pattern
    let c ← punct ")"
    let op ← repetitionOperator n
    node (if pattern then "token_repetition_pattern" else "token_repetition")
      ([plain d, plain o] ++ items ++ [plain c, plain op])

/-- The operator of a repetition, after the tokens of its separator. -/
def repetitionOperator : Nat → P Cst
  | 0 => failure
  | n + 1 => do
    let l ← peek
    match l.kind with
    | .punct p =>
      if p == "+" || p == "*" || p == "?" then take l p false
      else if p == "(" || p == ")" || p == "[" || p == "]" || p == "\x7b" || p == "\x7d" then failure
      else do
        let _ ← take l p false
        repetitionOperator n
    | .eof => failure
    | _ => do
      let _ ← take l "" false
      repetitionOperator n

/-- A fragment binding after its metavariable: `:` and the kind of fragment. -/
def fragmentBinding : Nat → Cst → P Cst
  | 0, _ => failure
  | _ + 1, m => do
    let colon ← punct ":"
    let l ← peek
    if l.kind != .word then failure
    let w ← lexText l
    if !fragmentSpecifiers.contains w then failure
    let kw ← take l w false
    let spec ← node "fragment_specifier" [plain kw]
    node "token_binding_pattern" [fld "name" m, plain colon, fld "type" spec]

/-- The tokens of a token tree up to its closing delimiter; in a pattern tree,
`$name:kind` binds a fragment. -/
def tokenTreeItems : Nat → String → Bool → P (List Child)
  | 0, _, _ => failure
  | n + 1, close, pattern => do
    let l ← peek
    match l.kind with
    | .eof => failure
    | .punct p =>
      if p == close then return []
      else if p == "(" || p == "[" || p == "\x7b" then
        let t ← delimitedTokens n pattern
        let rest ← tokenTreeItems n close pattern
        return plain t :: rest
      else if p == ")" || p == "]" || p == "\x7d" then failure
      else if p == "$" then
        let d ← punct "$"
        let l2 ← peek
        if l2.kind == .word && (← startsAt l2 d) then
          let name ← take l2 "identifier" true
          let m := Cst.node "metavariable" true d.start name.stop []
          let item ← if pattern && (← atPunct ":") then
              match ← attempt (fragmentBinding n m) with
              | some b => pure b
              | none => pure m
            else pure m
          let rest ← tokenTreeItems n close pattern
          return plain item :: rest
        else if l2.kind == .punct "(" then
          match ← attempt (tokenRepetition n d pattern) with
          | some r =>
            let rest ← tokenTreeItems n close pattern
            return plain r :: rest
          | none =>
            let rest ← tokenTreeItems n close pattern
            return plain d :: rest
        else
          let rest ← tokenTreeItems n close pattern
          return plain d :: rest
      else
        let t ← take l p false
        let rest ← tokenTreeItems n close pattern
        return plain t :: rest
    | .word =>
      let w ← lexText l
      let t ← if w == "self" || w == "super" || w == "crate" then take l w true
        else if w == "mut" then take l "mutable_specifier" true
        else if w == "true" || w == "false" then node "boolean_literal" [plain (← take l w false)]
        else if primitiveTypes.contains w then take l "primitive_type" true
        else if keywords.contains w then take l w false
        else take l "identifier" true
      let rest ← tokenTreeItems n close pattern
      return plain t :: rest
    | .quote _ =>
      let t ← stringLiteral n
      let rest ← tokenTreeItems n close pattern
      return plain t :: rest
    | .special "raw_string" =>
      let t ← rawString n
      let rest ← tokenTreeItems n close pattern
      return plain t :: rest
    | .special k =>
      let t ← take l k true
      let rest ← tokenTreeItems n close pattern
      return plain t :: rest
    | _ =>
      let t ← take l "" false
      let rest ← tokenTreeItems n close pattern
      return plain t :: rest

-- ## Patterns

/-- A pattern, with alternatives joined by `|` where they are allowed. -/
def pattern : Nat → Bool → P Cst
  | 0, _ => failure
  | n + 1, alternatives => do
    let leading ← if alternatives && (← atPunct "|") then pure [plain (← punct "|")] else pure []
    let first ← singlePattern n
    if alternatives && (← atPunct "|") then
      let e ← orPatternTail n first
      if leading.isEmpty then return e else node "or_pattern" (leading ++ [plain e])
    else if leading.isEmpty then return first
    else node "or_pattern" (leading ++ [plain first])

/-- The `|` alternatives after a first pattern. -/
def orPatternTail : Nat → Cst → P Cst
  | 0, _ => failure
  | n + 1, left => do
    if ← atPunct "|" then
      let bar ← punct "|"
      let right ← singlePattern n
      let e ← node "or_pattern" [plain left, plain bar, plain right]
      orPatternTail n e
    else return left

/-- A pattern without alternatives. -/
def singlePattern : Nat → P Cst
  | 0 => failure
  | n + 1 => do
    let l ← peek
    match l.kind with
    | .punct "(" =>
      let o ← punct "("
      let items ← patternItems n ")"
      let c ← punct ")"
      node "tuple_pattern" ([plain o] ++ items ++ [plain c])
    | .punct "[" =>
      let o ← punct "["
      let items ← patternItems n "]"
      let c ← punct "]"
      node "slice_pattern" ([plain o] ++ items ++ [plain c])
    | .punct "&" | .punct "&&" =>
      let amp ← takeChar '&'
      let m ← if ← atWord "mut" then pure [plain (← mutable)]
        else pure []
      let p ← singlePattern n
      node "reference_pattern" ([plain amp] ++ m ++ [plain p])
    | .punct ".." => node "remaining_field_pattern" [plain (← punct "..")]
    | .punct "-" =>
      let m ← punct "-"
      let l2 ← peek
      let lit ← match l2.kind with
        | .special k => take l2 k true
        | _ => failure
      let neg ← node "negative_literal" [plain m, plain lit]
      rangePatternTail n neg
    | .special "raw_string" => rawString n
    | .special k =>
      let lit ← take l k true
      rangePatternTail n lit
    | .quote _ => stringLiteral n
    | .word =>
      let w ← lexText l
      if w == "_" then take l "_" false
      else if w == "ref" then
        let r ← keyword "ref"
        let p ← singlePattern n
        node "ref_pattern" [plain r, plain p]
      else if w == "mut" then
        let m ← mutable
        let p ← singlePattern n
        node "mut_pattern" [plain m, plain p]
      else if w == "true" || w == "false" then node "boolean_literal" [plain (← take l w false)]
      else
        let p ← path n
        if (← atPunct "::") && (← peekAfter (← peek)).kind == .punct "<" then
          let cc ← punct "::"
          let args ← typeArguments n
          node "generic_pattern" [plain p, plain cc, fld "type_arguments" args]
        else if (← atPunct "!") then
          let bang ← punct "!"
          let tt ← tokenTree n
          node "macro_invocation" [fld "macro" p, plain bang, plain tt]
        else if ← atPunct "(" then
          let o ← punct "("
          let items ← patternItems n ")"
          let c ← punct ")"
          node "tuple_struct_pattern" ([fld "type" p, plain o] ++ items ++ [plain c])
        else if ← atPunct "\x7b" then
          let o ← punct "\x7b"
          let items ← fieldPatternItems n
          let c ← punct "\x7d"
          let name := if p.kind == "identifier" then Cst.token "type_identifier" true p.start p.stop
            else Cst.node "scoped_type_identifier" true p.start p.stop (renameLast p.children)
          node "struct_pattern" ([fld "type" name, plain o] ++ items ++ [plain c])
        else if (← atPunct "@") && p.kind == "identifier" then
          let at_ ← punct "@"
          let q ← singlePattern n
          node "captured_pattern" [plain p, plain at_, plain q]
        else rangePatternTail n p
    | _ => failure

/-- A range pattern after its lower bound, if `..=` or `...` follows. -/
def rangePatternTail : Nat → Cst → P Cst
  | 0, _ => failure
  | n + 1, low => do
    if (← atPunct "..=") || (← atPunct "...") || (← atPunct "..") then
      let l ← peek
      let op ← take l (← lexText l) false
      let l2 ← peek
      match l2.kind with
      | .special k =>
        let high ← take l2 k true
        node "range_pattern" [fld "left" low, plain op, fld "right" high]
      | .punct "-" =>
        let m ← punct "-"
        let l3 ← peek
        match l3.kind with
        | .special k =>
          let lit ← take l3 k true
          let neg ← node "negative_literal" [plain m, plain lit]
          node "range_pattern" [fld "left" low, plain op, fld "right" neg]
        | _ => failure
      | .word =>
        let high ← path n
        node "range_pattern" [fld "left" low, plain op, fld "right" high]
      | _ => node "range_pattern" [fld "left" low, plain op]
    else return low

/-- Patterns separated by commas up to a closing bracket. -/
def patternItems : Nat → String → P (List Child)
  | 0, _ => failure
  | n + 1, close => do
    if ← atPunct close then return []
    else
      let p ← pattern n true
      if ← atPunct "," then
        let comma ← punct ","
        let rest ← patternItems n close
        return plain p :: plain comma :: rest
      else return [plain p]

/-- The field patterns of a struct pattern. -/
def fieldPatternItems : Nat → P (List Child)
  | 0 => failure
  | n + 1 => do
    if ← atPunct "\x7d" then return []
    else
      let item ← if ← atPunct ".." then node "remaining_field_pattern" [plain (← punct "..")]
        else
          let r ← optKeyword "ref"
          let m ← if ← atWord "mut" then pure [plain (← mutable)]
            else pure []
          let l ← peek
          let l2 ← peekAfter l
          if l2.kind == .punct ":" then
            let name ← take l "field_identifier" true
            let colon ← punct ":"
            let p ← pattern n true
            node "field_pattern" (r ++ m ++ [fld "name" name, plain colon, fld "pattern" p])
          else
            let name ← take l "shorthand_field_identifier" true
            node "field_pattern" (r ++ m ++ [fld "name" name])
      if ← atPunct "," then
        let comma ← punct ","
        let rest ← fieldPatternItems n
        return plain item :: plain comma :: rest
      else return [plain item]

-- ## Types

/-- A type: a single type, or types and lifetimes joined by `+` into a bounded type. -/
def type : Nat → P Cst
  | 0 => failure
  | n + 1 => do
    match ← attempt (singleType n) with
    | some t => boundedTail n t
    | none => missingLeaf "type_identifier"

/-- The `+` parts of a bounded type after its first part. -/
def boundedTail : Nat → Cst → P Cst
  | 0, _ => failure
  | n + 1, left => do
    if ← atPunct "+" then
      let plus ← punct "+"
      let right ← singleType n
      let e ← node "bounded_type" [plain left, plain plus, plain right]
      boundedTail n e
    else return left

/-- A type without a bound joined to it by `+`. -/
def singleType : Nat → P Cst
  | 0 => failure
  | n + 1 => do
    let l ← peek
    match l.kind with
    | .punct "&" | .punct "&&" =>
      let amp ← takeChar '&'
      let lt ← if ← atPunct "'" then pure [plain (← lifetime n)] else pure []
      let m ← if ← atWord "mut" then pure [plain (← mutable)]
        else pure []
      let t ← singleType n
      node "reference_type" ([plain amp] ++ lt ++ m ++ [fld "type" t])
    | .punct "*" =>
      let star ← punct "*"
      let q ← if ← atWord "const" then pure (plain (← keyword "const"))
        else pure (plain (← mutable))
      let t ← singleType n
      node "pointer_type" [plain star, q, fld "type" t]
    | .punct "(" =>
      let o ← punct "("
      if ← atPunct ")" then
        let c ← punct ")"
        node "unit_type" [plain o, plain c]
      else
        let items ← typeItems n ")"
        let c ← punct ")"
        node "tuple_type" ([plain o] ++ items ++ [plain c])
    | .punct "[" =>
      let o ← punct "["
      let el ← singleType n
      if ← atPunct ";" then
        let semi ← punct ";"
        let len ← expression n true
        let c ← punct "]"
        node "array_type" [plain o, fld "element" el, plain semi, fld "length" len, plain c]
      else
        let c ← punct "]"
        node "array_type" [plain o, fld "element" el, plain c]
    | .punct "!" => node "never_type" [plain (← punct "!")]
    | .punct "<" =>
      let bt ← bracketedType n
      typePathTail n bt
    | .punct "'" => lifetime n
    | .punct "?" =>
      let q ← punct "?"
      let t ← singleType n
      node "removed_trait_bound" [plain q, plain t]
    | .word =>
      let w ← lexText l
      if w == "fn" || w == "unsafe" || w == "extern" then functionType n
      else if w == "impl" then
        let i ← keyword "impl"
        let t ← singleType n
        node "abstract_type" [plain i, fld "trait" t]
      else if w == "dyn" then
        let d ← keyword "dyn"
        let t ← singleType n
        node "dynamic_type" [plain d, fld "trait" t]
      else if primitiveTypes.contains w && (← peekAfter l).kind != .punct "::" then take l "primitive_type" true
      else if w == "use" && (← peekAfter l).kind == .punct "<" then
        let u ← keyword "use"
        let lt ← punct "<"
        let items ← useBoundItems n
        let gt ← takeChar '>'
        node "use_bounds" ([plain u, plain lt] ++ items ++ [plain gt])
      else if w == "for" && (← peekAfter l).kind == .punct "<" then
        match ← attempt (functionType n) with
        | some t => pure t
        | none =>
          let f ← keyword "for"
          let ps ← typeParameters n
          let t ← singleType n
          node "higher_ranked_trait_bound" [plain f, fld "type_parameters" ps, fld "type" t]
      else typePath n
    | _ => failure

/-- The lifetimes and type names a `use` bound captures, separated by commas. -/
def useBoundItems : Nat → P (List Child)
  | 0 => failure
  | n + 1 => do
    if ← atChar '>' then return []
    let item ← if ← atPunct "'" then lifetime n
      else
        let l ← peek
        if l.kind != .word then failure
        take l "type_identifier" true
    if ← atPunct "," then
      let comma ← punct ","
      let rest ← useBoundItems n
      return plain item :: plain comma :: rest
    else return [plain item]

/-- Lifetimes separated by commas, with a comma allowed at the end. -/
def lifetimeItems : Nat → P (List Child)
  | 0 => failure
  | n + 1 => do
    let lt ← lifetime n
    if ← atPunct "," then
      let comma ← punct ","
      if ← atChar '>' then return [plain lt, plain comma]
      let rest ← lifetimeItems n
      return plain lt :: plain comma :: rest
    else return [plain lt]

/-- The default of a const parameter: a block, a name or a literal, perhaps negated. -/
def constDefault : Nat → P Cst
  | 0 => failure
  | n + 1 => do
    let l ← peek
    match l.kind with
    | .punct "\x7b" => block n []
    | .punct "-" =>
      let m ← punct "-"
      let l2 ← peek
      match l2.kind with
      | .special k => node "negative_literal" [plain m, plain (← take l2 k true)]
      | _ => failure
    | .special "raw_string" => rawString n
    | .special k => take l k true
    | .quote _ => stringLiteral n
    | .word =>
      let w ← lexText l
      if w == "true" || w == "false" then node "boolean_literal" [plain (← take l w false)]
      else identifier n
    | _ => failure

/-- A function pointer type, perhaps for all of some lifetimes (`for<'a>`). -/
def functionType : Nat → P Cst
  | 0 => failure
  | n + 1 => do
    let lead ← if ← atWord "for" then
        let f ← keyword "for"
        let o ← punct "<"
        let items ← lifetimeItems n
        let c ← takeChar '>'
        pure [plain (← node "for_lifetimes" ([plain f, plain o] ++ items ++ [plain c]))]
      else pure []
    let mods ← if ← atWords ["unsafe", "extern"] then
        let u ← optKeyword "unsafe"
        let e ← if ← atWord "extern" then
            let ex ← keyword "extern"
            let abi ← if (← peek).kind matches .quote _ then pure [plain (← stringLiteral n)] else pure []
            pure [plain (← node "extern_modifier" (plain ex :: abi))]
          else pure []
        pure [plain (← node "function_modifiers" (u ++ e))]
      else pure []
    let f ← keyword "fn"
    let o ← punct "("
    let items ← typeItems n ")"
    let c ← punct ")"
    let ps ← node "parameters" ([plain o] ++ items ++ [plain c])
    let ret ← if ← atPunct "->" then
        let arrow ← punct "->"
        let t ← singleType n
        pure [plain arrow, fld "return_type" t]
      else pure []
    node "function_type" (lead ++ mods ++ [plain f, fld "parameters" ps] ++ ret)

/-- A named type: a path with its last segment a type identifier, and generic arguments. -/
def typePath : Nat → P Cst
  | 0 => failure
  | n + 1 => do
    let l ← peek
    let l2 ← peekAfter l
    if l2.kind == .punct "::" then
      let p ← pathSegment n
      typePathTail n p
    else
      let w ← lexText l
      if keywords.contains w && w != "self" then failure
      else
        let name ← take l "type_identifier" true
        if ← atPunct "(" then functionTrait n name else typeArgumentsAfter n name

/-- The rest of a scoped type path after a leading segment. -/
def typePathTail : Nat → Cst → P Cst
  | 0, _ => failure
  | n + 1, left => do
    let cc ← punct "::"
    let l ← peek
    if l.kind != .word then failure
    else
      let l2 ← peekAfter l
      if l2.kind == .punct "::" then
        let name ← pathSegment n
        let e ← node "scoped_identifier" [fld "path" left, plain cc, fld "name" name]
        typePathTail n e
      else
        let name ← take l "type_identifier" true
        let e ← node "scoped_type_identifier" [fld "path" left, plain cc, fld "name" name]
        if ← atPunct "(" then functionTrait n e else typeArgumentsAfter n e

/-- A trait of functions written with its parameter types in parentheses and an optional
return type after `->`, as a function type.  The return type takes no `+` bounds: those
bound the whole function type. -/
def functionTrait : Nat → Cst → P Cst
  | 0, _ => failure
  | n + 1, name => do
    let o ← punct "("
    let items ← typeItems n ")"
    let c ← punct ")"
    let ps ← node "parameters" ([plain o] ++ items ++ [plain c])
    let ret ← if ← atPunct "->" then
        let arrow ← punct "->"
        let t ← singleType n
        pure [plain arrow, fld "return_type" t]
      else pure []
    node "function_type" ([fld "trait" name, fld "parameters" ps] ++ ret)

/-- Generic arguments after a type name, if `<` follows. -/
def typeArgumentsAfter : Nat → Cst → P Cst
  | 0, _ => failure
  | n + 1, name => do
    if ← atPunct "<" then
      let ta ← typeArguments n
      node "generic_type" [fld "type" name, fld "type_arguments" ta]
    else return name

/-- Generic arguments in angle brackets. -/
def typeArguments : Nat → P Cst
  | 0 => failure
  | n + 1 => do
    let lt ← punct "<"
    let items ← typeArgumentItems n
    let gt ← takeChar '>'
    node "type_arguments" ([plain lt] ++ items ++ [plain gt])

/-- Generic arguments separated by commas. -/
def typeArgumentItems : Nat → P (List Child)
  | 0 => failure
  | n + 1 => do
    if ← atChar '>' then return []
    else
      let l ← peek
      let l2 ← peekAfter l
      let item ← if l.kind == .word && l2.kind == .punct "=" then
          let name ← take l "type_identifier" true
          let eq ← punct "="
          let t ← type n
          node "type_binding" [fld "name" name, plain eq, fld "type" t]
        else if l.kind matches .special _ then take l (match l.kind with | .special k => k | _ => "") true
        else if l.kind == .punct "\x7b" then block n []
        else type n
      if ← atPunct "," then
        let comma ← punct ","
        let rest ← typeArgumentItems n
        return plain item :: plain comma :: rest
      else return [plain item]

/-- Types separated by commas up to a closing bracket. -/
def typeItems : Nat → String → P (List Child)
  | 0, _ => failure
  | n + 1, close => do
    if ← atPunct close then return []
    else
      let t ← type n
      if ← atPunct "," then
        let comma ← punct ","
        let rest ← typeItems n close
        return plain t :: plain comma :: rest
      else return [plain t]

/-- Type parameters in angle brackets. -/
def typeParameters : Nat → P Cst
  | 0 => failure
  | n + 1 => do
    let lt ← punct "<"
    let items ← typeParameterItems n
    let gt ← takeChar '>'
    node "type_parameters" ([plain lt] ++ items ++ [plain gt])

/-- Type parameters separated by commas. -/
def typeParameterItems : Nat → P (List Child)
  | 0 => failure
  | n + 1 => do
    if ← atChar '>' then return []
    else
      let item ← if ← atPunct "'" then
          let lt ← lifetime n
          if ← atPunct ":" then
            let b ← traitBounds n
            node "lifetime_parameter" [fld "name" lt, fld "bounds" b]
          else node "lifetime_parameter" [fld "name" lt]
        else if ← atWord "const" then
          let c ← keyword "const"
          let name ← identifier n
          let colon ← punct ":"
          let t ← type n
          let dflt ← if ← atPunct "=" then
              let eq ← punct "="
              let v ← constDefault n
              pure [plain eq, fld "value" v]
            else pure []
          node "const_parameter" ([plain c, fld "name" name, plain colon, fld "type" t] ++ dflt)
        else
          let l ← peek
          if l.kind != .word then failure
          else
            let name ← take l "type_identifier" true
            let bounds ← if ← atPunct ":" then pure [fld "bounds" (← traitBounds n)] else pure []
            let dflt ← if ← atPunct "=" then
                let eq ← punct "="
                let t ← type n
                pure [plain eq, fld "default_type" t]
              else pure []
            node "type_parameter" ([fld "name" name] ++ bounds ++ dflt)
      if ← atPunct "," then
        let comma ← punct ","
        let rest ← typeParameterItems n
        return plain item :: plain comma :: rest
      else return [plain item]

/-- `:` and bounds joined by `+`. -/
def traitBounds : Nat → P Cst
  | 0 => failure
  | n + 1 => do
    let colon ← punct ":"
    let items ← boundItems n
    node "trait_bounds" (plain colon :: items)

/-- Bounds joined by `+`. -/
def boundItems : Nat → P (List Child)
  | 0 => failure
  | n + 1 => do
    let b ← singleType n
    if ← atPunct "+" then
      let plus ← punct "+"
      let rest ← boundItems n
      return plain b :: plain plus :: rest
    else return [plain b]

/-- A `where` clause. -/
def whereClause : Nat → P Cst
  | 0 => failure
  | n + 1 => do
    let kw ← keyword "where"
    let items ← wherePredicates n
    node "where_clause" (plain kw :: items)

/-- The predicates of a `where` clause. -/
def wherePredicates : Nat → P (List Child)
  | 0 => failure
  | n + 1 => do
    if (← atPunct "\x7b") || (← atPunct ";") || (← atEof) then return []
    else
      let left ← singleType n
      let bounds ← traitBounds n
      let pred ← node "where_predicate" [fld "left" left, fld "bounds" bounds]
      if ← atPunct "," then
        let comma ← punct ","
        let rest ← wherePredicates n
        return plain pred :: plain comma :: rest
      else return [plain pred]

-- ## Items and statements

/-- An identifier. -/
def identifier : Nat → P Cst
  | 0 => failure
  | _ + 1 => do
    if ← atName then take (← peek) "identifier" true else failure

/-- Outer attributes. -/
def attributes : Nat → P (List Child)
  | 0 => failure
  | n + 1 => do
    if (← atPunct "#") && (← peekAfter (← peek)).kind == .punct "[" then
      let a ← attributeItem n
      let rest ← attributes n
      return plain a :: rest
    else return []

/-- An attribute item `#[...]` or an inner attribute item `#![...]`. -/
def attributeItem : Nat → P Cst
  | 0 => failure
  | n + 1 => do
    let hash ← punct "#"
    let bang ← optPunct "!"
    let o ← punct "["
    let p ← path n
    let rest ← if ← atPunct "=" then
        let eq ← punct "="
        let v ← expression n true
        pure [plain eq, fld "value" v]
      else if (← atPunct "(") || (← atPunct "[") || (← atPunct "\x7b") then
        pure [fld "arguments" (← tokenTree n)]
      else pure []
    let attr ← node "attribute" (plain p :: rest)
    let c ← punct "]"
    node (if bang.isEmpty then "attribute_item" else "inner_attribute_item") ([plain hash] ++ bang ++ [plain o, plain attr, plain c])

/-- A visibility modifier, if one is next. -/
def visibility : Nat → P (List Child)
  | 0 => failure
  | n + 1 => do
    if ← atWord "pub" then
      let p ← keyword "pub"
      if ← atPunct "(" then
        let l2 ← peekAfter (← peek)
        if (← wordIs l2 "crate") || (← wordIs l2 "super") || (← wordIs l2 "self") || (← wordIs l2 "in") then
          let o ← punct "("
          let inner ← if ← atWord "in" then
              let i ← keyword "in"
              let pth ← path n
              pure [plain i, plain pth]
            else
              let l3 ← peek
              pure [plain (← take l3 (← lexText l3) true)]
          let c ← punct ")"
          return [plain (← node "visibility_modifier" ([plain p, plain o] ++ inner ++ [plain c]))]
        else return [plain (← node "visibility_modifier" [plain p])]
      else return [plain (← node "visibility_modifier" [plain p])]
    else if (← atWord "crate") && (← peekAfter (← peek)).kind != .punct "::" then
      return [plain (← node "visibility_modifier" [plain (← take (← peek) "crate" true)])]
    else return []

/-- Function modifiers: `async`, `default`, `const`, `unsafe` and `extern`. -/
def functionModifiers : Nat → P (List Child)
  | 0 => failure
  | n + 1 => do
    let l ← peek
    let w ← lexText l
    if l.kind == .word && ["async", "default", "const", "unsafe"].contains w then
      let l2 ← peekAfter l
      if l2.kind == .word then
        let m ← take l w false
        let rest ← functionModifiers n
        return plain m :: rest
      else return []
    else if l.kind == .word && w == "extern" then
      let ex ← keyword "extern"
      let abi ← if (← peek).kind matches .quote _ then pure [plain (← stringLiteral n)] else pure []
      let m ← node "extern_modifier" (plain ex :: abi)
      let rest ← functionModifiers n
      return plain m :: rest
    else return []

/-- One statement of a block or of the source file; a final expression of a block
stands on its own. -/
def statement : Nat → Bool → P (List Child)
  | 0, _ => failure
  | n + 1, inBlock => do
    let l ← peek
    if l.kind == .punct ";" then return [plain (← node "empty_statement" [plain (← punct ";")])]
    else if l.kind == .punct "#" then
      let l2 ← peekAfter l
      if l2.kind == .punct "!" then return [plain (← attributeItem n)]
      else
        let a ← attributeItem n
        return [plain a]
    else
      match ← attempt (item n) with
      | some it => return [plain it]
      | none =>
        if ← atWord "let" then return [plain (← letDeclaration n)]
        else expressionStatement n inBlock

/-- An expression statement, or the final expression of a block.  An expression that
ends with a block is a statement by itself; a semicolon after it is a statement of its
own. -/
def expressionStatement : Nat → Bool → P (List Child)
  | 0, _ => failure
  | n + 1, inBlock => do
    let e ← expression n true
    if endsWithBlock e then return [plain (← node "expression_statement" [plain e])]
    else if ← atPunct ";" then
      let semi ← punct ";"
      return [plain (← node "expression_statement" [plain e, plain semi])]
    else if inBlock && (← atPunct "\x7d") then return [plain e]
    else if inBlock && (← atEof) then return [plain e]
    else if inBlock then failure
    else
      let semi ← missingTok ";"
      return [plain (← node "expression_statement" [plain e, plain semi])]

/-- A `let` declaration. -/
def letDeclaration : Nat → P Cst
  | 0 => failure
  | n + 1 => do
    let kw ← keyword "let"
    let m ← if (← atWord "mut") then pure [plain (← mutable)]
      else pure []
    let p ← pattern n false
    let ty ← if ← atPunct ":" then
        let colon ← punct ":"
        let t ← type n
        pure [plain colon, fld "type" t]
      else pure []
    let v ← if ← atPunct "=" then
        let value : P (List Child) := do
          let eq ← punct "="
          if ← atPunct ";" then
            pure [plain (Cst.node "ERROR" true eq.start eq.stop [plain eq])]
          else
            let e ← expression n true
            pure [plain eq, fld "value" e]
        match ← attempt value with
        | some v => pure v
        | none => strayValue n
      else pure []
    let alt ← if ← atWord "else" then
        let el ← keyword "else"
        let b ← block n []
        pure [plain el, fld "alternative" b]
      else pure []
    let semi ← closing ";"
    node "let_declaration" ([plain kw] ++ m ++ [fld "pattern" p] ++ ty ++ v ++ alt ++ [plain semi])

/-- An item: a function, a type definition, an implementation, a module, an import or a
constant, with its visibility. -/
def item : Nat → P Cst
  | 0 => failure
  | n + 1 => do
    let vis ← visibility n
    let l ← peek
    if l.kind != .word then failure
    else
      let w ← lexText l
      let l2 ← peekAfter l
      let foreign ← if w == "extern" then
          attempt do
            let ex ← keyword "extern"
            let abi ← if (← peek).kind matches .quote _ then pure [plain (← stringLiteral n)] else pure []
            let m ← node "extern_modifier" (plain ex :: abi)
            if ← atPunct ";" then node "foreign_mod_item" (vis ++ [plain m, plain (← punct ";")])
            else
              let body ← declarationList n
              node "foreign_mod_item" (vis ++ [plain m, fld "body" body])
        else pure none
      if let some f := foreign then return f
      else if w == "fn" || (["async", "default", "unsafe", "extern"].contains w && l2.kind == .word &&
          !(w == "unsafe" && (← wordIs l2 "impl")) && !(w == "unsafe" && (← wordIs l2 "trait")) &&
          !(w == "extern" && (← wordIs l2 "crate"))) ||
          (w == "const" && (← wordIs l2 "fn")) || (w == "const" && (← wordIs l2 "unsafe")) ||
          (w == "extern" && (l2.kind matches .quote _)) then
        functionItem n vis
      else match w with
        | "struct" | "union" => structItem n vis
        | "enum" => enumItem n vis
        | "impl" => implItem n []
        | "unsafe" =>
          let u ← keyword "unsafe"
          if ← atWord "impl" then implItem n [plain u] else traitItem n vis [plain u]
        | "trait" => traitItem n vis []
        | "mod" =>
          let kw ← keyword "mod"
          let name ← identifier n
          if ← atPunct ";" then node "mod_item" (vis ++ [plain kw, fld "name" name, plain (← punct ";")])
          else
            let body ← declarationList n
            node "mod_item" (vis ++ [plain kw, fld "name" name, fld "body" body])
        | "use" =>
          let kw ← keyword "use"
          let arg ← useClause n
          let semi ← punct ";"
          node "use_declaration" (vis ++ [plain kw, fld "argument" arg, plain semi])
        | "const" =>
          let kw ← keyword "const"
          let name ← identifier n
          let colon ← punct ":"
          let t ← type n
          let v ← if ← atPunct "=" then
              let eq ← punct "="
              let e ← expression n true
              pure [plain eq, fld "value" e]
            else pure []
          let semi ← punct ";"
          node "const_item" (vis ++ [plain kw, fld "name" name, plain colon, fld "type" t] ++ v ++ [plain semi])
        | "static" =>
          let kw ← keyword "static"
          let m ← if (← atWord "mut") then pure [plain (← mutable)]
            else pure []
          let name ← identifier n
          let colon ← punct ":"
          let t ← type n
          let v ← if ← atPunct "=" then
              let eq ← punct "="
              let e ← expression n true
              pure [plain eq, fld "value" e]
            else pure []
          let semi ← punct ";"
          node "static_item" (vis ++ [plain kw] ++ m ++ [fld "name" name, plain colon, fld "type" t] ++ v ++
            [plain semi])
        | "type" =>
          let kw ← keyword "type"
          let l3 ← peek
          let name ← take l3 "type_identifier" true
          let tps ← if ← atPunct "<" then pure [fld "type_parameters" (← typeParameters n)] else pure []
          if ← atPunct "=" then
            let eq ← punct "="
            let t ← type n
            let semi ← punct ";"
            node "type_item" (vis ++ [plain kw, fld "name" name] ++ tps ++ [plain eq, fld "type" t, plain semi])
          else
            let bounds ← if ← atPunct ":" then pure [fld "bounds" (← traitBounds n)] else pure []
            let semi ← punct ";"
            node "associated_type" ([plain kw, fld "name" name] ++ tps ++ bounds ++ [plain semi])
        | "extern" =>
          let ex ← keyword "extern"
          let cr ← keyword "crate"
          let name ← identifier n
          let aliasPart ← if ← atWord "as" then
              let a ← keyword "as"
              let al ← identifier n
              pure [plain a, fld "alias" al]
            else pure []
          let semi ← punct ";"
          node "extern_crate_declaration" (vis ++ [plain ex, plain (Cst.token "crate" true cr.start cr.stop),
            fld "name" name] ++ aliasPart ++ [plain semi])
        | "macro_rules" =>
          let l3 ← peekAfter l
          if l3.kind == .punct "!" && l3.start == l.stop then
            let m ← keyword "macro_rules"
            let bang ← punct "!"
            let kw := Cst.token "macro_rules!" false m.start bang.stop
            let name ← identifier n
            let l4 ← peek
            let close ← match l4.kind with
              | .punct "(" => pure ")"
              | .punct "[" => pure "]"
              | .punct "\x7b" => pure "\x7d"
              | _ => failure
            let o ← take l4 (← lexText l4) false
            let rules ← macroRules n close
            let c ← punct close
            let semi ← if close != "\x7d" then pure [plain (← punct ";")] else pure []
            node "macro_definition" ([plain kw, fld "name" name, plain o] ++ rules ++ [plain c] ++ semi)
          else failure
        | _ => failure

/-- The rules of a macro definition, separated by semicolons, up to the closing
delimiter. -/
def macroRules : Nat → String → P (List Child)
  | 0, _ => failure
  | n + 1, close => do
    if ← atPunct close then return []
    let r ← macroRule n
    if ← atPunct ";" then
      let semi ← punct ";"
      let rest ← macroRules n close
      return plain r :: plain semi :: rest
    else return [plain r]

/-- A macro rule: a pattern tree, `=>` and the token tree it expands to. -/
def macroRule : Nat → P Cst
  | 0 => failure
  | n + 1 => do
    let left ← delimitedTokens n true
    let arrow ← punct "=>"
    let right ← tokenTree n
    node "macro_rule" [fld "left" left, plain arrow, fld "right" right]

/-- A function item or function signature item after its visibility. -/
def functionItem : Nat → List Child → P Cst
  | 0, _ => failure
  | n + 1, vis => do
    let mods ← functionModifiers n
    let modsNode ← if mods.isEmpty then pure [] else pure [plain (← node "function_modifiers" mods)]
    let kw ← keyword "fn"
    let name ← identifier n
    let tps ← if ← atPunct "<" then pure [fld "type_parameters" (← typeParameters n)] else pure []
    let ps ← parameters n
    let ret ← if ← atPunct "->" then
        let arrow ← punct "->"
        let t ← type n
        pure [plain arrow, fld "return_type" t]
      else pure []
    let wh ← if ← atWord "where" then pure [plain (← whereClause n)] else pure []
    let pre := vis ++ modsNode ++ [plain kw, fld "name" name] ++ tps ++ [fld "parameters" ps] ++ ret ++ wh
    if ← atPunct ";" then node "function_signature_item" (pre ++ [plain (← punct ";")])
    else
      let body ← block n []
      node "function_item" (pre ++ [fld "body" body])

/-- Function parameters in parentheses. -/
def parameters : Nat → P Cst
  | 0 => failure
  | n + 1 => do
    let o ← punct "("
    let items ← parameterItems n
    let c ← closing ")"
    node "parameters" ([plain o] ++ items ++ [plain c])

/-- Parameters separated by commas. -/
def parameterItems : Nat → P (List Child)
  | 0 => failure
  | n + 1 => do
    if ← atPunct ")" then return []
    else
      let attrs ← attributes n
      let p ← parameter n
      if ← atPunct "," then
        let comma ← punct ","
        let rest ← parameterItems n
        return attrs ++ plain p :: plain comma :: rest
      else return attrs ++ [plain p]

/-- One parameter: `self` in its forms, or a pattern and a type. -/
def parameter : Nat → P Cst
  | 0 => failure
  | n + 1 => do
    match ← attempt (selfParameter n) with
    | some s => return s
    | none =>
      if ← atPunct "..." then node "variadic_parameter" [plain (← punct "...")]
      else
        let m ← if (← atWord "mut") then pure [plain (← mutable)]
          else pure []
        let p ← pattern n false
        if ← atPunct ":" then
          let colon ← punct ":"
          let t ← type n
          node "parameter" (m ++ [fld "pattern" p, plain colon, fld "type" t])
        else if m.isEmpty then return p
        else failure

/-- A `self` parameter: `self`, `mut self`, `&self`, `&mut self` or `&'a self`. -/
def selfParameter : Nat → P Cst
  | 0 => failure
  | n + 1 => do
    let amp ← if (← atPunct "&") || (← atPunct "&&") then pure [plain (← takeChar '&')] else pure []
    let lt ← if ← atPunct "'" then pure [plain (← lifetime n)] else pure []
    let m ← if (← atWord "mut") then pure [plain (← mutable)]
      else pure []
    let l ← peek
    if ← wordIs l "self" then
      let s ← take l "self" true
      if ← atPunct ":" then failure
      else node "self_parameter" (amp ++ lt ++ m ++ [plain s])
    else failure

/-- A struct or union item after its visibility. -/
def structItem : Nat → List Child → P Cst
  | 0, _ => failure
  | n + 1, vis => do
    let l ← peek
    let w ← lexText l
    let kw ← take l w false
    let l2 ← peek
    let name ← take l2 "type_identifier" true
    let tps ← if ← atPunct "<" then pure [fld "type_parameters" (← typeParameters n)] else pure []
    let kind := if w == "union" then "union_item" else "struct_item"
    if ← atPunct ";" then node kind (vis ++ [plain kw, fld "name" name] ++ tps ++ [plain (← punct ";")])
    else if ← atPunct "(" then
      let body ← orderedFields n
      let wh ← if ← atWord "where" then pure [plain (← whereClause n)] else pure []
      let semi ← punct ";"
      node kind (vis ++ [plain kw, fld "name" name] ++ tps ++ [fld "body" body] ++ wh ++ [plain semi])
    else
      let wh ← if ← atWord "where" then pure [plain (← whereClause n)] else pure []
      let body ← fieldDeclarations n
      node kind (vis ++ [plain kw, fld "name" name] ++ tps ++ wh ++ [fld "body" body])

/-- Named field declarations in braces. -/
def fieldDeclarations : Nat → P Cst
  | 0 => failure
  | n + 1 => do
    let o ← punct "\x7b"
    let items ← fieldDeclarationItems n
    let c ← punct "\x7d"
    node "field_declaration_list" ([plain o] ++ items ++ [plain c])

/-- Field declarations separated by commas. -/
def fieldDeclarationItems : Nat → P (List Child)
  | 0 => failure
  | n + 1 => do
    if ← atPunct "\x7d" then return []
    else
      let attrs ← attributes n
      let vis ← visibility n
      let l ← peek
      let name ← take l "field_identifier" true
      let colon ← punct ":"
      let t ← type n
      let fd ← node "field_declaration" (vis ++ [fld "name" name, plain colon, fld "type" t])
      if ← atPunct "," then
        let comma ← punct ","
        let rest ← fieldDeclarationItems n
        return attrs ++ plain fd :: plain comma :: rest
      else return attrs ++ [plain fd]

/-- Unnamed field types in parentheses. -/
def orderedFields : Nat → P Cst
  | 0 => failure
  | n + 1 => do
    let o ← punct "("
    let items ← if ← atPunct "," then pure [plain (← punct ",")] else orderedFieldItems n
    let c ← punct ")"
    node "ordered_field_declaration_list" ([plain o] ++ items ++ [plain c])

/-- Unnamed field types separated by commas. -/
def orderedFieldItems : Nat → P (List Child)
  | 0 => failure
  | n + 1 => do
    if ← atPunct ")" then return []
    else
      let attrs ← attributes n
      let vis ← visibility n
      let t ← type n
      if ← atPunct "," then
        let comma ← punct ","
        let rest ← orderedFieldItems n
        return attrs ++ vis ++ fld "type" t :: plain comma :: rest
      else return attrs ++ vis ++ [fld "type" t]

/-- An enum item after its visibility. -/
def enumItem : Nat → List Child → P Cst
  | 0, _ => failure
  | n + 1, vis => do
    let kw ← keyword "enum"
    let l ← peek
    let name ← take l "type_identifier" true
    let tps ← if ← atPunct "<" then pure [fld "type_parameters" (← typeParameters n)] else pure []
    let wh ← if ← atWord "where" then pure [plain (← whereClause n)] else pure []
    let o ← punct "\x7b"
    let items ← enumVariants n
    let c ← punct "\x7d"
    let body ← node "enum_variant_list" ([plain o] ++ items ++ [plain c])
    node "enum_item" (vis ++ [plain kw, fld "name" name] ++ tps ++ wh ++ [fld "body" body])

/-- The variants of an enum. -/
def enumVariants : Nat → P (List Child)
  | 0 => failure
  | n + 1 => do
    if ← atPunct "\x7d" then return []
    else
      let attrs ← attributes n
      let vis ← visibility n
      let name ← identifier n
      let body ← if ← atPunct "\x7b" then pure [fld "body" (← fieldDeclarations n)]
        else if ← atPunct "(" then
          match ← attempt (orderedFields n) with
          | some f => pure [fld "body" f]
          | none => if (← get).skips > 0 then pure [] else failure
        else pure []
      let v ← if ← atPunct "=" then
          let eq ← punct "="
          let e ← expression n true
          pure [plain eq, fld "value" e]
        else pure []
      let variant ← node "enum_variant" (vis ++ [fld "name" name] ++ body ++ v)
      if ← atPunct "," then
        let comma ← punct ","
        let rest ← enumVariants n
        return attrs ++ plain variant :: plain comma :: rest
      else if ← atPunct "\x7d" then return attrs ++ [plain variant]
      else return attrs ++ [plain variant, plain (← errorRun looseToken (stringLiteral n) "\x7d")]

/-- An implementation after its `unsafe`, if any. -/
def implItem : Nat → List Child → P Cst
  | 0, _ => failure
  | n + 1, pre => do
    let kw ← keyword "impl"
    let tps ← if ← atPunct "<" then pure [fld "type_parameters" (← typeParameters n)] else pure []
    let bang ← optPunct "!"
    let first ← type n
    let head ← if ← atWord "for" then
        let f ← keyword "for"
        let t ← type n
        pure (bang ++ [fld "trait" first, plain f, fld "type" t])
      else pure (bang ++ [fld "type" first])
    let wh ← if ← atWord "where" then pure [plain (← whereClause n)] else pure []
    if ← atPunct ";" then node "impl_item" (pre ++ [plain kw] ++ tps ++ head ++ wh ++ [plain (← punct ";")])
    else
      let body ← declarationList n
      node "impl_item" (pre ++ [plain kw] ++ tps ++ head ++ wh ++ [fld "body" body])

/-- A trait after its visibility and `unsafe`, if any. -/
def traitItem : Nat → List Child → List Child → P Cst
  | 0, _, _ => failure
  | n + 1, vis, pre => do
    let kw ← keyword "trait"
    let l ← peek
    let name ← take l "type_identifier" true
    let tps ← if ← atPunct "<" then pure [fld "type_parameters" (← typeParameters n)] else pure []
    let bounds ← if ← atPunct ":" then pure [fld "bounds" (← traitBounds n)] else pure []
    let wh ← if ← atWord "where" then pure [plain (← whereClause n)] else pure []
    let body ← declarationList n
    node "trait_item" (vis ++ pre ++ [plain kw, fld "name" name] ++ tps ++ bounds ++ wh ++ [fld "body" body])

/-- Declarations in braces, as in a module, implementation or trait. -/
def declarationList : Nat → P Cst
  | 0 => failure
  | n + 1 => do
    let o ← punct "\x7b"
    let items ← declarationItems n
    let c ← closing "\x7d"
    node "declaration_list" ([plain o] ++ items ++ [plain c])

/-- The declarations of a declaration list. -/
def declarationItems : Nat → P (List Child)
  | 0 => failure
  | n + 1 => do
    if (← atPunct "\x7d") || (← atEof) then return []
    else
      let d ← if ← atPunct "#" then attributeItem n
        else if ← atPunct ";" then node "empty_statement" [plain (← punct ";")]
        else
          match ← attempt (item n) with
          | some it => pure it
          | none =>
            let p ← path n
            let bang ← punct "!"
            let tt ← tokenTree n
            let semi ← optPunct ";"
            let m ← node "macro_invocation" [fld "macro" p, plain bang, plain tt]
            if semi.isEmpty then pure m else node "expression_statement" (plain m :: semi)
      let rest ← declarationItems n
      return plain d :: rest

/-- The argument of a `use` declaration. -/
def useClause : Nat → P Cst
  | 0 => failure
  | n + 1 => do
    let after := (← peekAfter (← peek)).kind
    if ← atPunct "*" then node "use_wildcard" [plain (← punct "*")]
    else if ← atPunct "\x7b" then useList n
    else if (← atPunct "::") && (after == .punct "*" || after == .punct "\x7b") then
      let cc ← punct "::"
      if ← atPunct "*" then node "use_wildcard" [plain cc, plain (← punct "*")]
      else node "scoped_use_list" [plain cc, fld "list" (← useList n)]
    else
      let p ← usePath n
      if ← atPunct "::" then
        let cc ← punct "::"
        if ← atPunct "*" then node "use_wildcard" [plain p, plain cc, plain (← punct "*")]
        else
          let list ← useList n
          node "scoped_use_list" [fld "path" p, plain cc, fld "list" list]
      else if ← atWord "as" then
        let a ← keyword "as"
        let aliasPart ← if ← atWord "_" then take (← peek) "_" false else identifier n
        node "use_as_clause" [fld "path" p, plain a, fld "alias" aliasPart]
      else return p

/-- A path in a `use` clause, stopping before `::` followed by `*` or a brace; a path
that starts with `::` starts at the root. -/
def usePath : Nat → P Cst
  | 0 => failure
  | n + 1 => do
    if ← atPunct "::" then
      let cc ← punct "::"
      let name ← pathSegment n
      let first ← node "scoped_identifier" [plain cc, fld "name" name]
      usePathTail n first
    else
      let first ← pathSegment n
      usePathTail n first

/-- The segments of a `use` path after its first. -/
def usePathTail : Nat → Cst → P Cst
  | 0, _ => failure
  | n + 1, left => do
    if (← atPunct "::") && (← peekAfter (← peek)).kind == .word then
      let cc ← punct "::"
      let name ← pathSegment n
      let e ← node "scoped_identifier" [fld "path" left, plain cc, fld "name" name]
      usePathTail n e
    else return left

/-- A list of `use` clauses in braces. -/
def useList : Nat → P Cst
  | 0 => failure
  | n + 1 => do
    let o ← punct "\x7b"
    let items ← useListItems n
    let c ← punct "\x7d"
    node "use_list" ([plain o] ++ items ++ [plain c])

/-- `use` clauses separated by commas. -/
def useListItems : Nat → P (List Child)
  | 0 => failure
  | n + 1 => do
    if ← atPunct "\x7d" then return []
    else
      let u ← useClause n
      if ← atPunct "," then
        let comma ← punct ","
        let rest ← useListItems n
        return plain u :: plain comma :: rest
      else return [plain u]

end

/-! ## Source files and recovery -/

/-- The items of a stretch that could not be read: expressions where they read, other
tokens as they stand, up to the end of the source. -/
def looseItems (fuel : Nat) : Nat → P (List Cst)
  | 0 => return []
  | k + 1 => do
    if ← atEof then return []
    else
      let l ← peek
      let s ← source
      let item ← match ← attempt (expression fuel true) with
        | some e => pure e
        | none => take l "" false >>= fun _ => pure (looseToken s l)
      let rest ← looseItems fuel k
      return item :: rest

/-- The statements of a source file.  A statement that does not read is tried again with
one missing token allowed, then passing over one token, then with two missing tokens,
and otherwise the rest of the source is kept in an error node: the trees a parse stack
holds where the reading gave out, when only tokens that start nothing follow, and the
tokens as they stand otherwise.  A short rest of the source that broke down at its end
is kept so too, when that costs less than the repair. -/
def sourceItems (fuel : Nat) : Nat → P (List Child)
  | 0 => return []
  | k + 1 => do
    if ← atEof then return []
    else
      let c ← get
      markStart
      match ← attempt (statement fuel false) with
      | some items =>
        let rest ← sourceItems fuel k
        return items ++ rest
      | none =>
        let f ← brokeAt
        set { c with missing := 1 }
        let completed ← attempt <| repairing f do
          let items ← statement fuel false
          pure (items, ← get)
        set { c with skips := 1 }
        let passed ← attempt <| repairing f do
          let items ← match ← attempt (statement fuel false) with
            | some items => pure items
            | none => recoverOne (statement fuel false) looseToken
          pure (items, ← get)
        let s ← source
        set { c with missing := 2 }
        let twice ← if completed.isNone && passed.isNone then
            attempt <| repairing f do
              let items ← statement fuel false
              pure (items, ← get)
          else pure none
        let g ← brokeAt
        let readings : List (P (List Child)) :=
          [statement fuel false, do
            modify fun c' => { c' with skips := 1 }
            repairing f (recoverOne (statement fuel false) looseToken)]
        let keepRest : P (List Cst) := do
          set c
          match ← wrapRest readings g looseToken with
          | some trees => pure trees
          | none => looseItems fuel (s.length + 1)
        match cheaper (cheaper completed passed) twice with
        | some (items, after) =>
          let kept ← if s.length ≤ f then keepRest else pure []
          if !kept.isEmpty && wrapCost s kept < after.cost then return errorNode kept
          else
            set { after with missing := 0, skips := 0 }
            let rest ← sourceItems fuel k
            return items ++ rest
        | none => return errorNode (← keepRest)

/-- Parse a whole Rust source. -/
def parseSourceFile (src : Source) : Cst :=
  let fuel := 40 * (src.length + 16)
  let start := Cursor.at 0
  let bang : List Child × Cursor :=
    let i := nextStart src 0
    let lineEnd := src.skipWhile (fun c => c != '\n') i
    if i == 0 && src.startsWith 0 "#!" && src.get 2 != '[' && !src.atEnd lineEnd then
      ([plain (.token "shebang" true 0 (src.offset (lineEnd + 1)))],
        { start with pos := lineEnd + 1, lastEnd := lineEnd + 1 })
    else ([], start)
  match (sourceItems fuel (src.length + 2)).run' { src, lexer, dialect := () } bang.2 with
  | some (items, c) =>
    let (_, tail) := trivia src c.pos (src.length + 1)
    Cst.root "source_file" (bang.1 ++ items)
      (c.extras.toList ++ (Parser.commentLeaves lexer src tail).toList) src.bytes.size
  | none => Cst.root "source_file" [] [] src.bytes.size

end Rust
end ShapeSearch
