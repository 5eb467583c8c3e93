import ShapeSearch.Syntax.Scan
import ShapeSearch.Syntax.Cst

/-!
# Lexemes

The tokens a parser reads, as kinds with character ranges, and the two functions
that make up a lexer: one skips blanks and comments, the other reads the token that
starts at an index.  The token kinds cover what the supported grammars need; a
kind that only one grammar has is written with its name.
-/

namespace ShapeSearch
namespace Syntax

/-- What a token is. -/
inductive LexKind where
  | word
  | privateName
  | number
  | quote (c : Char)
  | backtick
  | punct (text : String)
  | special (kind : String)
  | invalid
  | eof
  deriving Repr, DecidableEq, Inhabited

/-- A token with its character range. -/
structure Lexeme where
  kind : LexKind
  start : Nat
  stop : Nat
  deriving Repr, DecidableEq, Inhabited

/-- Comments found between tokens, as character ranges. -/
abbrev Comments := List (Nat × Nat)

/-- A lexer: how blanks and comments are skipped, how a token is read, and the leaf a
comment becomes. -/
structure Lexer where
  /-- The index of the next token at or after an index, with the comments passed. -/
  trivia : Source → Nat → Nat × Comments
  /-- The token starting at an index. -/
  scan : Source → Nat → Lexeme
  /-- The tree of a comment over a character range. -/
  comment : Source → Nat → Nat → Cst

/-- A comment as a single named leaf of kind `comment`. -/
def plainComment (s : Source) (a b : Nat) : Cst :=
  .token "comment" true (s.offset a) (s.offset b)

/-- The index of the next token at or after an index. -/
def Lexer.nextStart (l : Lexer) (s : Source) (i : Nat) : Nat :=
  (l.trivia s i).1

/-- The `count` tokens from index `i` on. -/
def Lexer.runTokens (l : Lexer) (s : Source) : Nat → Nat → List Lexeme
  | 0, _ => []
  | count + 1, i =>
    let t := l.scan s i
    t :: l.runTokens s count (l.nextStart s t.stop)

/-- The end of the `count` tokens from index `i` on. -/
def Lexer.runEnd (l : Lexer) (s : Source) (count i : Nat) : Nat :=
  match (l.runTokens s count i).getLast? with
  | some t => t.stop
  | none => i

/-- The lexer that passes over the run of `count` tokens starting at `skip` as it passes
over a comment; the tree of the run is one error node holding the tokens' leaves. -/
def Lexer.passingOverRun (l : Lexer) (skip count : Nat) (leaf : Source → Lexeme → Cst) : Lexer where
  trivia s i :=
    let (j, cs) := l.trivia s i
    if j == skip then
      let stop := l.runEnd s count j
      let (k, more) := l.trivia s stop
      (k, cs ++ (j, stop) :: more)
    else (j, cs)
  scan := l.scan
  comment s a b :=
    if a == skip then
      .node "ERROR" true (s.offset a) (s.offset (l.runEnd s count a))
        ((l.runTokens s count a).map fun t => (none, leaf s t))
    else l.comment s a b

/-- The lexer that passes over the token starting at `skip` as it passes over a comment;
the tree of that token is an error node holding the token's leaf. -/
def Lexer.passingOver (l : Lexer) (skip : Nat) (leaf : Source → Lexeme → Cst) : Lexer :=
  l.passingOverRun skip 1 leaf

/-- The lexer that passes over the characters from `skip` to `stop` as it passes over a
comment; their tree, read before as one construct, is kept in an error node. -/
def Lexer.passingOverSpan (l : Lexer) (skip stop : Nat) (tree : Cst) : Lexer where
  trivia s i :=
    let (j, cs) := l.trivia s i
    if j == skip then
      let (k, more) := l.trivia s stop
      (k, cs ++ (j, stop) :: more)
    else (j, cs)
  scan := l.scan
  comment s a b :=
    if a == skip then .node "ERROR" true (s.offset a) (s.offset stop) [(none, tree)]
    else l.comment s a b

/-- The tokens and comments from index `i` on, counted up to `cap`; the end of the
source ends the count, as does a token that reads nothing. -/
def Lexer.countFrom (l : Lexer) (s : Source) : Nat → Nat → Nat → Nat
  | 0, _, _ => 0
  | fuel + 1, cap, i =>
    let (j, cs) := l.trivia s i
    let t := l.scan s j
    if t.kind == .eof || t.stop ≤ j then min cap cs.length
    else
      let n := cs.length + 1
      if cap ≤ n then cap else n + l.countFrom s fuel (cap - n) t.stop

/-- A literal whose text meets an escape that does not read: where it opens, where its
text starts, the pieces of text before the escape, each a kind and a character range,
and where the escape starts and how far it reads. -/
structure BrokenLiteral where
  start : Nat
  textStart : Nat
  pieces : List (String × Nat × Nat)
  escape : Nat
  reach : Nat
  deriving Repr, Inhabited

/-- The end of a run of plain text from `i`: characters that neither end the text nor
start a piece of their own. -/
def plainRunEnd (s : Source) (special : Nat → Option (Nat × Bool)) (ends : Char → Bool) :
    Nat → Nat → Nat
  | 0, i => i
  | fuel + 1, i =>
    if s.atEnd i || ends (s.get i) || (special i).isSome then i
    else plainRunEnd s special ends fuel (i + 1)

/-- Where the text of a literal from `i` meets a piece that does not read, before a
character that ends the text: the pieces of text before it, runs of plain characters of
kind `content` and whole escape sequences, and the start and reach of the piece that
does not read.  `special` tells, at an index where a piece of its own starts (an escape
sequence, or a character the text cannot hold), how far it reads and whether it is
whole. -/
def textBreak (s : Source) (special : Nat → Option (Nat × Bool)) (ends : Char → Bool) (content : String) :
    Nat → Nat → List (String × Nat × Nat) → Option (List (String × Nat × Nat) × Nat × Nat)
  | 0, _, _ => none
  | fuel + 1, i, acc =>
    if s.atEnd i || ends (s.get i) then none
    else match special i with
      | some (j, true) => textBreak s special ends content fuel (max j (i + 1)) (("escape_sequence", i, j) :: acc)
      | some (j, false) => some (acc.reverse, i, j)
      | none =>
        let j := plainRunEnd s special ends s.length (i + 1)
        textBreak s special ends content fuel j ((content, i, j) :: acc)

/-- The literal opened at `start`, with its text from `textStart`, if its text meets a
piece that does not read. -/
def BrokenLiteral.find (s : Source) (special : Nat → Option (Nat × Bool)) (ends : Char → Bool)
    (content : String) (start textStart : Nat) : Option BrokenLiteral :=
  (textBreak s special ends content (s.length + 1) textStart []).map fun (pieces, p, q) =>
    { start, textStart, pieces, escape := p, reach := q }

/-- The escape sequences of a text as its own pieces: at a backslash, how far `escape`
reads from it and whether that is whole. -/
def backslashPieces (s : Source) (escape : Nat → Nat × Bool) (i : Nat) : Option (Nat × Bool) :=
  if s.get i == '\\' then some (escape i) else none

/-- Whether a broken literal is given up before the token that follows it and ends at
`stop`: the reading goes back to before the literal when giving up its opening, its
pieces and the escape costs less than passing over that token inside the literal, each
costing its bytes and a hundred for every token it holds that is no error. -/
def BrokenLiteral.givenUp (s : Source) (b : BrokenLiteral) (stop : Nat) : Bool :=
  (s.offset b.reach - s.offset b.start) + 100 * (1 + b.pieces.length) <
    (s.offset stop - s.offset b.escape) + 100

/-- The error node over a broken literal given up: its opening as a `quote` leaf, its
pieces and an error leaf over the escape. -/
def BrokenLiteral.tree (s : Source) (b : BrokenLiteral) (quote : String) : Cst :=
  let o := s.offset
  .node "ERROR" true (o b.start) (o b.reach)
    ((none, .token quote false (o b.start) (o b.textStart)) ::
      b.pieces.map (fun (k, i, j) => ((none : Option String), Cst.token k true (o i) (o j))) ++
      [(none, .node "ERROR" true (o b.escape) (o b.reach) [])])

/-- Whether a line break stands between two indices. -/
def breakBetween (s : Source) (prevEnd next : Nat) : Bool :=
  ((List.range (next - prevEnd)).any fun k => s.get (prevEnd + k) == '\n')

end Syntax
end ShapeSearch
