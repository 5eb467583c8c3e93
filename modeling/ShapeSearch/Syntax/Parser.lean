import ShapeSearch.Syntax.Lexeme
import ShapeSearch.Syntax.Cst

/-!
# Parsing steps

A parse reads the source through a cursor: the index of the next unread character,
the end of the last token taken (to tell where line breaks stand) and the comments
passed so far.  Parsing steps may fail; a failed alternative leaves the cursor as
it was, so alternatives are tried by plain backtracking.

The cursor also counts the brackets opened and not yet closed, for grammars whose
lines end at line breaks outside brackets, and carries the number of tokens the
parser may still report as missing: a construct cut off where a closing token is needed may be completed by
a zero-width token, while the allowance lasts.  A second allowance counts the tokens a
statement that does not read may pass over, each kept in an error node.

Beside the cursor, a parse keeps the furthest index any step has read to, which no
failure undoes.  When a statement does not read, the first token after that index is
where its reading broke down, and repairs are made there: a missing token is inserted
only before it, and the token passed over is that one or the one right before it.  Each
repair has a cost (a hundred for a token passed over, plus one for each byte from the
end of the token before it and thirty for each line break; a hundred and ten for a
missing token), and of the repairs that read, the cheapest is kept.

A reading that gives out at the end of the source may be traced: run again, it keeps
every tree it builds, less those of alternatives it left before reaching the point where
it gave out.  The largest of those trees from each point on are what a parse stack holds
there, and they are kept in one error node.

Steps read an environment: the source, the lexer of the grammar and the grammar's
dialect, a value of a type each grammar chooses.
-/

namespace ShapeSearch
namespace Syntax

/-- What a parse reads. -/
structure Env (δ : Type) where
  src : Source
  lexer : Lexer
  dialect : δ
  /-- Where the reading being repaired broke down, if one is: the start of the first
  token it could not take. -/
  breakdown : Option Nat := none
  /-- While a reading is traced, the index it is known to reach. -/
  tracing : Option Nat := none
  /-- The indices of the tokens the lexer passes over, the last one passed first. -/
  passing : List Nat := []

/-- Where a parse stands. -/
structure Cursor where
  pos : Nat
  lastEnd : Nat
  extras : Array Cst
  missing : Nat
  depth : Nat
  skips : Nat
  cost : Nat
  /-- The next token as last read from an index, with the tokens the lexer passed over
  then: a reading from the same index with the same lexer gives it again. -/
  ahead : Option (Nat × List Nat × Lexeme) := none
  deriving Inhabited

/-- The cursor at an index with nothing read before it. -/
def Cursor.at (i : Nat) : Cursor :=
  { pos := i, lastEnd := i, extras := #[], missing := 0, depth := 0, skips := 0, cost := 0 }

/-- What a token reported missing adds to the cost of a repair. -/
def missingCost : Nat := 110

/-- The bracket depth after a token: one more after an opening bracket, one less after
a closing one. -/
def depthAfter (depth : Nat) (kind : LexKind) : Nat :=
  match kind with
  | .punct "(" | .punct "[" | .punct "\x7b" => depth + 1
  | .punct ")" | .punct "]" | .punct "\x7d" => depth - 1
  | _ => depth

/-- What a parse keeps beside the cursor, which no failure undoes: the furthest index any
step has read to, and, while a reading is traced, the trees it built, each after the
trees it is built from. -/
structure Trace where
  furthest : Nat
  built : Array Cst
  /-- The trees kept beside the tokens, such as comments and tokens passed over. -/
  aside : Array Cst
  deriving Inhabited

/-- Failing with nothing to report, and trying a second step when the first fails; the
state is kept through a failure. -/
instance : Alternative (EStateM Unit Trace) where
  failure := throw ()
  orElse a b := tryCatch a fun _ => b ()

/-- Parsing steps: they read the environment, move the cursor and may fail.  Beside the
cursor, which a failed step leaves as it was, they keep the furthest index any step has
read to, which no failure undoes: a reading that fails broke down there. -/
abbrev Parser (δ α : Type) := ReaderT (Env δ) (StateT Cursor (EStateM Unit Trace)) α

/-- A child of a node with its field. -/
abbrev Child := Option String × Cst

/-- A child without a field. -/
def plain (c : Cst) : Child := (none, c)

/-- A child in a field. -/
def fld (name : String) (c : Cst) : Child := (some name, c)

/-- Put children of a hidden rule into a field; a child that has a field keeps it. -/
def inField (name : String) (cs : List Child) : List Child :=
  cs.map fun (f, c) => (f.orElse fun _ => some name, c)

/-- Children without fields. -/
def plainAll (cs : List Cst) : List Child :=
  cs.map plain

/-- Run a parse over a source from a cursor. -/
def Parser.run' {δ α : Type} (p : Parser δ α) (env : Env δ) (c : Cursor) : Option (α × Cursor) :=
  match ((p.run env).run c).run ⟨0, #[], #[]⟩ with
  | .ok r _ => some r
  | .error _ _ => none

namespace Parser

variable {δ : Type}

/-- The source. -/
def source : Parser δ Source := do
  return (← read).src

/-- The dialect. -/
def dialect : Parser δ δ := do
  return (← read).dialect

/-- The next token, without taking it.  The cursor remembers it, so that looking again
from the same index reads nothing. -/
def peek : Parser δ Lexeme := do
  let e ← read
  let c ← get
  match c.ahead with
  | some (p, q, l) =>
    if p == c.pos && q == e.passing then return l
    else
      let l := e.lexer.scan e.src (e.lexer.nextStart e.src c.pos)
      set { c with ahead := some (c.pos, e.passing, l) }
      return l
  | none =>
    let l := e.lexer.scan e.src (e.lexer.nextStart e.src c.pos)
    set { c with ahead := some (c.pos, e.passing, l) }
    return l

/-- The index where the next token starts. -/
def nextIndex : Parser δ Nat := do
  return (← peek).start

/-- The token after a given one. -/
def peekAfter (l : Lexeme) : Parser δ Lexeme := do
  let e ← read
  return e.lexer.scan e.src (e.lexer.nextStart e.src l.stop)

/-- The text of a token. -/
def lexText (l : Lexeme) : Parser δ String := do
  return (← source).slice l.start l.stop

/-- The comment trees for character ranges. -/
def commentLeaves (l : Lexer) (s : Source) (cs : Comments) : Array Cst :=
  (cs.map fun (a, b) => l.comment s a b).toArray

/-- Move the cursor to `stop`, recording the comments before the next token. -/
def commit (stop : Nat) : Parser δ Unit := do
  let e ← read
  let c ← get
  let (_, cs) := e.lexer.trivia e.src c.pos
  let leaves := commentLeaves e.lexer e.src cs
  set { c with pos := stop, lastEnd := stop, extras := c.extras ++ leaves }
  if e.tracing.isSome then modifyThe Trace fun t => { t with aside := t.aside ++ leaves }
  modifyThe Trace fun t => { t with furthest := max t.furthest stop }

/-- Keep a tree in the trace while a reading is traced. -/
def built (t : Cst) : Parser δ Cst := do
  if (← read).tracing.isSome then modifyThe Trace fun tr => { tr with built := tr.built.push t }
  return t

/-- Take a token as a leaf of a kind. -/
def take (l : Lexeme) (kind : String) (named : Bool) : Parser δ Cst := do
  commit l.stop
  modify fun c => { c with depth := depthAfter c.depth l.kind }
  let s ← source
  built (.token kind named (s.offset l.start) (s.offset l.stop))

/-- Whether a token starts right where a tree ends, with nothing between them. -/
def startsAt (l : Lexeme) (c : Cst) : Parser δ Bool := do
  return (← source).offset l.start == c.stop

/-- Take the characters from the cursor to `stop` as a leaf, with no blanks skipped. -/
def takeRaw (stop : Nat) (kind : String) (named : Bool) : Parser δ Cst := do
  let s ← source
  let c ← get
  set { c with pos := stop, lastEnd := stop }
  modifyThe Trace fun t => { t with furthest := max t.furthest stop }
  built (.token kind named (s.offset c.pos) (s.offset stop))

/-- The character index of the cursor. -/
def pos : Parser δ Nat := do
  return (← get).pos

/-- The byte offset where the next token starts. -/
def here : Parser δ Nat := do
  let s ← source
  return s.offset (← nextIndex)

/-- Whether the next token is a punctuator. -/
def atPunct (p : String) : Parser δ Bool := do
  return (← peek).kind == .punct p

/-- Whether a token is a given word. -/
def wordIs (l : Lexeme) (w : String) : Parser δ Bool := do
  if l.kind == .word then return (← lexText l) == w else return false

/-- Whether the next token is a given word. -/
def atWord (w : String) : Parser δ Bool := do
  wordIs (← peek) w

/-- Whether the next token is one of some words. -/
def atWords (ws : List String) : Parser δ Bool := do
  let l ← peek
  if l.kind == .word then return ws.contains (← lexText l) else return false

/-- Take a punctuator. -/
def punct (p : String) : Parser δ Cst := do
  let l ← peek
  if l.kind == .punct p then take l p false else failure

/-- Take a keyword. -/
def keyword (w : String) : Parser δ Cst := do
  let l ← peek
  if ← wordIs l w then take l w false else failure

/-- Take a punctuator if it is next. -/
def optPunct (p : String) : Parser δ (List Child) := do
  if ← atPunct p then return [plain (← punct p)] else return []

/-- Take a keyword if it is next. -/
def optKeyword (w : String) : Parser δ (List Child) := do
  if ← atWord w then return [plain (← keyword w)] else return []

/-- A named node over children. -/
def node (kind : String) (cs : List Child) : Parser δ Cst := do
  built (Cst.make kind true cs (← here))

/-- Whether the end of the source is next. -/
def atEof : Parser δ Bool := do
  return (← peek).kind == .eof

/-- Start a reading afresh: the furthest index read is where the cursor stands. -/
def markStart : Parser δ Unit := do
  let p := (← get).pos
  modifyThe Trace fun t => { t with furthest := p }

/-- Where the last reading broke down: the start of the first token after the furthest
index read. -/
def brokeAt : Parser δ Nat := do
  let e ← read
  return e.lexer.nextStart e.src (← getThe Trace).furthest

/-- Run a step that repairs a reading which broke down at `i`. -/
def repairing {α : Type} (i : Nat) (p : Parser δ α) : Parser δ α :=
  withReader (fun e => { e with breakdown := some i }) p

/-- Whether the next token is where the reading being repaired broke down; a repair
inserts a missing token only there. -/
def atBreakdown : Parser δ Bool := do
  match (← read).breakdown with
  | some i => return (← nextIndex) == i
  | none => return true

/-- A zero-width token for one that is missing, while the allowance lasts; it stands
right after the last token taken. -/
def missingHere (p : String) : Parser δ Cst := do
  let c ← get
  if c.missing > 0 && (← atBreakdown) then
    let depth := depthAfter c.depth (.punct p)
    set { c with missing := c.missing - 1, depth := depth, cost := c.cost + missingCost }
    return .missing p false ((← source).offset c.lastEnd)
  else failure

/-- A zero-width named leaf for one that is missing, while the allowance lasts; it stands
right after the last token taken. -/
def missingLeaf (kind : String) : Parser δ Cst := do
  let c ← get
  if c.missing > 0 && (← atBreakdown) then
    set { c with missing := c.missing - 1, cost := c.cost + missingCost }
    return .missing kind true ((← source).offset c.lastEnd)
  else failure

/-- A zero-width token for one that is missing, only at the end of the source. -/
def missingTok (p : String) : Parser δ Cst := do
  if ← atEof then missingHere p else failure

/-- Take a punctuator, or report it missing at the end of the source. -/
def expect (p : String) : Parser δ Cst := do
  if ← atPunct p then punct p else missingTok p

/-- Whether a line break stands before the next token. -/
def breakAhead : Parser δ Bool := do
  let c ← get
  return breakBetween (← source) c.lastEnd (← nextIndex)

/-- Try a step; on failure nothing is consumed.  While a reading is traced, a step that
fails before the index the reading reaches was an alternative the reading left, and the
trees it built leave the trace with it. -/
def attempt {α : Type} (p : Parser δ α) : Parser δ (Option α) := do
  match (← read).tracing with
  | none => (some <$> p) <|> pure none
  | some target =>
    let before ← getThe Trace
    let p0 := (← get).pos
    modifyThe Trace fun t => { t with furthest := p0 }
    let r ← (some <$> p) <|> pure none
    let after ← getThe Trace
    let e ← read
    let dropped := r.isNone && e.lexer.nextStart e.src after.furthest < target
    let kept := if dropped then after.built.extract 0 before.built.size else after.built
    let aside := if dropped then after.aside.extract 0 before.aside.size else after.aside
    modifyThe Trace fun _ => { furthest := max before.furthest after.furthest, built := kept, aside }
    return r

/-- The trace of a step as it reads towards index `target`, which a reading of it is known
to reach; the step may fail, and the cursor and the furthest index are left as they
were. -/
def traced {α : Type} (target : Nat) (p : Parser δ α) : Parser δ Trace := do
  let saved ← getThe Trace
  let c ← get
  modifyThe Trace fun _ => { furthest := c.pos, built := #[], aside := #[] }
  let _ ← (some <$> withReader (fun e => { e with tracing := some target }) p) <|> pure none
  let t ← getThe Trace
  modifyThe Trace fun _ => saved
  set c
  return t

/-- The trees that cover the tokens from byte offset `start` as a parse stack holds them
when its reading gives out: from each point the largest tree built there, and of trees
with the same span the first built, which the others were built over. -/
def cover (built : Array Cst) (start : Nat) : List Cst :=
  let indexed := built.toList.zipIdx.filter fun (t, _) => t.start < t.stop
  let sorted := indexed.mergeSort fun (a, i) (b, j) =>
    a.start < b.start || (a.start == b.start && (b.stop < a.stop || (a.stop == b.stop && i ≤ j)))
  let step (acc : Nat × List Cst) (x : Cst × Nat) : Nat × List Cst :=
    if x.1.start < acc.1 then acc else (x.1.stop, x.1 :: acc.2)
  (sorted.foldl step (start, [])).2.reverse

/-- Whether only tokens that start nothing stand from index `i` to the end of the source. -/
def onlyInvalidFrom (lx : Lexer) (s : Source) : Nat → Nat → Bool
  | 0, _ => false
  | fuel + 1, i =>
    let t := lx.scan s (lx.nextStart s i)
    if t.kind == .eof then true
    else if t.kind == .invalid then onlyInvalidFrom lx s fuel t.stop
    else false

/-- Take tokens while the next one starts before byte offset `stop`. -/
def skipBefore (stop : Nat) : Nat → Parser δ Unit
  | 0 => return
  | fuel + 1 => do
    let l ← peek
    if l.kind == .eof || stop ≤ (← source).offset l.start then return
    else
      let _ ← take l "" false
      skipBefore stop fuel

/-- Take the tokens up to the end of the source, each as a leaf. -/
def takeRest (leaf : Source → Lexeme → Cst) : Nat → Parser δ (List Cst)
  | 0 => return []
  | fuel + 1 => do
    let l ← peek
    if l.kind == .eof then return []
    else
      let _ ← take l "" false
      let t := leaf (← source) l
      return t :: (← takeRest leaf fuel)

/-- The trace of the first of some readings that reaches index `target`. -/
def firstReaching {α : Type} (target : Nat) : List (Parser δ α) → Parser δ (Option Trace)
  | [] => return none
  | step :: more => do
    let t ← traced target step
    let e ← read
    if target ≤ e.lexer.nextStart e.src t.furthest then return some t
    else firstReaching target more

/-- The rest of a source whose reading gave out at index `target`: the trees a parse stack
holds when the reading gives out, then the tokens from `target` on, all in one error
node, as `wrapRest` keeps them, whatever tokens follow. -/
def wrapFrom {α : Type} (steps : List (Parser δ α)) (target : Nat)
    (leaf : Source → Lexeme → Cst) : Parser δ (Option (List Cst)) := do
  let e ← read
  let start ← here
  match ← firstReaching target steps with
  | none => return none
  | some trace =>
    let kept := (cover trace.built start).filter fun t => t.stop ≤ e.src.offset target
    match kept.getLast? with
    | none => return none
    | some last =>
      let c0 ← get
      skipBefore last.stop (e.src.length + 1)
      -- the trees must end where a token of the source ends
      if e.src.offset (← get).lastEnd != last.stop then
        set c0
        return none
      -- what the lexer passed among the kept trees stays only where no tree has a token
      let c1 ← get
      let between := (c1.extras.extract c0.extras.size c1.extras.size).filter fun x =>
        !(kept.any fun t => t.touches x.start x.stop)
      set { c1 with extras := c0.extras ++ between }
      let present := (← get).extras
      let passed := trace.aside.toList.filter fun x =>
        start ≤ x.start && x.stop ≤ last.stop && !(present.any fun y => y.start == x.start) &&
          !(kept.any fun t => t.touches x.start x.stop)
      let passed := passed.foldl
        (fun acc x => if acc.any (·.start == x.start) then acc else acc.push x) #[]
      modify fun c => { c with extras := c.extras ++ passed }
      let rest ← takeRest leaf (e.src.length + 1)
      return some (kept ++ rest)

/-- The rest of a source whose reading gave out at index `target`, with nothing after it but
tokens that start nothing: the trees a parse stack holds when the reading gives out, then
those tokens, all in one error node.  The first of the readings whose trace reaches
`target` gives the trees, and the tokens it passed over among them stand beside them as
before; `none` when no reading reaches `target`. -/
def wrapRest {α : Type} (steps : List (Parser δ α)) (target : Nat)
    (leaf : Source → Lexeme → Cst) : Parser δ (Option (List Cst)) := do
  let e ← read
  if !onlyInvalidFrom e.lexer e.src (e.src.length + 1) target then return none
  else wrapFrom steps target leaf

/-- The starts of the next tokens from `i`: up to and including the first `;` outside
brackets, stopping before a closing brace outside brackets or at the end, at most `fuel`
of them. -/
def tokenStarts (lx : Lexer) (s : Source) : Nat → Nat → Nat → List Nat
  | 0, _, _ => []
  | fuel + 1, i, depth =>
    let j := lx.nextStart s i
    let t := lx.scan s j
    match t.kind with
    | .eof => []
    | .punct ";" => if depth == 0 then [j] else j :: tokenStarts lx s fuel t.stop depth
    | .punct "\x7d" => if depth == 0 then [] else j :: tokenStarts lx s fuel t.stop (depth - 1)
    | .punct ")" | .punct "]" => j :: tokenStarts lx s fuel t.stop (depth - 1)
    | .punct "\x7b" | .punct "(" | .punct "[" => j :: tokenStarts lx s fuel t.stop (depth + 1)
    | _ => j :: tokenStarts lx s fuel t.stop depth

/-- What passing over a token adds to the cost of a repair: a hundred, one for each of
its bytes and thirty for each line break in it.  The blanks before it are not counted:
an error node starts at its first token. -/
def passCost (s : Source) (start stop : Nat) : Nat :=
  let breaks := ((List.range (stop - start)).filter fun k => s.get (start + k) == '\n').length
  100 + (s.offset stop - s.offset start) + 30 * breaks

/-- The cheaper of two repairs, each a result, the cursor after it and its cost; on a
tie the first is kept. -/
def cheaper {α : Type} : Option (α × Cursor) → Option (α × Cursor) → Option (α × Cursor)
  | some a, some b => if b.2.cost < a.2.cost then some b else some a
  | some a, none => some a
  | none, b => b

/-- What keeping items in an error node at the end of the source adds to the cost of a
parse: the bytes they span, thirty for each line break among them and a hundred for each
item.  A repair that costs more than this loses to the error node. -/
def wrapCost (s : Source) (items : List Cst) : Nat :=
  match items.head?, items.getLast? with
  | some first, some last =>
    (last.stop - first.start) + 30 * ((s.point last.stop).row - (s.point first.start).row) +
      100 * items.length
  | _, _ => 0

/-- Items kept in one error node; no node when there are none. -/
def errorNode (items : List Cst) : List Child :=
  match items.head?, items.getLast? with
  | some first, some last => [plain (.node "ERROR" true first.start last.stop (items.map plain))]
  | _, _ => []

/-- The start of the blanks right before index `i`, looking back at most `fuel`
characters. -/
def blankStart (s : Source) : Nat → Nat → Nat
  | 0, i => i
  | _, 0 => 0
  | fuel + 1, i + 1 =>
    let c := s.get i
    if c == ' ' || c == '\t' || c == '\n' || c == '\r' then blankStart s fuel i else i + 1

/-- The better of two repairs, each a result, the cursor after it and a second cost that
breaks a tie of the first; on a full tie the first is kept. -/
def cheaperThen {α : Type} : Option (α × Cursor × Nat) → Option (α × Cursor × Nat) →
    Option (α × Cursor × Nat)
  | some a, some b =>
    if b.2.1.cost < a.2.1.cost || (b.2.1.cost == a.2.1.cost && b.2.2 < a.2.2) then some b else some a
  | some a, none => some a
  | none, b => b

/-- Run a step passing over one token, for each candidate in turn, its start and a second
cost that breaks a tie: the runs that read past their token are repairs, and the
cheapest is kept, the earlier candidate on a full tie.  Where the step still does not
read, `onFail` with the token passed over and where this reading broke down may repair
it further. -/
def passOverBest {α : Type} (step : Parser δ α) (leaf : Source → Lexeme → Cst)
    (onFail : Nat → Nat → Parser δ α) :
    List (Nat × Nat) → Option (α × Cursor × Nat) → Parser δ (Option (α × Cursor))
  | [], best => return best.map fun (r, after, _) => (r, after)
  | (i, tie) :: rest, best => do
    let c ← get
    let e ← read
    let t := e.lexer.scan e.src i
    let run : Parser δ α :=
        withReader (fun e => { e with lexer := e.lexer.passingOver i leaf, passing := i :: e.passing }) do
      set { c with cost := c.cost + passCost e.src i t.stop }
      let saved := (← getThe Trace).furthest
      modifyThe Trace fun tr => { tr with furthest := c.pos }
      let r ← step <|> do
        let g ← brokeAt
        modifyThe Trace fun tr => { tr with furthest := max tr.furthest saved }
        onFail i g
      modifyThe Trace fun tr => { tr with furthest := max tr.furthest saved }
      if (← get).pos > i then pure r else failure
    let found ← attempt do
      let r ← run
      pure (r, ← get, tie)
    set c
    passOverBest step leaf onFail rest (cheaperThen best found)

/-- What passing over a run of tokens as one error adds to the cost of a repair: a
hundred for each token that is no error token, one for each byte from the start of the
first to the end of the last, and thirty for each line break among them. -/
def runCost (lx : Lexer) (s : Source) (start count : Nat) : Nat :=
  let tokens := lx.runTokens s count start
  let stop := lx.runEnd s count start
  let breaks := ((List.range (stop - start)).filter fun k => s.get (start + k) == '\n').length
  100 * (tokens.filter fun t => t.kind != .invalid).length + (s.offset stop - s.offset start) + 30 * breaks

/-- Run a step passing over a run of tokens as one error, for each candidate run in turn,
a start and a number of tokens: the runs that read past their tokens are repairs, and the
cheapest is kept, the earlier candidate on a tie. -/
def passRunBest {α : Type} (step : Parser δ α) (leaf : Source → Lexeme → Cst) :
    List (Nat × Nat) → Option (α × Cursor) → Parser δ (Option (α × Cursor))
  | [], best => return best
  | (i, count) :: rest, best => do
    let c ← get
    let e ← read
    let run : Parser δ α :=
        withReader (fun e => { e with lexer := e.lexer.passingOverRun i count leaf, passing := i :: e.passing }) do
      set { c with cost := c.cost + runCost e.lexer e.src i count }
      let r ← step
      if (← get).pos > i then pure r else failure
    let found ← attempt do
      let r ← run
      pure (r, ← get)
    set c
    passRunBest step leaf rest (cheaper best found)

/-- The runs of two tokens around an error token where the reading broke down, at `f`:
the token before it with it, and it with the token after it, in the order `popFirst`
says.  None when no error token stands at `f`. -/
def errorTokenRuns (lx : Lexer) (s : Source) (from_ f : Nat) (popFirst : Bool) : List (Nat × Nat) :=
  if (lx.scan s f).kind != .invalid then []
  else
    let before := ((tokenStarts lx s 64 from_ 0).filter (· < f)).getLast?
    let pop := match before with
      | some p => [(p, 2)]
      | none => []
    if popFirst then pop ++ [(f, 2)] else (f, 2) :: pop

/-- Read a step that did not read by passing over one of the runs of two tokens around
an error token where the reading broke down, kept in one error node, while the allowance
lasts. -/
def recoverRun {α : Type} (step : Parser δ α) (leaf : Source → Lexeme → Cst) (popFirst : Bool) :
    Parser δ α := do
  let c ← get
  let e ← read
  match e.breakdown with
  | none => failure
  | some f =>
    let runs := errorTokenRuns e.lexer e.src c.pos f popFirst
    if c.skips == 0 || runs.isEmpty then failure
    else
      set { c with skips := c.skips - 1 }
      match ← passRunBest step leaf runs none with
      | some (r, after) =>
        set after
        return r
      | none => failure

/-- Read a step that did not read by passing over, as one error, every token from where
the step started up to the one where the reading broke down: the parser drops back to
the state before the step and keeps all it read of it in the error, while the allowance
lasts. -/
def recoverFromStart {α : Type} (step : Parser δ α) (leaf : Source → Lexeme → Cst) : Parser δ α := do
  let c ← get
  let e ← read
  match e.breakdown with
  | none => failure
  | some f =>
    let count := ((tokenStarts e.lexer e.src 256 c.pos 0).filter (· ≤ f)).length
    if c.skips == 0 || count < 2 then failure
    else
      set { c with skips := c.skips - 1 }
      match ← passRunBest step leaf [(e.lexer.nextStart e.src c.pos, count)] none with
      | some (r, after) =>
        set after
        return r
      | none => failure

/-- Read a step that did not read by passing over the characters from `skip` to `stop`,
a construct whose tree is `tree`, kept in an error node, while the allowance lasts. -/
def recoverSpan {α : Type} (step : Parser δ α) (skip stop : Nat) (tree : Cst) : Parser δ α := do
  let c ← get
  if c.skips == 0 then failure
  else
    let s ← source
    withReader (fun e => { e with lexer := e.lexer.passingOverSpan skip stop tree, passing := skip :: e.passing }) do
      set { c with skips := c.skips - 1, cost := c.cost + passCost s skip stop }
      let r ← step
      if (← get).pos > skip then pure r else failure

/-- Read a step that did not read by passing over the token where the reading broke down,
kept in an error node, while the allowance lasts. -/
def recoverAtBreakdown {α : Type} (step : Parser δ α) (leaf : Source → Lexeme → Cst) : Parser δ α := do
  let c ← get
  match (← read).breakdown with
  | some f =>
    if c.skips == 0 then failure
    else
      set { c with skips := c.skips - 1 }
      match ← passOverBest step leaf (fun _ _ => failure) [(f, 0)] none with
      | some (r, after) =>
        set after
        return r
      | none => failure
  | none => failure

/-- Whether two names in a row start the step: the first then reads as a whole
statement cut short, and passing over it is no repair. -/
def twoNames (lx : Lexer) (s : Source) (leaf : Source → Lexeme → Cst) : List Nat → Bool
  | i :: j :: _ =>
    (leaf s (lx.scan s i)).kind == "identifier" && (leaf s (lx.scan s j)).kind == "identifier"
  | _ => false

/-- Of the tokens starting at `starts`, the one starting at `f` and the one right before
it. -/
def nearBreakdown (lx : Lexer) (s : Source) (starts : List Nat) (f : Nat) : List Nat :=
  starts.filter fun i => i == f || lx.nextStart s (lx.scan s i).stop == f

/-- Read a step that did not read by passing over one of the next tokens, kept in an
error node, while the allowance lasts, and repair it further with `onFail` where it
still does not read.  Where the reading broke down is known, only the token there and
the one before it are candidates, and of two that cost the same the one with fewer
blanks before it is passed over: passing over the token before drops back to the state
before it, which costs the blanks before it, while passing over the token there costs
the blanks before it as it is read.  On a full tie the later token is passed over: the
step failed where its reading stopped, and passing over an earlier token reads a
different construct.  A name followed by another name is not passed over at the
start. -/
def recoverWith {α : Type} (step : Parser δ α) (leaf : Source → Lexeme → Cst)
    (onFail : Nat → Nat → Parser δ α) (nearOnly : Bool) : Parser δ α := do
  let c ← get
  if c.skips == 0 then failure
  else
    let e ← read
    let starts := tokenStarts e.lexer e.src 16 c.pos 0
    let spans := if twoNames e.lexer e.src leaf starts then starts.drop 1 else starts
    let spans : List (Nat × Nat) := match e.breakdown with
      | some f =>
        let near := nearBreakdown e.lexer e.src starts f
        if near.isEmpty then if nearOnly then [] else spans.reverse.map fun i => (i, 0)
        else (spans.filter near.contains).reverse.map fun i => (i, i - blankStart e.src i i)
      | none => spans.reverse.map fun i => (i, 0)
    set { c with skips := c.skips - 1 }
    match ← passOverBest step leaf onFail spans none with
    | some (r, after) =>
      set after
      return r
    | none => failure

/-- Read a step that did not read by passing over tokens one after another, each where
the reading broke down again after the last, at most `more` more after the first: as
the parser reads on, each error is repaired where it is met.  A reading that breaks down
within the two tokens after one passed over is no new error but the same one going on:
there the parser would rather keep the tokens in one error.  After the first, only the
tokens at and right before where the reading broke down are candidates (`nearOnly`). -/
def chainFrom {α : Type} (step : Parser δ α) (leaf : Source → Lexeme → Cst) (nearOnly : Bool) :
    Nat → Parser δ α
  | 0 => recoverWith step leaf (fun _ _ => failure) nearOnly
  | more + 1 =>
    let further (i g : Nat) : Parser δ α := do
      let e ← read
      let after (j : Nat) : Nat := e.lexer.nextStart e.src (e.lexer.scan e.src j).stop
      if g ≤ after (after i) then failure
      else
        modify fun c => { c with skips := 1 }
        repairing g (chainFrom step leaf true more)
    recoverWith step leaf further nearOnly

/-- Read a step that did not read by passing over tokens one after another, at most
`more` more after the first (`chainFrom`). -/
def recoverChain {α : Type} (step : Parser δ α) (leaf : Source → Lexeme → Cst) (more : Nat) :
    Parser δ α :=
  chainFrom step leaf false more

/-- Read a step that did not read by passing over one of the next tokens
(`recoverWith`). -/
def recoverOne {α : Type} (step : Parser δ α) (leaf : Source → Lexeme → Cst) : Parser δ α :=
  recoverChain step leaf 0

/-- The tokens from the cursor up to `close` or a closing brace outside braces, or the
end, taken as leaves, and string literals read whole by `literal`.  A word where the
reading being repaired broke down reads as a name: there a keyword was not expected. -/
def looseRun (leaf : Source → Lexeme → Cst) (literal : Parser δ Cst) (close : String) :
    Nat → Nat → Parser δ (List Cst)
  | 0, _ => return []
  | fuel + 1, depth => do
    let l ← peek
    if l.kind == .eof || ((l.kind == .punct "\x7d" || l.kind == .punct close) && depth == 0) then
      return []
    else
      let s ← source
      let e ← read
      let str ← if l.kind matches .quote _ then attempt literal else pure none
      let t ← match str with
        | some t => pure t
        | none => do
          commit l.stop
          if e.breakdown == some l.start && l.kind == .word then
            pure (Cst.token "identifier" true (s.offset l.start) (s.offset l.stop))
          else pure (leaf s l)
      let depth := match l.kind with
        | .punct "\x7b" => depth + 1
        | .punct "\x7d" => depth - 1
        | _ => depth
      let rest ← looseRun leaf literal close fuel depth
      return t :: rest

/-- In a repair, while the allowance lasts, the tokens up to `close` or a closing brace
outside braces kept in an error node, string literals read whole by `literal`. -/
def errorRun (leaf : Source → Lexeme → Cst) (literal : Parser δ Cst) (close : String) :
    Parser δ Cst := do
  let c ← get
  if c.skips == 0 then failure
  else
    set { c with skips := c.skips - 1 }
    let s ← source
    match ← looseRun leaf literal close (s.length + 1) 0 with
    | first :: more =>
      let last := (first :: more).getLast (List.cons_ne_nil first more)
      let stop := (← get).lastEnd
      let cost := passCost s ((← read).lexer.nextStart s c.pos) stop + 100 * more.length
      modify fun c' => { c' with cost := c'.cost + cost }
      return .node "ERROR" true first.start last.stop ((first :: more).map plain)
    | [] => failure

/-- Whether a step would succeed here; nothing is consumed. -/
def succeeds {α : Type} (p : Parser δ α) : Parser δ Bool := do
  let c ← get
  let r ← attempt p
  set c
  return r.isSome

end Parser

end Syntax
end ShapeSearch
