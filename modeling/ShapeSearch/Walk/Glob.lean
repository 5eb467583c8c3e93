/-!
# Globs

A glob describes a set of paths.  `?` is one character and `*` a run of
characters, neither crossing a `/`; `**` as a whole component crosses any number
of directories; `[...]` is a character class (`!` or `^` negates it, `a-z` is a
range), and a `[` that no `]` closes is the character itself; `{a,b}` is a
choice between alternatives, which may nest; a backslash makes the next
character literal.

Paths are matched as bytes: a literal stands for its UTF-8 bytes, and `?`, a
class and the run of `*` step over single bytes; no wildcard treats a line
break specially.  Two shapes are matched by the last component
alone, `**/name` and `**/*.ext`; a path ending in the component `.` or `..` has no
last component for them, so these globs never match it.
-/

namespace ShapeSearch
namespace Glob

/-- Why a glob could not be read. -/
inductive Problem where
  | invalidRecursive
  | unclosedClass
  | invalidRange (lo hi : Char)
  | unopenedAlternates
  | unclosedAlternates
  | danglingEscape
  deriving Repr, DecidableEq, Inhabited

/-- The sentence for a problem. -/
def Problem.message : Problem → String
  | .invalidRecursive => "invalid use of **; must be one path component"
  | .unclosedClass => "unclosed character class; missing ']'"
  | .invalidRange lo hi => "invalid range; '" ++ lo.toString ++ "' > '" ++ hi.toString ++ "'"
  | .unopenedAlternates => "unopened alternate group; missing '\x7b' (maybe escape '\x7d' with '[\x7d]'?)"
  | .unclosedAlternates => "unclosed alternate group; missing '\x7d' (maybe escape '\x7b' with '[\x7b]'?)"
  | .danglingEscape => "dangling '\\'"

/-- One step of a glob without choices. -/
inductive Piece where
  /-- The character itself. -/
  | literal (c : Char)
  /-- One byte other than `/`. -/
  | one
  /-- Any bytes without `/`. -/
  | run
  /-- Nothing, `/`, or a line ending with `/`: the leading `**/`. -/
  | anyDirectories
  /-- `/` and the rest of the line: the trailing `/**`. -/
  | below
  /-- `/` or `/`, a line, `/`: the inner `/**/`. -/
  | between
  /-- Any line: the glob `**` alone. -/
  | everything
  /-- One byte in (or, negated, outside) the ranges. -/
  | oneOf (negated : Bool) (ranges : List (Char × Char))
  deriving Repr, DecidableEq, Inhabited

/-- One step of a glob: a piece, or a choice between piece sequences. -/
inductive Token where
  | piece (p : Piece)
  | choice (alternatives : List (List Piece))
  deriving Repr, DecidableEq, Inhabited

/-- The piece sequences a token sequence stands for. -/
def expand : List Token → List (List Piece)
  | [] => [[]]
  | .piece p :: ts => (expand ts).map (p :: ·)
  | .choice alts :: ts =>
    let rest := expand ts
    alts.flatMap fun a => rest.map (a ++ ·)

/-- The alternatives of a choice between branches: branches that stand for nothing
drop out, and a choice of nothing stands for nothing. -/
def choiceOf (branches : List (List Token)) : List (List Piece) :=
  let kept := (branches.map expand).filter (· != [[]])
  if kept.isEmpty then [[]] else kept.flatten

/-- An open choice while reading: its finished branches and the current one. -/
structure Frame where
  done : List (List Token)
  current : List Token
  deriving Inhabited

/-- Read a character class after its `[`: the class and the text after its `]`. -/
def readClass (cs : List Char) : Except Problem (Piece × List Char) :=
  let (negated, body) := match cs with
    | '!' :: rest | '^' :: rest => (true, rest)
    | _ => (false, cs)
  let rec go : List Char → List (Char × Char) → Bool → Bool →
      Except Problem (List (Char × Char) × List Char)
    | [], _, _, _ => .error .unclosedClass
    | ']' :: rest, ranges, first, inRange =>
      if first then go rest (ranges ++ [(']', ']')]) false inRange
      else .ok ((if inRange then ranges ++ [('-', '-')] else ranges), rest)
    | '-' :: rest, ranges, first, inRange =>
      if first then go rest (ranges ++ [('-', '-')]) false false
      else if inRange then
        match ranges.getLast? with
        | some (lo, _) =>
          if '-' < lo then .error (.invalidRange lo '-')
          else go rest (ranges.dropLast ++ [(lo, '-')]) false false
        | none => go rest ranges false false
      else go rest ranges false true
    | c :: rest, ranges, _, inRange =>
      if inRange then
        match ranges.getLast? with
        | some (lo, _) =>
          if c < lo then .error (.invalidRange lo c)
          else go rest (ranges.dropLast ++ [(lo, c)]) false false
        | none => go rest (ranges ++ [(c, c)]) false false
      else go rest (ranges ++ [(c, c)]) false false
  (go body [] true false).map fun (ranges, rest) => (.oneOf negated ranges, rest)

/-- The reading state: open choices (innermost first, the glob itself last), the
previous character and the text left. -/
structure Reader where
  frames : List Frame
  prev : Option Char
  rest : List Char
  deriving Inhabited

namespace Reader

/-- Add a token to the innermost sequence. -/
def push (r : Reader) (t : Token) : Reader :=
  match r.frames with
  | f :: fs => { r with frames := { f with current := f.current ++ [t] } :: fs }
  | [] => r

/-- Whether the innermost sequence has a token. -/
def hasTokens (r : Reader) : Bool :=
  match r.frames with
  | f :: _ => !f.current.isEmpty
  | [] => false

/-- Remove the innermost sequence's last token. -/
def pop (r : Reader) : Reader × Option Token :=
  match r.frames with
  | f :: fs => ({ r with frames := { f with current := f.current.dropLast } :: fs }, f.current.getLast?)
  | [] => (r, none)

/-- Read `**` after the first `*` was taken; `cs` is the text after both stars. -/
def star (r : Reader) (cs : List Char) : Reader :=
  let prev := r.prev
  let double (r : Reader) (rest : List Char) : Reader :=
    { (r.push (.piece .run)).push (.piece .run) with rest, prev := some '*' }
  if !r.hasTokens then
    match cs with
    | [] => { r.push (.piece .anyDirectories) with rest := [], prev := some '*' }
    | '/' :: rest => { r.push (.piece .anyDirectories) with rest, prev := some '/' }
    | _ => double r cs
  else if prev != some '/' && (r.frames.length ≤ 1 || (prev != some ',' && prev != some '{')) then
    double r cs
  else
    let suffix : Option (Bool × List Char × Char) := match cs with
      | [] => some (true, [], '*')
      | ',' :: _ | '}' :: _ => if r.frames.length ≥ 2 then some (true, cs, '*') else none
      | '/' :: rest => some (false, rest, '/')
      | _ => none
    match suffix with
    | none => double r cs
    | some (isSuffix, rest, last) =>
      let (r', popped) := r.pop
      let t : Piece := match popped with
        | some (.piece .anyDirectories) => .anyDirectories
        | some (.piece .below) => .below
        | _ => if isSuffix then .below else .between
      { r'.push (.piece t) with rest, prev := some last }

/-- Read one step of the glob. -/
def step (r : Reader) : Except Problem Reader :=
  match r.rest with
  | [] => .ok r
  | c :: cs =>
    let before := r.prev
    let r := { r with rest := cs, prev := some c }
    match c with
    | '?' => .ok (r.push (.piece .one))
    | '*' =>
      match cs with
      | '*' :: more => .ok (star { r with prev := before } more)
      | _ => .ok (r.push (.piece .run))
    | '[' =>
      match readClass cs with
      | .ok (p, rest) => .ok { r.push (.piece p) with rest, prev := some ']' }
      | .error .unclosedClass => .ok (r.push (.piece (.literal '[')))
      | .error e => .error e
    | '{' => .ok { r with frames := { done := [], current := [] } :: r.frames }
    | '}' =>
      match r.frames with
      | f :: parent :: fs =>
        let alts := choiceOf (f.done ++ [f.current])
        .ok ({ r with frames := parent :: fs }.push (.choice alts))
      | _ => .error .unopenedAlternates
    | ',' =>
      match r.frames with
      | f :: parent :: fs =>
        .ok { r with frames := { done := f.done ++ [f.current], current := [] } :: parent :: fs }
      | _ => .ok (r.push (.piece (.literal ',')))
    | '\\' =>
      match cs with
      | e :: rest => .ok { r.push (.piece (.literal e)) with rest, prev := some e }
      | [] => .error .danglingEscape
    | c => .ok (r.push (.piece (.literal c)))

/-- Read steps while fuel lasts; every step takes at least one character. -/
def run : Nat → Reader → Except Problem Reader
  | 0, r => .ok r
  | fuel + 1, r => if r.rest.isEmpty then .ok r else do run fuel (← r.step)

end Reader

end Glob

/-- A glob: its text and its tokens. -/
structure Glob where
  text : String
  tokens : List Glob.Token
  deriving Repr, Inhabited

namespace Glob

/-- Read a glob. -/
def parse (text : String) : Except Problem Glob := do
  let start : Reader := { frames := [{ done := [], current := [] }], prev := none, rest := text.toList }
  let r ← Reader.run (text.length + 1) start
  match r.frames with
  | [f] => pure { text, tokens := f.current }
  | _ => throw .unclosedAlternates

/-- The UTF-8 bytes of a character. -/
def charBytes (c : Char) : List UInt8 :=
  c.toString.toUTF8.toList

/-- The byte of `/`. -/
def slash : UInt8 := 47

/-- Whether a variable piece covers a stretch of bytes. -/
def covers : Piece → List UInt8 → Bool
  | .run, bs => !bs.contains slash
  | .anyDirectories, bs => bs.isEmpty || bs.getLast? == some slash
  | .below, bs => bs.head? == some slash
  | .between, bs => bs == [slash] || (bs.length ≥ 2 && bs.head? == some slash && bs.getLast? == some slash)
  | .everything, _ => true
  | _, _ => false

/-- Whether a byte is in a class's ranges. -/
def inRanges (ranges : List (Char × Char)) (b : UInt8) : Bool :=
  ranges.any fun (lo, hi) => lo.toNat ≤ b.toNat && b.toNat ≤ hi.toNat

/-- Whether a piece sequence matches all of a byte sequence. -/
def matchPieces : List Piece → List UInt8 → Bool
  | [], bs => bs.isEmpty
  | .literal c :: ps, bs =>
    let lit := charBytes c
    bs.take lit.length == lit && matchPieces ps (bs.drop lit.length)
  | .one :: ps, bs =>
    match bs with
    | b :: rest => b != slash && matchPieces ps rest
    | [] => false
  | .oneOf negated ranges :: ps, bs =>
    match bs with
    | b :: rest => inRanges ranges b != negated && matchPieces ps rest
    | [] => false
  | p :: ps, bs =>
    (List.range (bs.length + 1)).any fun k => covers p (bs.take k) && matchPieces ps (bs.drop k)

/-- The last component of a path for the component-only shapes: the text after its
last `/`, or none when that is `.` or `..`. -/
def lastComponent (path : List UInt8) : List UInt8 :=
  let last := (path.reverse.takeWhile (· != slash)).reverse
  if last == [46] || last == [46, 46] then [] else last

/-- The extension of a component, from its last dot; empty without a dot. -/
def componentExtension (name : List UInt8) : List UInt8 :=
  if name.contains 46 then (name.reverse.takeWhile (· != 46)).reverse |> (46 :: ·) else []

/-- The literal text of tokens that are all plain characters other than `/`. -/
def plainText : List Token → Option (List Char)
  | [] => some []
  | .piece (.literal c) :: ts => if c == '/' then none else (plainText ts).map (c :: ·)
  | _ => none

/-- How a glob is matched. -/
inductive Shape where
  /-- The last component is the name. -/
  | name (text : List Char)
  /-- The last component's extension is the text (dot included). -/
  | extension (text : List Char)
  /-- The whole path. -/
  | path
  deriving Repr, DecidableEq

/-- The shape of a glob's tokens. -/
def shape (ts : List Token) : Shape :=
  match ts with
  | .piece .anyDirectories :: rest@(_ :: _) =>
    match plainText rest with
    | some text => .name text
    | none =>
      match rest with
      | .piece .run :: .piece (.literal '.') :: ext =>
        match plainText ext with
        | some text => if text.contains '.' then .path else .extension ('.' :: text)
        | none => .path
      | _ => .path
  | _ => .path

/-- Whether a glob matches a path. -/
def isMatch (g : Glob) (path : String) : Bool :=
  let bytes := path.toUTF8.toList
  match shape g.tokens with
  | .name text => lastComponent bytes == (String.ofList text).toUTF8.toList
  | .extension text =>
    componentExtension (lastComponent bytes) == (String.ofList text).toUTF8.toList
  | .path =>
    if g.tokens == [.piece .anyDirectories] then covers .everything bytes
    else (expand g.tokens).any fun ps => matchPieces ps bytes

end Glob

end ShapeSearch
