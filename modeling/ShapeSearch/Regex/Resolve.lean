import ShapeSearch.Regex.Parse
import ShapeSearch.Regex.Property

/-!
# What a regular expression denotes

The syntax tree is resolved into a small core (`Hir`): sets of characters,
zero-width assertions, repetition, sequence, alternation and capturing groups.  Resolving applies
the flags: `i` closes every set under case variants, `s` lets `.` match a
newline, `m` makes `^` and `$` match at line ends, `R` counts `\r\n` as one line
end, turning `u` off keeps classes to ASCII, and `U` swaps which repetitions are
greedy.  A flag group `(?flags)` changes
the flags for the rest of the enclosing group, a group with flags `(?flags:..)`
only inside it.

Unicode classes are resolved as the module `Regex.Property` describes; the
negation and case closing of a class apply to the set its names denote.
-/

namespace ShapeSearch
namespace Regex

/-- The word-boundary assertions. -/
inductive WordLook where
  | boundary
  | notBoundary
  | start
  | stop
  | startHalf
  | stopHalf
  deriving Repr, DecidableEq, Inhabited

/-- Zero-width assertions after resolution. -/
inductive Look where
  | textStart
  | textEnd
  | lineStart (crlf : Bool)
  | lineEnd (crlf : Bool)
  | word (kind : WordLook) (unicode : Bool)
  deriving Repr, DecidableEq, Inhabited

/-- The core that a regular expression denotes. -/
inductive Hir where
  | empty
  | chars (set : CharSet)
  | look (l : Look)
  | rep (body : Hir) (min : Nat) (max : Option Nat) (greedy : Bool)
  | seq (items : List Hir)
  | alt (branches : List Hir)
  | capture (body : Hir)
  deriving Inhabited

/-- The flags in force at a point of the expression. -/
structure Flags where
  caseInsensitive : Bool
  multiLine : Bool
  dotAll : Bool
  crlf : Bool
  unicode : Bool
  swapGreed : Bool
  deriving Repr, DecidableEq, Inhabited

namespace Flags

/-- The flags at the start of an expression. -/
def initial : Flags :=
  { caseInsensitive := false, multiLine := false, dotAll := false, crlf := false, unicode := true,
    swapGreed := false }

/-- Set one flag. -/
def setFlag (fl : Flags) (f : Flag) (v : Bool) : Flags :=
  match f with
  | .caseInsensitive => { fl with caseInsensitive := v }
  | .multiLine => { fl with multiLine := v }
  | .dotMatchesNewLine => { fl with dotAll := v }
  | .crlf => { fl with crlf := v }
  | .unicode => { fl with unicode := v }
  | .swapGreed => { fl with swapGreed := v }
  | .ignoreWhitespace => fl

/-- Apply flag items: flags before a `-` are set, flags after it cleared. -/
def apply (fl : Flags) (items : List FlagItem) : Flags :=
  (items.foldl (fun (acc : Flags × Bool) item =>
    match item with
    | .negation => (acc.1, true)
    | .flag f => (acc.1.setFlag f !acc.2, acc.2)) (fl, false)).1

end Flags

/-- The ASCII classes of `[:name:]`. -/
def asciiSet : AsciiKind → CharSet
  | .alnum => CharSet.normalize [(48, 57), (65, 90), (97, 122)]
  | .alpha => CharSet.normalize [(65, 90), (97, 122)]
  | .ascii => CharSet.range 0 127
  | .blank => CharSet.normalize [(9, 9), (32, 32)]
  | .cntrl => CharSet.normalize [(0, 31), (127, 127)]
  | .digit => CharSet.range 48 57
  | .graph => CharSet.range 33 126
  | .lower => CharSet.range 97 122
  | .print => CharSet.range 32 126
  | .punct => CharSet.normalize [(33, 47), (58, 64), (91, 96), (123, 126)]
  | .space => CharSet.normalize [(9, 13), (32, 32)]
  | .upper => CharSet.range 65 90
  | .word => CharSet.normalize [(48, 57), (65, 90), (95, 95), (97, 122)]
  | .xdigit => CharSet.normalize [(48, 57), (65, 70), (97, 102)]

/-- The Perl classes, by the Unicode flag. -/
def perlSet (kind : PerlKind) (unicode : Bool) : CharSet :=
  match kind, unicode with
  | .digit, true => categorySet (· == .Nd)
  | .space, true => whiteSpaceSet
  | .word, true => wordSet
  | .digit, false => asciiSet .digit
  | .space, false => CharSet.normalize [(9, 13), (32, 32)]
  | .word, false => asciiSet .word

/-- Resolution steps: they may fail with an error of the expression. -/
abbrev ResolveM := ExceptT Error (ReaderT String Id)

namespace Resolve

/-- Stop with an error at a span. -/
def fail {α : Type} (kind : ErrorKind) (span : Span) : ResolveM α := do
  throw { pattern := (← read), kind, span }

/-- Close a set under case when the flag asks for it. -/
def fold (fl : Flags) (s : CharSet) : CharSet :=
  if fl.caseInsensitive then
    if fl.unicode then s.caseClose
    else CharSet.union s (CharSet.normalize (s.ranges.filterMap fun r =>
      if r.2 < 128 then some r else none) |>.caseClose |> fun t => CharSet.inter t (CharSet.range 0 127))
  else s

/-- A Unicode class as a set, with its negation. -/
def unicodeClass (fl : Flags) (span : Span) (negated : Bool) (name : UnicodeName) : ResolveM CharSet := do
  if !fl.unicode then fail .unicodeNotAllowed span
  match unicodeSet name with
  | .ok s =>
    let s := fold fl s
    pure (if name.negates negated then s.complement else s)
  | .error k => fail k span

/-- Fold and negate a class written over a span.  With Unicode off a class may only
hold ASCII characters, and the complement of one never does. -/
def foldNegate (fl : Flags) (span : Span) (negated : Bool) (s : CharSet) : ResolveM CharSet := do
  if negated && !fl.unicode then fail .invalidUtf8 span
  let s := fold fl s
  pure (if negated then s.complement else s)

/-- A Perl class as a set, with its negation. -/
def perlClass (fl : Flags) (kind : PerlKind) (negated : Bool) (span : Span) : ResolveM CharSet :=
  foldNegate fl span negated (perlSet kind fl.unicode)

/-- A literal outside brackets.  With Unicode off, a two-digit escape above `\x7F` names a
byte that is no character of its own. -/
def literal (fl : Flags) (lit : Literal) : ResolveM CharSet := do
  if !fl.unicode && lit.byteEscape && lit.char.toNat > 0x7F then fail .invalidUtf8 lit.span
  pure (fold fl (CharSet.single lit.char))

/-- A literal inside brackets, as its code: with Unicode off it must be ASCII, and a
two-digit escape above `\x7F` is again a byte of its own. -/
def classLiteral (fl : Flags) (lit : Literal) : ResolveM Nat := do
  if !fl.unicode && lit.char.toNat > 0x7F then
    fail (if lit.byteEscape then .invalidUtf8 else .unicodeNotAllowed) lit.span
  pure lit.char.toNat

mutual

/-- A bracketed class as a set. -/
def classSet (fl : Flags) : ClassSet → ResolveM CharSet
  | .union items _ => classItems fl items
  | .op kind lhs rhs => do
    let a ← classSet fl lhs
    let b ← classSet fl rhs
    pure <| match kind with
      | .intersection => a.inter b
      | .difference => a.diff b
      | .symmetricDifference => a.symmDiff b

/-- The union of the items of a class. -/
def classItems (fl : Flags) : List ClassItem → ResolveM CharSet
  | [] => pure CharSet.empty
  | item :: rest => do
    let a ← classItem fl item
    let b ← classItems fl rest
    pure (a.union b)

/-- One item of a class as a set. -/
def classItem (fl : Flags) : ClassItem → ResolveM CharSet
  | .literal lit => do
    let c ← classLiteral fl lit
    pure (fold fl (CharSet.range c c))
  | .range lo hi => do
    let a ← classLiteral fl lo
    let b ← classLiteral fl hi
    pure (fold fl (CharSet.range a b))
  | .ascii kind negated span => foldNegate fl span negated (asciiSet kind)
  | .unicode span negated name => unicodeClass fl span negated name
  | .perl kind negated span => perlClass fl kind negated span
  | .bracketed negated set span => do
    foldNegate fl span negated (← classSet fl set)

end

/-- An assertion under the flags. -/
def assertion (fl : Flags) : Assertion → Look
  | .startLine => if fl.multiLine then .lineStart fl.crlf else .textStart
  | .endLine => if fl.multiLine then .lineEnd fl.crlf else .textEnd
  | .startText => .textStart
  | .endText => .textEnd
  | .wordBoundary => .word .boundary fl.unicode
  | .notWordBoundary => .word .notBoundary fl.unicode
  | .wordStart => .word .start fl.unicode
  | .wordEnd => .word .stop fl.unicode
  | .wordStartHalf => .word .startHalf fl.unicode
  | .wordEndHalf => .word .stopHalf fl.unicode

mutual

/-- Resolve an expression under the flags; also give the flags in force after it. -/
def ast (fl : Flags) : Ast → ResolveM (Hir × Flags)
  | .empty _ => pure (.empty, fl)
  | .flags items _ => pure (.empty, fl.apply items)
  | .literal lit => do pure (.chars (← literal fl lit), fl)
  | .dot span => do
    if !fl.unicode then fail .invalidUtf8 span
    let s := if fl.dotAll then CharSet.full
      else if fl.crlf then (CharSet.full.diff (CharSet.normalize [(10, 10), (13, 13)]))
      else CharSet.full.diff (CharSet.single '\n')
    pure (.chars s, fl)
  | .assertion kind _ => pure (.look (assertion fl kind), fl)
  | .unicode span negated name => do
    pure (.chars (← unicodeClass fl span negated name), fl)
  | .perl kind negated span => do
    pure (.chars (← perlClass fl kind negated span), fl)
  | .bracketed negated set span => do
    pure (.chars (← foldNegate fl span negated (← classSet fl set)), fl)
  | .repetition body min max greedy _ => do
    let (h, _) ← ast fl body
    pure (.rep h min max (if fl.swapGreed then !greedy else greedy), fl)
  | .group kind body _ => do
    let inner := match kind with
      | .nonCapturing items => fl.apply items
      | _ => fl
    let (h, _) ← ast inner body
    match kind with
    | .nonCapturing _ => pure (h, fl)
    | _ => pure (.capture h, fl)
  | .alternation branches _ => do
    let (hs, fl') ← astList fl branches
    pure (.alt hs, fl')
  | .concat items _ => do
    let (hs, fl') ← astList fl items
    pure (.seq hs, fl')

/-- Resolve a list of expressions in order, each under the flags the previous one left. -/
def astList (fl : Flags) : List Ast → ResolveM (List Hir × Flags)
  | [] => pure ([], fl)
  | a :: rest => do
    let (h, fl') ← ast fl a
    let (hs, fl'') ← astList fl' rest
    pure (h :: hs, fl'')

end

end Resolve

/-- Read and resolve a regular expression. -/
def resolve (pattern : String) : Except Error Hir := do
  let tree ← parse pattern
  let (h, _) ← ((Resolve.ast Flags.initial tree).run.run pattern)
  pure h

end Regex
end ShapeSearch
