import ShapeSearch.Cli.Help
import ShapeSearch.Config.Basic
import ShapeSearch.Text.Similarity

/-!
# Reading the command line

The words of a command line are read left to right.

* `--` makes every later word the root.
* `--name` or `--name=value` is an option by its long name; an option that takes
  a value takes the text after `=`, or else the next word.
* `-abc` is a cluster of short names: switches are set one by one, and an option
  that takes a value takes the rest of the cluster (after an optional `=`) or
  else the next word.
* Any other word, and `-` alone, is the value an option waits for, or else the
  root.

The root, the pattern file, the config file and the file to dump are paths, and
an empty value for one of them counts as no value.

A word that starts with a dash is never taken as a value, so an option left
waiting is an error once the next argument or the end arrives.  An option's value
is checked when the option is complete: the output format must be one of its
names and the numbers must be decimal and fit in 64 bits.

`-h`, `--help`, `-V` and `--version` stop the reading and ask for the short help,
the long help or the version.  The first error found ends the reading; an
unknown argument wins over a waiting option's missing or bad value.  At the end
the pattern and the pattern file may not both be given.

Every error is reported in one form: `error: ` and the message, perhaps a tip,
perhaps a usage line, and a pointer to `--help`.
-/

namespace ShapeSearch
namespace Cli

/-- The settings a command line gives. -/
structure Args where
  root : Option String
  pattern : Option String
  patternFile : Option String
  lang : Option String
  format : Option OutputFormat
  nonOverlapping : Bool
  excludes : List String
  extensions : List String
  followLinks : Bool
  maxDepth : Option Nat
  threads : Option Nat
  config : Option String
  dumpTree : Option String
  listLanguages : Bool
  verbose : Bool
  deriving Repr, Inhabited

/-- Nothing given. -/
def Args.empty : Args :=
  { root := none, pattern := none, patternFile := none,
    lang := none, format := none, nonOverlapping := false, excludes := [],
    extensions := [], followLinks := false, maxDepth := none, threads := none,
    config := none, dumpTree := none, listLanguages := false, verbose := false }

/-- Why a command line was refused. -/
inductive UsageError where
  /-- A word that is no argument; `tip` offers `--` before it, `similar` names a
  long option close to it. -/
  | unexpected (word : String) (tip : Bool) (similar : Option String) (usage : String)
  /-- An option that got no value. -/
  | missingValue (arg : Arg)
  /-- A value outside an option's names, perhaps close to one of them. -/
  | invalidChoice (value : String) (arg : Arg) (similar : Option String)
  /-- A value that does not read as the option's kind. -/
  | invalidValue (value : String) (arg : Arg) (reason : String)
  /-- An option given twice. -/
  | repeated (arg : Arg)
  /-- Two options that exclude each other. -/
  | conflict (arg other : Arg) (usage : String)
  /-- A value attached to a switch. -/
  | extraValue (value : String) (arg : Arg) (usage : String)
  deriving Repr, Inhabited

/-- The closing pointer to the help. -/
def helpPointer : String := "\n\nFor more information, try '--help'.\n"

/-- The list of an option's names, when it has them. -/
def choiceNote (a : Arg) : String :=
  if a.choices.isEmpty then "" else "\n  [possible values: " ++ ", ".intercalate a.choices ++ "]"

/-- The full text of a usage error. -/
def UsageError.text : UsageError → String
  | .unexpected word tip similar usage =>
    let hint := match similar with
      | some s => "\n\n  tip: a similar argument exists: '" ++ s ++ "'"
      | none =>
        if tip then "\n\n  tip: to pass '" ++ word ++ "' as a value, use '-- " ++ word ++ "'" else ""
    "error: unexpected argument '" ++ word ++ "' found" ++ hint ++ "\n\nUsage: " ++ usage ++
      helpPointer
  | .missingValue a =>
    "error: a value is required for '" ++ a.display ++ "' but none was supplied" ++
      choiceNote a ++ helpPointer
  | .invalidChoice v a similar =>
    let hint := match similar with
      | some s => "\n\n  tip: a similar value exists: '" ++ s ++ "'"
      | none => ""
    "error: invalid value '" ++ v ++ "' for '" ++ a.display ++ "'" ++ choiceNote a ++ hint ++
      helpPointer
  | .invalidValue v a reason =>
    "error: invalid value '" ++ v ++ "' for '" ++ a.display ++ "': " ++ reason ++ helpPointer
  | .repeated a =>
    "error: the argument '" ++ a.display ++ "' cannot be used multiple times\n\nUsage: " ++
      plainUsage ++ helpPointer
  | .conflict a b usage =>
    "error: the argument '" ++ a.display ++ "' cannot be used with '" ++ b.display ++
      "'\n\nUsage: " ++ usage ++ helpPointer
  | .extraValue v a usage =>
    "error: unexpected value '" ++ v ++ "' for '" ++ a.display ++
      "' found; no more were expected\n\nUsage: " ++ usage ++ helpPointer

/-- What a command line asks for. -/
inductive Request where
  | run (args : Args)
  | help (long : Bool)
  | version
  deriving Repr, Inhabited

/-- The largest count an option accepts. -/
def countLimit : Nat := Nat.pow 2 64

/-- Read a count the way unsigned decimals are read: an optional `+`, then digits. -/
def readCount (text : String) : Except String Nat :=
  let digits := if text.startsWith "+" && text.length > 1 then (text.drop 1).toString else text
  if text.isEmpty then .error "cannot parse integer from empty string"
  else if !digits.all Char.isDigit then .error "invalid digit found in string"
  else
    let n := digits.foldl (fun n c => 10 * n + (c.toNat - '0'.toNat)) 0
    if n < countLimit then .ok n else .error "number too large to fit in target type"

/-- How the reading of a command line stops early. -/
inductive Stop where
  | request (r : Request)
  | refused (e : UsageError)
  deriving Inhabited

/-- The state of reading: the settings so far, the arguments given in order of
first appearance, an option waiting for its value (with the value once it came),
whether a value is still wanted, whether the root was taken, and whether `--` was
passed. -/
structure Reading where
  args : Args
  given : List Arg
  waiting : Option (Arg × Option String)
  wantsValue : Bool
  rootTaken : Bool
  afterDashes : Bool
  deriving Inhabited

namespace Reading

/-- Nothing read. -/
def start : Reading :=
  { args := Args.empty, given := [], waiting := none, wantsValue := false,
    rootTaken := false, afterDashes := false }

/-- Mark an argument as given. -/
def mark (r : Reading) (a : Arg) : Reading :=
  if r.given.contains a then r else { r with given := r.given ++ [a] }

/-- Store an option's value. -/
def store (r : Reading) (a : Arg) (v : String) : Except Stop Reading := do
  if a.isPath && v.isEmpty then throw (.refused (.missingValue a))
  let args := r.args
  let args ← match a with
    | .pattern => pure { args with pattern := some v }
    | .patternFile => pure { args with patternFile := some v }
    | .lang => pure { args with lang := some v }
    | .format =>
      match v with
      | "text" => pure { args with format := some .text }
      | "json" => pure { args with format := some .json }
      | _ => throw (.refused (.invalidChoice v a (Similarity.suggest v a.choices)))
    | .exclude => pure { args with excludes := args.excludes ++ [v] }
    | .ext => pure { args with extensions := args.extensions ++ [v] }
    | .maxDepth =>
      match readCount v with
      | .ok n => pure { args with maxDepth := some n }
      | .error reason => throw (.refused (.invalidValue v a reason))
    | .threads =>
      match readCount v with
      | .ok n => pure { args with threads := some n }
      | .error reason => throw (.refused (.invalidValue v a reason))
    | .config => pure { args with config := some v }
    | .dumpTree => pure { args with dumpTree := some v }
    | _ => pure args
  pure { r.mark a with args }

/-- Complete an option with its values: none is an error, and so is a second
occurrence of an option that may appear once. -/
def complete (r : Reading) (a : Arg) (value : Option String) : Except Stop Reading :=
  match value with
  | none => .error (.refused (.missingValue a))
  | some v =>
    if !a.repeats && r.given.contains a then .error (.refused (.repeated a))
    else r.store a v

/-- Complete the waiting option, if any. -/
def settle (r : Reading) : Except Stop Reading :=
  match r.waiting with
  | some (a, v) => { r with waiting := none, wantsValue := false }.complete a v
  | none => .ok r

/-- Complete the waiting option when that succeeds; otherwise drop it. -/
def settleQuietly (r : Reading) : Reading :=
  match r.settle with
  | .ok r' => r'
  | .error _ => { r with waiting := none, wantsValue := false }

/-- Set a switch, after completing the waiting option; `long` tells whether it was
named by its long name, which asks for the long help. -/
def switch (r : Reading) (a : Arg) (long : Bool) : Except Stop Reading := do
  let r ← r.settle
  match a with
  | .help => throw (.request (.help long))
  | .version => throw (.request .version)
  | _ =>
    if r.given.contains a then throw (.refused (.repeated a))
    let args := r.args
    let args := match a with
      | .nonOverlapping => { args with nonOverlapping := true }
      | .followLinks => { args with followLinks := true }
      | .listLanguages => { args with listLanguages := true }
      | .verbose => { args with verbose := true }
      | _ => args
    pure { r.mark a with args }

/-- Start an option that takes a value: with the value attached it is complete,
otherwise it waits for the next word. -/
def begin (r : Reading) (a : Arg) (attached : Option String) : Except Stop Reading := do
  let r ← r.settle
  match attached with
  | some v => r.complete a (some v)
  | none => pure { r with waiting := some (a, none), wantsValue := true }

/-- A positional word: the root, or an unexpected word once the root is taken. -/
def positional (r : Reading) (word : String) : Except Stop Reading := do
  if r.rootTaken then
    throw (.refused (.unexpected word false none plainUsage))
  let r ← r.settle
  if word.isEmpty then throw (.refused (.missingValue .root))
  pure { r.mark .root with args := { r.args with root := some word }, rootTaken := true }

/-- The long names, in listing order. -/
def longNames : List String :=
  Arg.options.map (·.long)

/-- A long option word, without its dashes. -/
def longWord (r : Reading) (body : String) : Except Stop Reading :=
  let (name, attached) := match body.splitOn "=" with
    | n :: rest@(_ :: _) => (n, some ("=".intercalate rest))
    | _ => (body, none)
  match Arg.ofLong name with
  | none =>
    let r := r.settleQuietly
    let similar := Similarity.suggest name longNames
    let given := match similar.bind Arg.ofLong with
      | some a => (r.mark a).given
      | none => r.given
    .error (.refused (.unexpected ("--" ++ name) similar.isNone (similar.map ("--" ++ ·))
      (usageFor given)))
  | some a =>
    if a.takesValue then r.begin a attached
    else
      match attached with
      | some v =>
        let usage := usageFor ((r.mark a).given)
        .error (.refused (.extraValue v a usage))
      | none => r.switch a true

/-- A cluster of short names, without its dash. -/
def shortCluster (r : Reading) : List Char → Except Stop Reading
  | [] => .ok r
  | c :: rest =>
    match Arg.ofShort c with
    | none =>
      let word := "-" ++ c.toString
      .error (.refused (.unexpected word true none plainUsage))
    | some a =>
      if a.takesValue then
        let attached := match rest with
          | [] => none
          | '=' :: more => some (String.ofList more)
          | _ => some (String.ofList rest)
        r.begin a attached
      else do
        let r ← r.switch a false
        shortCluster r rest

/-- Read one word. -/
def word (r : Reading) (w : String) : Except Stop Reading :=
  if r.afterDashes then r.positional w
  else if w == "--" then .ok { r with afterDashes := true }
  else if w.startsWith "--" then r.longWord (w.drop 2).toString
  else if w.startsWith "-" && w.length > 1 then
    r.shortCluster (w.drop 1).toString.toList
  else if r.wantsValue then
    match r.waiting with
    | some (a, _) => .ok { r with waiting := some (a, some w), wantsValue := false }
    | none => r.positional w
  else r.positional w

/-- Read the words in order. -/
def words (r : Reading) : List String → Except Stop Reading
  | [] => .ok r
  | w :: ws => do
    let r ← r.word w
    words r ws

/-- The check made when every word is read: the pattern and the pattern file
exclude each other, the first given being reported. -/
def finish (r : Reading) : Except Stop Args := do
  let r ← r.settle
  let both := r.given.filter fun a => a == .pattern || a == .patternFile
  match both with
  | a :: b :: _ =>
    let others := r.given.filter (· != b)
    throw (.refused (.conflict a b (usageFor others)))
  | _ => pure r.args

end Reading

/-- Read a command line: what it asks for, or why it is refused. -/
def Args.read (words : List String) : Except UsageError Request :=
  match (Reading.start.words words).bind Reading.finish with
  | .ok args => .ok (.run args)
  | .error (.request r) => .ok r
  | .error (.refused e) => .error e

end Cli
end ShapeSearch
