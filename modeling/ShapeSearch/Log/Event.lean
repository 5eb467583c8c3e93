/-!
# Log events and filters

A log event has a level, a target naming the part of the program that speaks,
and a message.  A filter is a list of directives, each a level for the targets
that start with a given text, or for every target.  An event passes when the
most specific directive that covers its target allows its level: a directive
with a longer target is more specific than one with a shorter target or none,
and of two directives for the same target the later counts.  An event no
directive covers does not pass.

Directives are written separated by commas, each `target=level`, `level` or
`target` (every level for that target); level names ignore case, and the digits
`0` to `5` stand for off, error, warn, info, debug and trace.  A text with a bad
directive is no filter at all.

A line of the log is the time (when there is one), the level padded to five
columns, the target and the message; with colors the time and target are dimmed
and the level colored.
-/

namespace ShapeSearch
namespace Log

/-- The levels of events, most severe first. -/
inductive Level where
  | error
  | warn
  | info
  | debug
  | trace
  deriving Repr, DecidableEq, Inhabited

namespace Level

/-- The rank of a level: one for errors, five for tracing. -/
def rank : Level → Nat
  | .error => 1
  | .warn => 2
  | .info => 3
  | .debug => 4
  | .trace => 5

/-- The label of a level, padded to five columns. -/
def label : Level → String
  | .error => "ERROR"
  | .warn => " WARN"
  | .info => " INFO"
  | .debug => "DEBUG"
  | .trace => "TRACE"

/-- The color code of a level. -/
def color : Level → Nat
  | .error => 31
  | .warn => 33
  | .info => 32
  | .debug => 34
  | .trace => 35

end Level

/-- One event of the log. -/
structure Event where
  level : Level
  target : String
  message : String
  deriving Repr, DecidableEq, Inhabited

/-- The highest rank a directive lets through: zero lets nothing through. -/
structure Directive where
  target : Option String
  ceiling : Nat
  deriving Repr, DecidableEq, Inhabited

/-- Directives in the order written. -/
structure Filter where
  directives : List Directive
  deriving Repr, Inhabited

namespace Filter

/-- Read a level name or digit. -/
def readCeiling (text : String) : Option Nat :=
  match text.toLower with
  | "off" | "0" => some 0
  | "error" | "1" => some 1
  | "warn" | "2" => some 2
  | "info" | "3" => some 3
  | "debug" | "4" => some 4
  | "trace" | "5" => some 5
  | _ => none

/-- Read one directive. -/
def readDirective (text : String) : Option Directive :=
  match text.splitOn "=" with
  | [bare] =>
    match readCeiling bare with
    | some c => some { target := none, ceiling := c }
    | none => some { target := some bare, ceiling := 5 }
  | [target, level] =>
    (readCeiling level).map fun c =>
      { target := if target.isEmpty then none else some target, ceiling := c }
  | _ => none

/-- Read a filter from its text: none when a directive is bad. -/
def read (text : String) : Option Filter :=
  ((text.splitOn ",").filter (· != "")).mapM readDirective |>.map fun ds => { directives := ds }

/-- The filter that lets through a level and everything more severe. -/
def upTo (l : Level) : Filter :=
  { directives := [{ target := none, ceiling := l.rank }] }

/-- The length of a directive's target, when it covers a target. -/
def reach (d : Directive) (target : String) : Option Nat :=
  match d.target with
  | none => some 0
  | some t => if target.startsWith t then some (t.length + 1) else none

/-- Whether an event passes. -/
def allows (f : Filter) (e : Event) : Bool :=
  let best := f.directives.foldl (fun best d =>
    match reach d e.target, best with
    | some n, some (m, _) => if n ≥ m then some (n, d.ceiling) else best
    | some n, none => some (n, d.ceiling)
    | none, _ => best) none
  match best with
  | some (_, ceiling) => e.level.rank ≤ ceiling
  | none => false

end Filter

/-- Text in the dim style. -/
def dim (text : String) : String :=
  "\x1b[2m" ++ text ++ "\x1b[0m"

/-- The line of an event at a time, with or without colors; without a time the
line starts with the level. -/
def Event.line (e : Event) (time : String) (colors : Bool) : String :=
  if colors then
    let stamp := if time.isEmpty then "" else dim time ++ " "
    stamp ++ "\x1b[" ++ toString e.level.color ++ "m" ++ e.level.label ++ "\x1b[0m " ++
      dim e.target ++ dim ":" ++ " " ++ e.message
  else
    let stamp := if time.isEmpty then "" else time ++ " "
    stamp ++ e.level.label ++ " " ++ e.target ++ ": " ++ e.message

end Log
end ShapeSearch
