/-!
# Styles and icons

Terminal styles for the reports.  A style is a foreground color with optional
bold or dim; styled text is wrapped in a select-graphic-rendition sequence and
a reset, and the plain style leaves text as it is.  A theme names the style of
each kind of text: plain throughout, or colored.
-/

namespace ShapeSearch

/-- A terminal text style: an optional foreground color code and the effects. -/
structure Style where
  color : Option Nat
  bold : Bool
  dim : Bool
  deriving Repr, DecidableEq, Inhabited

namespace Style

/-- No color and no effect. -/
def plain : Style := { color := none, bold := false, dim := false }

/-- The parameters of the style's rendition sequence: color first, then effects. -/
def codes (s : Style) : List String :=
  (match s.color with | some c => [toString c] | none => []) ++
    (if s.bold then ["1"] else []) ++ (if s.dim then ["2"] else [])

/-- Text in the style. -/
def apply (s : Style) (text : String) : String :=
  match s.codes with
  | [] => text
  | cs => "\x1b[" ++ ";".intercalate cs ++ "m" ++ text ++ "\x1b[0m"

end Style

/-- The styles of the kinds of report text. -/
structure Theme where
  success : Style
  error : Style
  warn : Style
  info : Style
  dim : Style
  muted : Style
  deriving Repr, DecidableEq, Inhabited

namespace Theme

/-- Every kind of text plain. -/
def plain : Theme :=
  { success := .plain, error := .plain, warn := .plain, info := .plain, dim := .plain,
    muted := .plain }

/-- Bold green success, bold red errors, bold yellow warnings, magenta paths, dim
notes and gray labels. -/
def colored : Theme :=
  { success := { color := some 32, bold := true, dim := false }
    error := { color := some 31, bold := true, dim := false }
    warn := { color := some 33, bold := true, dim := false }
    info := { color := some 35, bold := false, dim := false }
    dim := { color := none, bold := false, dim := true }
    muted := { color := some 90, bold := false, dim := false } }

end Theme

namespace Icons

/-- A search. -/
def search : String := "🔍"

/-- Success. -/
def check : String := "✅"

/-- Failure. -/
def cross : String := "❌"

/-- A warning. -/
def warn : String := "⚠️"

/-- Time taken. -/
def clock : String := "⏱️"

end Icons

end ShapeSearch
