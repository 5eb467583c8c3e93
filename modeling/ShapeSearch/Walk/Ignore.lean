import ShapeSearch.Walk.Glob
import ShapeSearch.Files.Disk
import ShapeSearch.Text.Properties

/-!
# Ignore rules

The rules that keep paths out of a walk, written one per line in the
`.gitignore` style.  A line starting with `#` is a comment; trailing white space
is dropped unless escaped; `!` turns a rule into an exception; a leading `/`
anchors a rule at the root, and so does any other `/` inside it, while a rule
without one matches at any depth; a trailing `/` makes a rule apply to
directories only.

The rules come from the root's `.gitignore` and `.ignore` files, then a fixed list
of dependency and build directories and minified files, then the extra excludes.
Of the rules that match a path the last one decides.  A bad line in a file is
skipped, and the file is noted with its problems; a bad extra exclude is an
error.
-/

namespace ShapeSearch

/-- One ignore rule. -/
structure IgnoreRule where
  original : String
  glob : Glob
  exception : Bool
  directoryOnly : Bool
  deriving Inhabited

namespace IgnoreRule

/-- Drop trailing white space. -/
def trimEnd (s : String) : String :=
  String.ofList (s.toList.reverse.dropWhile isWhiteSpace).reverse

/-- Read one line: nothing for a blank or comment line, the rule, or the line with
the reason its glob is bad. -/
def ofLine (raw : String) : Except (String × Glob.Problem) (Option IgnoreRule) :=
  if raw.startsWith "#" then .ok none
  else
    let line := if raw.endsWith "\\ " then raw else trimEnd raw
    if line.isEmpty then .ok none
    else
      let (exception, anchored, body) :=
        if line.startsWith "\\!" || line.startsWith "\\#" then
          let rest := (line.drop 1).toString
          (false, rest.startsWith "/", rest)
        else
          let (exception, rest) :=
            if line.startsWith "!" then (true, (line.drop 1).toString) else (false, line)
          if rest.startsWith "/" then (exception, true, (rest.drop 1).toString)
          else (exception, false, rest)
      let (directoryOnly, body) :=
        if body.endsWith "/" then
          let cut := (body.dropEnd 1).toString
          (true, if cut.endsWith "\\" then (cut.dropEnd 1).toString else cut)
        else (false, body)
      let actual :=
        if !anchored && !body.contains '/' && !(body.startsWith "**/" || body == "**") then
          "**/" ++ body
        else body
      let actual := if actual.endsWith "/**" then actual ++ "/*" else actual
      match Glob.parse actual with
      | .ok glob => .ok (some { original := line, glob, exception, directoryOnly })
      | .error p => .error (line, p)

end IgnoreRule

/-- The text of a bad glob's error. -/
def globErrorText (original : String) (p : Glob.Problem) : String :=
  "error parsing glob '" ++ original ++ "': " ++ p.message

/-- The rules below a root, in the order they were added, and the ignore files
that had bad lines, each with its problems. -/
structure IgnoreRules where
  root : String
  rules : List IgnoreRule
  unreadable : List (String × String)
  deriving Inhabited

namespace IgnoreRules

/-- Directories of dependencies, builds, caches, version control and editors, and
minified or bundled files. -/
def defaultExcludes : List String :=
  ["node_modules/", "bower_components/", "target/", "venv/", ".venv/", "vendor/",
   "dist/", "build/", "out/", "coverage/", "__pycache__/", "*.egg-info/",
   ".git/", ".hg/", ".svn/", ".vscode/", ".idea/",
   "*.min.js", "*.bundle.js", "*.d.ts.map", "*.js.map"]

/-- Add a line, skipping it when it is bad. -/
def addLenient (r : IgnoreRules) (line : String) : IgnoreRules :=
  match IgnoreRule.ofLine line with
  | .ok (some rule) => { r with rules := r.rules ++ [rule] }
  | _ => r

/-- The lines of a file, up to the first line that is not UTF-8, and that line's
number; line ends are `\n` or `\r\n`, and a byte-order mark before the first line
is dropped. -/
def fileLines (content : ByteArray) : List String × Option Nat :=
  let bytes := content.toList
  let chunks := bytes.splitOn 10
  let complete := if bytes.getLast? == some 10 || bytes.isEmpty then chunks.dropLast else chunks
  let count := complete.length
  let rec decode : Nat → List (List UInt8) → List String × Option Nat
    | _, [] => ([], none)
    | i, c :: cs =>
      let terminated := i + 1 < count || bytes.getLast? == some 10
      let c := if terminated && c.getLast? == some 13 then c.dropLast else c
      match String.fromUTF8? ⟨c.toArray⟩ with
      | some s =>
        let s := if i == 0 && s.startsWith "\uFEFF" then (s.drop 1).toString else s
        let (rest, bad) := decode (i + 1) cs
        (s :: rest, bad)
      | none => ([], some (i + 1))
  decode 0 complete

/-- Add the lines of an ignore file, skipping bad lines; the file is recorded as
unreadable with one problem per bad line, and one for a line that is not UTF-8. -/
def addFile (r : IgnoreRules) (path : String) (content : ByteArray) : IgnoreRules :=
  let (lines, bad) := fileLines content
  let step (acc : IgnoreRules × List String) (entry : String × Nat) :=
    let (r, problems) := acc
    let (line, i) := entry
    match IgnoreRule.ofLine line with
    | .ok (some rule) => ({ r with rules := r.rules ++ [rule] }, problems)
    | .ok none => (r, problems)
    | .error (orig, p) =>
      (r, problems ++ [path ++ ": line " ++ toString (i + 1) ++ ": " ++ globErrorText orig p])
  let (r, problems) := lines.zipIdx.foldl step (r, [])
  let problems := problems ++ match bad with
    | some n => [path ++ ": line " ++ toString n ++ ": stream did not contain valid UTF-8"]
    | none => []
  if problems.isEmpty then r
  else { r with unreadable := r.unreadable ++ [(path, "\n".intercalate problems)] }

/-- The rules for a walk root: its ignore files, the default excludes and the extra
excludes; a bad extra exclude is a configuration error. -/
def load (d : Disk) (root : String) (extra : List String) : Except Error IgnoreRules := do
  let root := if root.startsWith "./" then (root.drop 2).toString else root
  let fromFiles := [".gitignore", ".ignore"].foldl (fun r name =>
      let path := Path.join root name
      if d.isFile path then
        match d.readFile path with
        | .ok content => r.addFile path content
        | .error _ => r
      else r) { root, rules := [], unreadable := [] }
  let withDefaults := defaultExcludes.foldl addLenient fromFiles
  extra.foldlM (fun r line =>
    match IgnoreRule.ofLine line with
    | .ok (some rule) => pure { r with rules := r.rules ++ [rule] }
    | .ok none => pure r
    | .error (orig, p) =>
      throw (.config ("invalid exclude pattern `" ++ line ++ "`: " ++ globErrorText orig p)))
    withDefaults

/-- The text a path is matched as: without a leading `./`, and, when it has a
directory part, without the root's text and the `/` after it. -/
def relative (r : IgnoreRules) (path : String) : String :=
  let path := if path.startsWith "./" then (path.drop 2).toString else path
  if r.root != "." && path.contains '/' then
    match Path.stripText r.root path with
    | some rest => if rest.startsWith "/" then (rest.drop 1).toString else rest
    | none => path
  else path

/-- Whether a path is ignored: the last rule that matches it decides, a
directory-only rule matching directories alone. -/
def isIgnored (r : IgnoreRules) (path : String) (isDir : Bool) : Bool :=
  let candidate := r.relative path
  match (r.rules.reverse.find? fun rule =>
      (!rule.directoryOnly || isDir) && rule.glob.isMatch candidate) with
  | some rule => !rule.exception
  | none => false

end IgnoreRules

end ShapeSearch
