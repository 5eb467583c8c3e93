import ShapeSearch.Cli.Args
import ShapeSearch.Log.Event
import ShapeSearch.Config.Load
import ShapeSearch.Search.Run
import ShapeSearch.Walk.Strategy
import ShapeSearch.Report.JsonLines
import ShapeSearch.Report.TextLines
import ShapeSearch.Report.Languages
import ShapeSearch.Output.Writer

/-!
# A run of the command

A run reads its command line, then its configuration file (the one named, or
`shapegrep.toml` in the working directory when it is there), and does one of
three things:

* **list the languages**, as a table on standard output;
* **dump a tree**: parse one file, in the language asked for or the one its
  extension selects, print its tree, and warn about each error site;
* **search** the root (`.` by default) with the pattern given, read from a file,
  set in the configuration, or the default one that finds function names.

Command-line settings override the configuration.  A text report puts each record
on standard output and the summary on standard error, unless `SHAPEGREP_QUIET` is
`1` or `true`; a JSON report puts everything on standard output.  Colors are used
when `CLICOLOR_FORCE` is set to anything but `0`.

The log goes to standard error ahead of the summary: warnings by default, debug
events with `--verbose`, or what `RUST_LOG` asks for.  A fatal error ends the run
with `❌`, the error and its causes, and exit code 2; a refused command line also
exits with 2.

A search hands each file's outcome to a sink that writes the report's lines on
standard output through a buffered writer (`Output.Writer`); a text report flushes it
after every file, a JSON report only after its closing summary.  A write that fails
inside the search ends it with an output error: when that is a broken pipe the reader
of standard output is gone, and the run stops quietly.  A write that fails once the
search is over, on the summary or the last flush, ends the run.
-/

namespace ShapeSearch
namespace Cli

open Search

/-- What a run sees around it: the disk, the working directory, the environment,
whether standard output is closed, the time stamped on log lines, the number of
processors and how long the parser takes on the machine. -/
structure Surroundings where
  disk : Disk
  cwd : String
  env : List (String × String)
  stdoutClosed : Bool
  clock : String
  parallelism : Nat
  parseClock : ParseClock
  deriving Inhabited

/-- The value of an environment variable. -/
def Surroundings.var (c : Surroundings) (name : String) : Option String :=
  (c.env.find? (·.1 == name)).map (·.2)

/-- What a run leaves: its exit code and what it wrote to each stream. -/
structure Transcript where
  code : Nat
  stdout : String
  stderr : String
  deriving Repr, Inhabited

/-- What a run has produced so far: log events and standard output. -/
structure Trail where
  events : List Log.Event
  stdout : String
  deriving Inhabited

/-- A step of a run: it may end the run with a fatal message. -/
abbrev Step := ExceptT String (StateM Trail)

/-- Record a log event. -/
def emit (level : Log.Level) (target message : String) : Step Unit :=
  modify fun t => { t with events := t.events ++ [{ level, target, message }] }

/-- Write to standard output. -/
def write (text : String) : Step Unit :=
  modify fun t => { t with stdout := t.stdout ++ text }

/-- Take a result, ending the run with the error and its causes. -/
def lift {α : Type} (x : Except Error α) : Step α :=
  match x with
  | .ok v => pure v
  | .error e => throw e.withCauses

/-- The pattern searched for when none is given: the names of function declarations. -/
def defaultPattern : String :=
  "(function_declaration name: (identifier) @function_name)"

/-- Take the result of a write, ending the run with its input/output error. -/
def liftIo {α : Type} (x : Except String α) : Step α :=
  match x with
  | .ok v => pure v
  | .error failure => throw failure

/-- The settings of the configuration file, if there is one. -/
def loadConfig (c : Surroundings) (a : Args) : Step Config := do
  match Config.load c.disk c.cwd a.config with
  | .error e => throw e.message
  | .ok none => pure Config.empty
  | .ok (some cfg) =>
    emit .debug "shapegrep::config" ("Loaded config from " ++ a.config.getD Config.defaultPath)
    pure cfg

/-- An extension as given, without its leading dots. -/
def trimDots (ext : String) : String :=
  String.ofList (ext.toList.dropWhile (· == '.'))

/-- The search options: the configuration's, with the command line's on top. -/
def Args.searchOptions (a : Args) (cfg : Config) : Search.Options :=
  let o := cfg.searchOptions
  let o := match a.lang with
    | some l => { o with language := some l }
    | none => o
  let walk := { o.walk with excludes := o.walk.excludes ++ a.excludes }
  let walk := if a.extensions.isEmpty then walk else { walk with extensions := a.extensions.map trimDots }
  let walk := if a.followLinks then { walk with followLinks := true } else walk
  let walk := if a.maxDepth.isSome then { walk with maxDepth := a.maxDepth } else walk
  let o := { o with walk }
  let o := if a.threads.isSome then { o with threads := a.threads } else o
  if a.nonOverlapping then { o with mode := .nonOverlapping } else o

/-- The pattern text: given, read from a file, configured, or the default. -/
def patternText (c : Surroundings) (a : Args) (cfg : Config) : Step String :=
  match a.pattern, a.patternFile with
  | some text, _ => pure text
  | none, some file =>
    let failed (why : String) : Step String :=
      throw ("failed to read pattern file " ++ file ++ ": " ++ why)
    match c.disk.readFile (Path.join c.cwd file) with
    | .error cause => failed cause.text
    | .ok bytes =>
      match String.fromUTF8? bytes with
      | some text => pure text
      | none => failed "stream did not contain valid UTF-8"
  | none, none => pure (cfg.pattern.getD defaultPattern)

/-- Build the searcher, logging the languages the pattern does not fit and those it
applies to. -/
def buildSearcher (r : Registry) (text : String) (o : Search.Options) : Step Searcher := do
  match candidates r o with
  | .ok gs =>
    for (name, e) in (compileAll text o.mode gs).2 do
      emit .debug "shapegrep::pipeline" ("Pattern does not apply to " ++ name ++ ": " ++ e.message)
  | .error _ => pure ()
  let s ← lift (Searcher.new r text o)
  for (name, e) in s.patternErrors do
    emit .debug "shapegrep" ("Pattern skipped for " ++ name ++ ": " ++ e.message)
  emit .info "shapegrep" ("Pattern applies to: " ++ ", ".intercalate s.languages)
  pure s

/-- Whether a skipped file's error is only a missing language or pattern. -/
def isQuietSkip : Error → Bool
  | .patternUnavailable _ | .unsupportedLanguage _ => true
  | _ => false

/-- Log what happened to one listed file. -/
def fileEvents (s : Searcher) (path : String) (o : FileOutcome) : Step Unit := do
  let parsing (language : String) : Step Unit :=
    emit .debug "shapegrep::pipeline" ("Parsing " ++ path ++ " as " ++ language)
  let skipping (level : Log.Level) (e : Error) : Step Unit :=
    emit level "shapegrep::pipeline" ("Skipping " ++ path ++ ": " ++ e.message)
  match o.error with
  | none => parsing (o.language.getD "")
  | some e =>
    if isQuietSkip e then skipping .debug e
    else
      match e, s.grammarFor path with
      | .parse _, .ok g => do parsing g.name; skipping .warn e
      | _, _ => skipping .warn e

/-- Whether the quiet setting is on. -/
def isQuiet (c : Surroundings) : Bool :=
  match c.var "SHAPEGREP_QUIET" with
  | some v => v == "1" || v.toLower == "true"
  | none => false

/-- What a report writes on standard output for one file, write by write: a text report
writes each record as a line, a JSON report writes each record, or the skipped file, as a
line's text and then its newline. -/
def filePieces (format : OutputFormat) (theme : Theme) (cwd : String) (o : FileOutcome) :
    List String :=
  match format with
  | .text => (Report.recordLines theme (some cwd) o).map (· ++ "\n")
  | .json => (Report.outcomeLines o).flatMap fun line => [line, "\n"]

/-- The sink a search hands each outcome to: the report writes the file's pieces, and a text
report flushes them at once. -/
def deliverTo (format : OutputFormat) (theme : Theme) (cwd : String) (out : Output.Writer)
    (o : FileOutcome) : Except String Output.Writer :=
  match format with
  | .text => (out.writeAllOf (filePieces .text theme cwd o)).bind Output.Writer.flush
  | .json => out.writeAllOf (filePieces .json theme cwd o)

/-- Log what a run over a root does once its walk is made: the ignore files it cannot read,
the ignore globs, the workers, the walk's errors and what happens to each listed file. -/
def logRun (c : Surroundings) (s : Searcher) (root : String) : Step Unit :=
  match s.walkOptions.bind (Walker.new c.disk c.cwd root) with
  | .error _ => pure ()
  | .ok w => do
    for (path, problems) in w.rules.unreadable do
      emit .warn "shapegrep::ignore" ("Ignoring unreadable " ++ path ++ ": " ++ problems)
    emit .debug "globset" (Glob.statistics (w.rules.rules.map (·.glob))).message
    let threads := max 1 (s.options.threads.getD c.parallelism)
    emit .info "shapegrep::pipeline" ("Searching " ++ w.root ++ " with " ++ toString threads ++
      " workers (" ++ toString s.patterns.length ++ " languages)")
    let entries := w.entries
    let outcomes := entries.map (s.outcomeOf c.disk w.root)
    for entry in entries do
      match entry with
      | .error e => emit .warn "shapegrep::walker" ("Skipping entry: " ++ e.message)
      | .ok _ => pure ()
    for (entry, o) in entries.zip outcomes do
      match entry with
      | .ok path => fileEvents s path o
      | .error _ => pure ()

/-- Search a root, writing the report's records on standard output as the outcomes come, and
close the report; the result is what follows the log on standard error. -/
def search (c : Surroundings) (s : Searcher) (root : String) (format : OutputFormat)
    (theme : Theme) : Step String := do
  logRun c s root
  let out := Output.Writer.new { closed := c.stdoutClosed, taken := "" }
  match s.runWith c.disk c.cwd root false (deliverTo format theme c.cwd) out with
  | .error (.output failure) =>
    -- downstream closed the pipe
    if failure = Output.brokenPipe then return ""
    throw (Error.output failure).withCauses
  | .error e => throw e.withCauses
  | .ok (_, summary, out) =>
    emit .info "shapegrep::pipeline" ("Searched " ++ toString summary.filesScanned ++ " files, " ++
      toString summary.matchTotal ++ " matches, " ++ toString summary.skipped.length ++
      " skipped in 0ns")
    match format with
    | .json =>
      let out ← liftIo ((out.writeAllOf [Report.summaryLine summary 0, "\n"]).bind Output.Writer.flush)
      write out.stream.taken
      pure ""
    | .text =>
      let out ← liftIo out.flush
      write out.stream.taken
      if isQuiet c then return ""
      pure (Report.summaryText theme (some c.cwd) summary 0)

/-- The name of an error site's kind. -/
def siteName : SiteKind → String
  | .error => "Error"
  | .missing => "Missing"

/-- Print the tree of one file and warn about its error sites. -/
def dumpTree (c : Surroundings) (r : Registry) (path : String) (language : Option String)
    (theme : Theme) : Step String := do
  let g ← lift (match language with
    | some tag => r.get tag
    | none => r.forPath path)
  let f ← lift (SourceFile.readFrom c.disk c.cwd path g.name)
  let t ← lift (g.parse f.content none)
  write (t.toSexp ++ "\n")
  pure (String.join (t.errors.toList.map fun site =>
    Icons.warn ++ " " ++ theme.warn.apply (siteName site.kind ++ " node at " ++ site.span.start.render) ++
      "\n"))

/-- The run after its command line was read; the result is what follows the log on
standard error. -/
def session (c : Surroundings) (a : Args) (theme : Theme) : Step String := do
  let cfg ← loadConfig c a
  let r := Registry.standard c.parseClock
  if a.listLanguages then
    write (Table.languages r ++ "\n")
    return ""
  let language := a.lang <|> cfg.language
  match a.dumpTree with
  | some path => dumpTree c r path language theme
  | none =>
    let text ← patternText c a cfg
    let format := (a.format <|> cfg.format).getD .text
    let s ← buildSearcher r text (a.searchOptions cfg)
    search c s (a.root.getD ".") format theme

/-- The theme: colored when forced. -/
def themeOf (c : Surroundings) : Theme :=
  match c.var "CLICOLOR_FORCE" with
  | some v => if v != "0" then Theme.colored else Theme.plain
  | none => Theme.plain

/-- The log filter: the one `RUST_LOG` writes, or else debug events when verbose
and warnings otherwise. -/
def filterOf (c : Surroundings) (verbose : Bool) : Log.Filter :=
  let fallback := Log.Filter.upTo (if verbose then .debug else .warn)
  match c.var "RUST_LOG" with
  | some text => (Log.Filter.read text).getD fallback
  | none => fallback

/-- Whether log lines are colored: unless `NO_COLOR` is set to something. -/
def logColors (c : Surroundings) : Bool :=
  match c.var "NO_COLOR" with
  | some v => v.isEmpty
  | none => true

/-- The run once its command line is read: exit code 0 when the session succeeds,
and 2 with the fatal message after the log when it does not. -/
def runArgs (c : Surroundings) (a : Args) : Transcript :=
  let theme := themeOf c
  let filter := filterOf c a.verbose
  let (result, trail) := (session c a theme).run.run { events := [], stdout := "" }
  let log := String.join ((trail.events.filter filter.allows).map fun e =>
    e.line c.clock (logColors c) ++ "\n")
  match result with
  | .ok tail => { code := 0, stdout := trail.stdout, stderr := log ++ tail }
  | .error message =>
    { code := 2, stdout := trail.stdout,
      stderr := log ++ Icons.cross ++ " " ++ theme.error.apply message ++ "\n" }

/-- Run the command on a command line. -/
def execute (c : Surroundings) (words : List String) : Transcript :=
  match Args.read words with
  | .error e => { code := 2, stdout := "", stderr := e.text }
  | .ok (.help long) => { code := 0, stdout := if long then longHelp else shortHelp, stderr := "" }
  | .ok .version => { code := 0, stdout := versionText, stderr := "" }
  | .ok (.run a) => runArgs c a

end Cli
end ShapeSearch
