import ShapeSearch.Search.Searcher
import ShapeSearch.Walk.Walker
import ShapeSearch.Files.SourceFile

/-!
# Runs over a directory

A run walks a root and searches every file the walk lists, in walk order.  Without
extensions of its own the walk takes the override grammar's extensions, or every
extension the registry knows.  Each file is searched with the override grammar or
the grammar its extension selects; a file no grammar or no compiled pattern fits,
one that cannot be read or parsed, and an error of the walk itself become skipped
outcomes.

Every outcome goes to a sink in order, and the sink may keep a state from one outcome to the
next, as a writer does.  A sink that fails ends the run with an output error and cancels the
searcher, for that run and every later one.  A run
canceled before it starts searches nothing and says so in its summary.
-/

namespace ShapeSearch
namespace Search
namespace Searcher

/-- The walk settings of a run: the search's own, with the extensions of the
override grammar or of the whole registry when it lists none. -/
def walkOptions (s : Searcher) : Except Error WalkOptions := do
  let walk := s.options.walk
  if !walk.extensions.isEmpty then return walk
  match s.options.language with
  | some tag =>
    let g ← s.registry.get tag
    pure { walk with extensions := g.extensions }
  | none => pure { walk with extensions := s.registry.claims.map (·.1) }

/-- The grammar for a file: the override, or the one its extension selects. -/
def grammarFor (s : Searcher) (path : String) : Except Error Grammar :=
  match s.options.language with
  | some tag => s.registry.get tag
  | none => s.registry.forPath path

/-- Search one file of a disk. -/
def searchFile (s : Searcher) (d : Disk) (path : String) : Except Error FileOutcome := do
  let g ← s.grammarFor path
  let p ← s.patternFor g
  let file ← SourceFile.read d path g.name
  let t ← g.parse file.content s.options.parseTimeout
  pure (FileOutcome.matched file.path p t)

/-- The outcome of one walk entry. -/
def outcomeOf (s : Searcher) (d : Disk) (root : String) : WalkEntry → FileOutcome
  | .ok path =>
    match s.searchFile d path with
    | .ok o => o
    | .error e => FileOutcome.skipped path e
  | .error e => FileOutcome.skipped (e.path?.getD root) e

/-- Deliver outcomes in order to a sink that keeps a state, from the state it starts in, and
stop at the first failure: the sink's last state, or its failure as an output error. -/
def deliver {σ : Type} (sink : σ → FileOutcome → Except String σ) :
    σ → List FileOutcome → Except Error σ
  | st, [] => .ok st
  | st, o :: os =>
    match sink st o with
    | .error failure => .error (.output failure)
    | .ok st => deliver sink st os

/-- Run over a root of a disk, relative paths read from a working directory, handing every
outcome to a sink that keeps a state: the outcomes in walk order, their summary and the sink's
last state.  A canceled run delivers nothing. -/
def runWith {σ : Type} (s : Searcher) (d : Disk) (cwd root : String) (canceled : Bool)
    (sink : σ → FileOutcome → Except String σ) (start : σ) :
    Except Error (List FileOutcome × Summary × σ) := do
  let walk ← s.walkOptions
  let w ← Walker.new d cwd root walk
  let outcomes := if canceled then [] else w.entries.map (s.outcomeOf d w.root)
  let st ← deliver sink start outcomes
  pure (outcomes, { Summary.ofOutcomes outcomes with canceled }, st)

/-- A sink that keeps no state: it fails with a sentence, or takes the outcome. -/
def stateless (sink : FileOutcome → Option String) (_ : Unit) (o : FileOutcome) :
    Except String Unit :=
  match sink o with
  | some failure => .error failure
  | none => .ok ()

/-- Run over a root with a sink that keeps no state: the outcomes in walk order and their
summary. -/
def run (s : Searcher) (d : Disk) (cwd root : String) (canceled : Bool)
    (sink : FileOutcome → Option String) : Except Error (List FileOutcome × Summary) :=
  (s.runWith d cwd root canceled (stateless sink) ()).map fun r => (r.1, r.2.1)

/-- The searcher's cancel token after a run that started with it as given.  The token
is the searcher's own and outlives the run: a failing sink sets it to stop the run,
and nothing clears it. -/
def tokenAfter (s : Searcher) (d : Disk) (cwd root : String) (canceled : Bool)
    (sink : FileOutcome → Option String) : Bool :=
  match s.run d cwd root canceled sink with
  | .error (.output _) => true
  | _ => canceled

end Searcher
end Search
end ShapeSearch
