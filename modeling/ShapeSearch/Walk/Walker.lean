import ShapeSearch.Walk.Ignore
import ShapeSearch.Walk.Options

/-!
# Directory walks

A walk lists the files below a root, directories in order of their names'
bytes, depth first.  Ignored directories are not entered and ignored files are
skipped; below the root a file must also have a wanted extension.  A root that
is a file is listed as it is.  Symbolic links are skipped unless links are
followed: then a link stands for its target under the link's own path, a
dangling link is reported as not found, and a link back to a directory being
walked is reported as a loop instead of being entered.  The walk stops
descending at the maximum depth.

Errors met on the way are entries of the walk; they are not subject to the
ignore rules.  A walk is a value, so walking again gives the same entries.
-/

namespace ShapeSearch

/-- One entry of a walk: a file's path or the error met there. -/
abbrev WalkEntry := Except Error String

/-- A walk over a disk from a root. -/
structure Walker where
  disk : Disk
  root : String
  options : WalkOptions
  rules : IgnoreRules
  deriving Inhabited

namespace Walker

/-- Prepare a walk: the root, read from the working directory, must exist; it is
made absolute, and the ignore rules are loaded for it. -/
def new (d : Disk) (cwd root : String) (o : WalkOptions) : Except Error Walker := do
  match d.kindOf (Path.join cwd root) with
  | .error cause => throw (Error.ofIo root cause)
  | .ok _ => pure ()
  let root := Path.absolute cwd root
  let rules ← IgnoreRules.load d root o.excludes
  pure { disk := d, root, options := o, rules }

/-- Whether directories at a depth are entered. -/
def enters (w : Walker) (depth : Nat) : Bool :=
  match w.options.maxDepth with
  | some m => depth < m
  | none => true

/-- The directories being walked, innermost last: their walk path and what they
resolve to. -/
abbrev Ancestors := List (String × String)

/-- The loop a directory reached through a link would close, if any: the innermost
ancestor resolving to the same place. -/
def loopAt (w : Walker) (path : String) (ancestors : Ancestors) : Option String :=
  match w.disk.canonical path with
  | .ok c => (ancestors.reverse.find? (·.2 == c)).map (·.1)
  | .error _ => none

/-- The ancestors after entering a directory, tracked only when links are
followed. -/
def enter (w : Walker) (follow : Bool) (ancestors : Ancestors) (path : String) : Ancestors :=
  if follow then
    match w.disk.canonical path with
    | .ok c => ancestors ++ [(path, c)]
    | .error _ => ancestors
  else ancestors

mutual

/-- The entries below a directory being walked at a depth. -/
def below (w : Walker) (follow : Bool) : Nat → Nat → String → Ancestors → List WalkEntry
  | 0, _, _, _ => []
  | fuel + 1, depth, dir, ancestors =>
    match w.disk.readDir dir with
    | .error cause => [.error (Error.ofIo dir cause)]
    | .ok names =>
      let sorted := names.mergeSort fun a b => decide (a ≤ b)
      entriesOf w follow fuel (depth + 1) dir ancestors sorted
termination_by fuel _ _ _ => (fuel, 0, 0)

/-- The entries of the named children of a directory, in order. -/
def entriesOf (w : Walker) (follow : Bool) (fuel depth : Nat) (dir : String)
    (ancestors : Ancestors) : List String → List WalkEntry
  | [] => []
  | name :: names =>
    child w follow fuel depth (Path.join dir name) ancestors ++
      entriesOf w follow fuel depth dir ancestors names
termination_by names => (fuel, 3, names.length)

/-- The entries a child of a walked directory contributes. -/
def child (w : Walker) (follow : Bool) (fuel depth : Nat) (path : String)
    (ancestors : Ancestors) : List WalkEntry :=
  match w.disk.linkKindOf path with
  | .error cause => [.error (Error.ofIo path cause)]
  | .ok .link =>
    if follow then
      match w.disk.kindOf path with
      | .error cause => [.error (Error.ofIo path cause)]
      | .ok .directory =>
        match w.loopAt path ancestors with
        | some ancestor => [.error (.symlinkLoop path ancestor)]
        | none => visit w follow fuel depth path .directory ancestors
      | .ok kind => visit w follow fuel depth path kind ancestors
    else []
  | .ok kind => visit w follow fuel depth path kind ancestors
termination_by (fuel, 2, 0)

/-- The entries of a child once its kind is known. -/
def visit (w : Walker) (follow : Bool) (fuel depth : Nat) (path : String) (kind : EntryKind)
    (ancestors : Ancestors) : List WalkEntry :=
  match kind with
  | .directory =>
    if w.rules.isIgnored path true then []
    else if w.enters depth then below w follow fuel depth path (w.enter follow ancestors path)
    else []
  | .file =>
    if w.rules.isIgnored path false || !w.options.accepts path then [] else [.ok path]
  | .link => []
termination_by (fuel, 1, 0)

end

/-- The entries of the walk. -/
def entries (w : Walker) : List WalkEntry :=
  let follow := w.options.followLinks || w.disk.isFile w.root
  match w.disk.kindOf w.root with
  | .error cause => [.error (Error.ofIo w.root cause)]
  | .ok .directory =>
    if w.enters 0 then below w follow (w.disk.entries.length + 1) 0 w.root (w.enter follow [] w.root)
    else []
  | .ok .file => [.ok w.root]
  | .ok .link => []

end Walker

end ShapeSearch
