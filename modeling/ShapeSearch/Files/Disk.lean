import ShapeSearch.Files.Path
import ShapeSearch.Error

/-!
# Disks

A disk holds files, directories and symbolic links under absolute paths.  Paths
are resolved the way the system resolves them: component by component from the
root, a link's target replacing the link (relative targets read from the link's
directory), `..` going up from the directory reached so far, and at most forty
links on the way.  A file met in the middle of a path is not a directory; a
name that is not there is not found.

A disk is built by writing entries under paths; writing creates the missing
directories above the entry.
-/

namespace ShapeSearch

/-- What a disk holds under a path. -/
inductive Entry where
  | file (content : ByteArray)
  | directory
  | link (target : String)
  deriving Inhabited

/-- The kind of an entry, without its content. -/
inductive EntryKind where
  | file
  | directory
  | link
  deriving Repr, DecidableEq, Inhabited

/-- The kind of an entry. -/
def Entry.kind : Entry → EntryKind
  | .file _ => .file
  | .directory => .directory
  | .link _ => .link

namespace IoCause

/-- A file stood where a directory was needed. -/
def notDirectory : IoCause := .other "Not a directory (os error 20)"

/-- A directory was read as a file. -/
def isDirectory : IoCause := .other "Is a directory (os error 21)"

/-- Resolving a path met too many links. -/
def tooManyLinks : IoCause := .other "Too many levels of symbolic links (os error 40)"

end IoCause

/-- Entries by their resolved absolute path, written as components below the root. -/
structure Disk where
  entries : List (List String × Entry)
  deriving Inhabited

namespace Disk

/-- The disk with nothing but its root directory. -/
def empty : Disk :=
  { entries := [] }

/-- The components of a path below the root, `.` and empty components dropped. -/
def parts (path : String) : List String :=
  (path.splitOn "/").filter fun c => c != "" && c != "."

/-- The path text of components below the root. -/
def render (cs : List String) : String :=
  "/" ++ "/".intercalate cs

/-- The entry stored at components, the root being a directory. -/
def find? (d : Disk) (cs : List String) : Option Entry :=
  if cs.isEmpty then some .directory
  else (d.entries.find? (·.1 == cs)).map (·.2)

/-- Store an entry at components, replacing what was there. -/
def put (d : Disk) (cs : List String) (e : Entry) : Disk :=
  { entries := (d.entries.filter (·.1 != cs)) ++ [(cs, e)] }

/-- Store a directory at components unless something is there already. -/
def ensureDirectory (d : Disk) (cs : List String) : Disk :=
  match d.find? cs with
  | some _ => d
  | none => d.put cs .directory

/-- Write an entry at an absolute path, creating the directories above it. -/
def write (d : Disk) (path : String) (e : Entry) : Disk :=
  let cs := parts path
  let above := (List.range cs.length).map fun n => cs.take n
  (above.foldl ensureDirectory d).put cs e

/-- The number of components of every link target: it bounds how far resolution
can grow a path. -/
def linkWeight (d : Disk) : Nat :=
  d.entries.foldl (fun n (_, e) => match e with
    | .link t => n + (parts t).length + 1
    | _ => n) 0

/-- Walk the remaining components from a resolved directory.  `links` counts the
links still allowed; the last component's link is followed when `followLast`. -/
def walkParts (d : Disk) (followLast : Bool) :
    Nat → Nat → List String → List String → Except IoCause (List String)
  | 0, _, _, _ => .error IoCause.tooManyLinks
  | _ + 1, _, done, [] => .ok done
  | fuel + 1, links, done, c :: rest =>
    if c == "." then walkParts d followLast fuel links done rest
    else if c == ".." then walkParts d followLast fuel links done.dropLast rest
    else
      let here := done ++ [c]
      match d.find? here with
      | none => .error .notFound
      | some .directory => walkParts d followLast fuel links here rest
      | some (.file _) =>
        if rest.isEmpty then .ok here else .error IoCause.notDirectory
      | some (.link target) =>
        if rest.isEmpty && !followLast then .ok here
        else if links == 0 then .error IoCause.tooManyLinks
        else
          let base := if target.startsWith "/" then [] else done
          walkParts d followLast fuel (links - 1) base
            ((target.splitOn "/").filter (· != "") ++ rest)

/-- Resolve an absolute path to the components of what it names; the last
component's link is followed when `followLast`, and always when the path ends
with `/`. -/
def resolve (d : Disk) (path : String) (followLast : Bool) : Except IoCause (List String) :=
  let cs := (path.splitOn "/").filter (· != "")
  let fuel := cs.length + 41 * (d.linkWeight + 1) + 1
  walkParts d (followLast || path.endsWith "/") fuel 40 [] cs

/-- The kind of what a path names, links followed. -/
def kindOf (d : Disk) (path : String) : Except IoCause EntryKind := do
  let cs ← d.resolve path true
  match d.find? cs with
  | some e =>
    if path.endsWith "/" && e.kind == .file then throw IoCause.notDirectory
    pure e.kind
  | none => throw .notFound

/-- The kind of what a path names, a final link reported as a link. -/
def linkKindOf (d : Disk) (path : String) : Except IoCause EntryKind := do
  let cs ← d.resolve path false
  match d.find? cs with
  | some e => pure e.kind
  | none => throw .notFound

/-- Whether a path names a file, links followed. -/
def isFile (d : Disk) (path : String) : Bool :=
  match d.kindOf path with
  | .ok .file => true
  | _ => false

/-- Whether a path names a directory, links followed. -/
def isDirectory (d : Disk) (path : String) : Bool :=
  match d.kindOf path with
  | .ok .directory => true
  | _ => false

/-- The content of the file a path names. -/
def readFile (d : Disk) (path : String) : Except IoCause ByteArray := do
  let cs ← d.resolve path true
  match d.find? cs with
  | some (.file content) => pure content
  | some _ => throw IoCause.isDirectory
  | none => throw .notFound

/-- The names in the directory a path names, in storage order. -/
def readDir (d : Disk) (path : String) : Except IoCause (List String) := do
  let cs ← d.resolve path true
  match d.find? cs with
  | some .directory =>
    pure (d.entries.filterMap fun (p, _) =>
      if p.length == cs.length + 1 && p.take cs.length == cs then p.getLast? else none)
  | some _ => throw IoCause.notDirectory
  | none => throw .notFound

/-- The resolved path of what a path names, links followed: two paths name the
same thing when these agree. -/
def canonical (d : Disk) (path : String) : Except IoCause String :=
  (d.resolve path true).map render

end Disk

end ShapeSearch
