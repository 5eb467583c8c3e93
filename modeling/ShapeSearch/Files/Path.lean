/-!
# Path names

Paths are texts of components separated by `/`.  A path's file name is its last
normal component: empty components and `.` components after the first are not
components, and a path whose last component is `..`, the root or a lone `.` has no
file name.  A file name's extension is what follows its last dot, provided
something precedes that dot; so `.gitignore` and `archive` have none and `a.`
has the empty one.
-/

namespace ShapeSearch
namespace Path

/-- The components of a path: a leading `/` is the root component `/`, a leading `.`
is kept, and later empty and `.` components are dropped. -/
def components (path : String) : List String :=
  let parts := path.splitOn "/"
  match parts with
  | [] => []
  | first :: rest =>
    let head := if first == "" then (if path.startsWith "/" then ["/"] else [])
      else [first]
    head ++ rest.filter fun p => p != "" && p != "."

/-- The last normal component of a path, if it has one. -/
def fileName (path : String) : Option String :=
  match (components path).getLast? with
  | some c => if c == ".." || c == "/" || c == "." then none else some c
  | none => none

/-- The extension of a file name: the text after its last dot, when the dot is
preceded by something. -/
def nameExtension (name : String) : Option String :=
  if name == ".." then none
  else
    match (name.splitOn ".").reverse with
    | after :: before :: more =>
      let stem := ".".intercalate (before :: more).reverse
      if stem.isEmpty then none else some after
    | _ => none

/-- The extension of a path's file name. -/
def extension (path : String) : Option String :=
  (fileName path).bind nameExtension

/-- Whether a path starts at the root. -/
def isAbsolute (path : String) : Bool :=
  path.startsWith "/"

/-- A path followed by another: an absolute second path replaces the first,
otherwise the two are joined by one `/`. -/
def join (base rel : String) : String :=
  if isAbsolute rel then rel
  else if base.isEmpty || base.endsWith "/" then base ++ rel
  else base ++ "/" ++ rel

/-- A path made absolute against a working directory: a leading `.` component,
`.` components and repeated separators go, `..` stays, and a trailing `/` is kept. -/
def absolute (cwd path : String) : String :=
  let parts := (path.splitOn "/").filter fun c => c != "" && c != "."
  let base := if isAbsolute path then "/" else cwd
  let joined := parts.foldl join base
  if path.endsWith "/" && !joined.endsWith "/" then joined ++ "/" else joined

/-- The rest of a path below a base path, compared component by component. -/
def stripBase (base path : String) : Option String :=
  let bs := components base
  let ps := components path
  if ps.take bs.length == bs then
    some ("/".intercalate ((ps.drop bs.length).filter (· != "/")))
  else none

/-- The rest of a path after a prefix of its text, if it has that prefix. -/
def stripText (pre path : String) : Option String :=
  if path.startsWith pre then some (path.drop pre.length).toString else none

end Path
end ShapeSearch
