import ShapeSearch.Files.Path

/-!
# Walk options

What a directory walk visits: the extensions a file below the root must have (any
file when the list is empty), extra exclusion globs, whether symbolic links are
followed, and how deep the walk descends.
-/

namespace ShapeSearch

/-- The settings of a directory walk. -/
structure WalkOptions where
  extensions : List String
  excludes : List String
  followLinks : Bool
  maxDepth : Option Nat
  deriving Repr, DecidableEq, Inhabited

namespace WalkOptions

/-- Visit every file, follow no links, descend without limit. -/
def default : WalkOptions :=
  { extensions := [], excludes := [], followLinks := false, maxDepth := none }

/-- Whether a file's extension is wanted: any extension when none are listed,
otherwise one of them up to ASCII case; a file without an extension is wanted
only when none are listed. -/
def accepts (o : WalkOptions) (path : String) : Bool :=
  if o.extensions.isEmpty then true
  else
    match Path.extension path with
    | some ext => o.extensions.any fun e => e.toLower == ext.toLower
    | none => false

end WalkOptions

end ShapeSearch
