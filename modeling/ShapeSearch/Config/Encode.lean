import ShapeSearch.Config.Basic
import ShapeSearch.Toml.Print

/-!
# Writing settings as TOML

Settings are written one per line in their fixed order, `key = value`; unset
settings are left out, while the two lists are always written.
-/

namespace ShapeSearch
namespace Config

open Toml

/-- The TOML text of settings. -/
def toToml (c : Config) : String :=
  let line (k v : String) : String := k ++ " = " ++ v ++ "\n"
  let opt {α : Type} (k : String) (v : Option α) (render : α → String) : String :=
    match v with
    | some x => line k (render x)
    | none => ""
  let bool (b : Bool) : String := if b then "true" else "false"
  opt "pattern" c.pattern stringText ++
  opt "language" c.language stringText ++
  line "exclude" (stringsText c.exclude) ++
  line "extensions" (stringsText c.extensions) ++
  opt "follow_links" c.followLinks bool ++
  opt "max_depth" c.maxDepth toString ++
  opt "threads" c.threads toString ++
  opt "queue_capacity" c.queueCapacity toString ++
  opt "parse_timeout_ms" c.parseTimeoutMs toString ++
  opt "non_overlapping" c.nonOverlapping bool ++
  opt "format" c.format fun f => stringText f.name

end Config
end ShapeSearch
