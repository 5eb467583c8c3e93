import ShapeSearch.Report.Table
import ShapeSearch.Grammar.Registry

/-!
# The table of languages

One row per registered grammar, in registration order: its name, its extensions
each after a dot, and the sizes of its vocabulary.
-/

namespace ShapeSearch
namespace Table

/-- The table of a registry's languages. -/
def languages (r : Registry) : String :=
  render ["Language", "Extensions", "Node types", "Fields"]
    (r.grammarList.map fun g =>
      [g.name, " ".intercalate (g.extensions.map ("." ++ ·)),
       toString g.vocabulary.namedCount, toString g.vocabulary.fieldCount])

end Table
end ShapeSearch
