import ShapeSearch.Pattern.Compile
import ShapeSearch.Pattern.Print

/-!
# Reading the canonical text back

A compiled pattern reads back when compiling its canonical text against the same
vocabulary gives an equal pattern with the same canonical text.
-/

namespace ShapeSearch
namespace Pattern

/-- Whether the canonical text of a pattern compiles back to the same pattern. -/
def Compiled.readsBack (p : Compiled) (vocabulary : Vocabulary) : Bool :=
  match compile p.render p.language vocabulary with
  | .ok q => q == p && q.render == p.render
  | .error _ => false

end Pattern
end ShapeSearch
