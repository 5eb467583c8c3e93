import ShapeSearch.Grammar.Vocabulary.Javascript
import ShapeSearch.Grammar.Vocabulary.Python
import ShapeSearch.Grammar.Vocabulary.Rust
import ShapeSearch.Grammar.Vocabulary.Go

/-!
# Built-in languages

The six languages that come with the searcher, each with its name, the file
extensions it claims and its vocabulary.  They are listed in the order in which
they are registered.
-/

namespace ShapeSearch

/-- A built-in language. -/
inductive Language where
  | javascript
  | typescript
  | tsx
  | python
  | rust
  | go
  deriving Repr, DecidableEq, Inhabited

namespace Language

/-- The built-in languages in registration order. -/
def all : List Language :=
  [javascript, typescript, tsx, python, rust, go]

/-- The name of a language, which is also its tag. -/
def name : Language → String
  | javascript => "javascript"
  | typescript => "typescript"
  | tsx => "tsx"
  | python => "python"
  | rust => "rust"
  | go => "go"

/-- The file extensions a language claims. -/
def extensions : Language → List String
  | javascript => ["js", "jsx", "mjs", "cjs"]
  | typescript => ["ts", "mts", "cts"]
  | tsx => ["tsx"]
  | python => ["py", "pyi"]
  | rust => ["rs"]
  | go => ["go"]

/-- The vocabulary of a language's grammar. -/
def vocabulary : Language → Vocabulary
  | javascript => Vocabulary.javascript
  | typescript => Vocabulary.typescript
  | tsx => Vocabulary.tsx
  | python => Vocabulary.python
  | rust => Vocabulary.rust
  | go => Vocabulary.go

end Language

end ShapeSearch
