import ShapeSearch.Grammar.Vocabulary
import ShapeSearch.Tree.Basic
import ShapeSearch.Files.Path
import ShapeSearch.Error

/-!
# Grammar registry

A registry maps language tags and file extensions to grammars.  A grammar has a
name, the extensions it claims, the vocabulary patterns are checked against and
the parser it hands out; any grammar can be registered, the built-in ones among
others.

Registering lowercases the tag and the extensions (ASCII only).  A later grammar
claiming an extension takes it over; registering a tag again replaces the
grammar but keeps the tag's first position.  Lookup by tag ignores ASCII case,
and a path is looked up by its lowercased extension.
-/

namespace ShapeSearch

/-- A parser as a grammar hands it out: it parses a source within an optional time limit in
microseconds, and fails only with a parse failure.  A parse does not depend on the ones
before it. -/
structure TreeParser where
  run : ByteArray → Option Nat → Except ParseFailure SyntaxTree
  deriving Inhabited

/-- Parse a source within an optional time limit, a failure reported as a parse error. -/
def TreeParser.parse (p : TreeParser) (bytes : ByteArray) (limit : Option Nat) :
    Except Error SyntaxTree :=
  match p.run bytes limit with
  | .ok t => .ok t
  | .error f => .error (.parse f)

/-- A grammar: its name, the extensions it claims, the vocabulary patterns are checked
against and its parser. -/
structure Grammar where
  name : String
  extensions : List String
  vocabulary : Vocabulary
  base : TreeParser
  deriving Inhabited

namespace Grammar

/-- Whether the grammar claims a path: its lowercased extension is one of the
grammar's extensions as written. -/
def canHandle (g : Grammar) (path : String) : Bool :=
  match Path.extension path with
  | some ext => g.extensions.contains ext.toLower
  | none => false

end Grammar

/-- Grammars by tag in registration order, and the extension claims. -/
structure Registry where
  grammars : List (String × Grammar)
  claims : List (String × String)
  deriving Inhabited

namespace Registry

/-- The registry with no grammars. -/
def empty : Registry :=
  { grammars := [], claims := [] }

/-- Record that an extension belongs to a tag, replacing an earlier claim. -/
def claim (claims : List (String × String)) (ext tag : String) : List (String × String) :=
  if claims.any (·.1 == ext) then claims.map fun (e, t) => if e == ext then (e, tag) else (e, t)
  else claims ++ [(ext, tag)]

/-- Register a grammar under its lowercased name. -/
def register (r : Registry) (g : Grammar) : Registry :=
  let tag := g.name.toLower
  let claims := g.extensions.foldl (fun cs ext => claim cs ext.toLower tag) r.claims
  let grammars := if r.grammars.any (·.1 == tag) then
      r.grammars.map fun (t, old) => if t == tag then (t, g) else (t, old)
    else r.grammars ++ [(tag, g)]
  { grammars, claims }

/-- The grammar registered under a tag, ignoring ASCII case. -/
def get (r : Registry) (tag : String) : Except Error Grammar :=
  match r.grammars.find? (·.1 == tag.toLower) with
  | some (_, g) => .ok g
  | none => .error (.unsupportedLanguage tag)

/-- The tag that claims a path's extension. -/
def languageForPath (r : Registry) (path : String) : Option String :=
  (Path.extension path).bind fun ext => (r.claims.find? (·.1 == ext.toLower)).map (·.2)

/-- The grammar for a path; without a claim the error names the extension, or the
whole path when it has none. -/
def forPath (r : Registry) (path : String) : Except Error Grammar :=
  match r.languageForPath path with
  | some tag => r.get tag
  | none =>
    match Path.extension path with
    | some ext => .error (.unsupportedLanguage ("." ++ ext))
    | none => .error (.unsupportedLanguage path)

/-- The tags in registration order. -/
def languages (r : Registry) : List String :=
  r.grammars.map (·.1)

/-- The grammars in registration order. -/
def grammarList (r : Registry) : List Grammar :=
  r.grammars.map (·.2)

/-- Every claimed extension with its tag, sorted by extension. -/
def extensionClaims (r : Registry) : List (String × String) :=
  r.claims.mergeSort fun a b => decide (a.1 ≤ b.1)

/-- The number of registered grammars. -/
def size (r : Registry) : Nat :=
  r.grammars.length

/-- Whether no grammar is registered. -/
def isEmpty (r : Registry) : Bool :=
  r.grammars.isEmpty

end Registry

end ShapeSearch
