import ShapeSearch.Pattern.Token
import ShapeSearch.Text.Position
import ShapeSearch.Regex.Match

/-!
# Why a pattern does not compile

Compiling pattern text fails for one of seven reasons: a node kind or a field
that the grammar does not know, a capture bound twice in one top-level clause, a
predicate that names a capture the clause does not bind, a malformed predicate,
a regular expression that does not read, or a syntax error.  Malformed
predicates and syntax errors are further told apart by what exactly went wrong
(`PredicateProblem`, `SyntaxProblem`).

Every error carries the place in the pattern text it points at.  Its message is
`line:column: ` followed by a sentence (`PatternError.message`).
-/

namespace ShapeSearch
namespace Pattern

/-- What kind of name a sigil was expected to introduce. -/
inductive NameKind where
  | capture
  | field
  | predicate
  deriving Repr, DecidableEq, Inhabited

/-- The word messages use for a kind of name. -/
def NameKind.word : NameKind → String
  | .capture => "capture"
  | .field => "field"
  | .predicate => "predicate"

/-- The syntax errors of pattern text. -/
inductive SyntaxProblem where
  | unterminatedString
  | invalidEscape
  | missingName (kind : NameKind)
  | unexpectedCharacter (c : Char)
  | emptyPattern
  | predicateOutsideNode
  | expectedNode
  | expectedNodeFound (found : Token)
  | unexpectedClose
  | captureWithoutNode (name : String)
  | secondCapture
  | expectedNodeType (found : Token)
  | unclosedParen
  deriving Repr, DecidableEq, Inhabited

/-- The sentence for a syntax error. -/
def SyntaxProblem.message : SyntaxProblem → String
  | .unterminatedString => "unterminated string"
  | .invalidEscape => "invalid escape sequence"
  | .missingName k => "expected a " ++ k.word ++ " name"
  | .unexpectedCharacter c => "unexpected character `" ++ String.singleton c ++ "`"
  | .emptyPattern => "empty pattern"
  | .predicateOutsideNode => "predicate outside of a node"
  | .expectedNode => "expected a node"
  | .expectedNodeFound t => "expected a node, found " ++ t.describe
  | .unexpectedClose => "unexpected `)`"
  | .captureWithoutNode name => "capture @" ++ name ++ " does not follow a node"
  | .secondCapture => "a node may carry only one capture"
  | .expectedNodeType t => "expected a node type, found " ++ t.describe
  | .unclosedParen => "unclosed `(`"

/-- The ways a predicate can be malformed. -/
inductive PredicateProblem where
  | unexpectedArgument (found : Token) (predicate : String)
  | wrongArity (predicate : String)
  | firstNotCapture (predicate : String)
  | regexNotString (predicate : String)
  | unknownPredicate (predicate : String)
  deriving Repr, DecidableEq, Inhabited

/-- The sentence for a malformed predicate. -/
def PredicateProblem.message : PredicateProblem → String
  | .unexpectedArgument t p => "unexpected " ++ t.describe ++ " in #" ++ p
  | .wrongArity p => "#" ++ p ++ " takes exactly two arguments"
  | .firstNotCapture p => "first argument of #" ++ p ++ " must be a capture"
  | .regexNotString p => "#" ++ p ++ " expects a regex string"
  | .unknownPredicate p => "unknown predicate #" ++ p

/-- Why pattern text does not compile, with the place it points at. -/
inductive PatternError where
  | unknownNodeType (name : String) (position : Position)
  | unknownField (name : String) (position : Position)
  | duplicateCapture (name : String) (position : Position)
  | unknownCapture (name : String) (position : Position)
  | invalidPredicate (problem : PredicateProblem) (position : Position)
  | invalidRegex (error : Regex.Failure) (position : Position)
  | malformed (problem : SyntaxProblem) (position : Position)
  deriving Repr, DecidableEq, Inhabited

namespace PatternError

/-- The place an error points at. -/
def position : PatternError → Position
  | .unknownNodeType _ p | .unknownField _ p | .duplicateCapture _ p | .unknownCapture _ p
  | .invalidPredicate _ p | .invalidRegex _ p | .malformed _ p => p

/-- The sentence after the place. -/
def detail : PatternError → String
  | .unknownNodeType name _ => "unknown node type `" ++ name ++ "`"
  | .unknownField name _ => "unknown field `" ++ name ++ "`"
  | .duplicateCapture name _ => "capture @" ++ name ++ " is bound twice"
  | .unknownCapture name _ => "predicate refers to unbound capture @" ++ name
  | .invalidPredicate p _ => p.message
  | .invalidRegex e _ => "invalid regex: " ++ e.render
  | .malformed p _ => p.message

/-- The full message: `line:column: ` and the sentence. -/
def message (e : PatternError) : String :=
  e.position.render ++ ": " ++ e.detail

/-- The name of the error's kind, as reports spell it. -/
def variantName : PatternError → String
  | .unknownNodeType .. => "unknown_node_type"
  | .unknownField .. => "unknown_field"
  | .duplicateCapture .. => "duplicate_capture"
  | .unknownCapture .. => "unknown_capture"
  | .invalidPredicate .. => "invalid_predicate"
  | .invalidRegex .. => "invalid_regex"
  | .malformed .. => "syntax"

end PatternError

end Pattern
end ShapeSearch
