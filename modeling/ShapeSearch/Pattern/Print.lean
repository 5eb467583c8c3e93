import ShapeSearch.Pattern.Basic

/-!
# Canonical pattern text

Every compiled pattern has one canonical text: single spaces between items,
child constraints in written order followed by the predicates, a capture after
its node, strings in double quotes with `"`, `\` and the control characters
newline, tab and carriage return escaped, and top-level clauses on lines of
their own.  Compiling the canonical text again gives an equal pattern.
-/

namespace ShapeSearch
namespace Pattern

/-- How a character stands between double quotes: `"`, `\` and the control characters
newline, tab and carriage return after a backslash, every other character as itself. -/
def escape : Char → String
  | '"' => "\\\""
  | '\\' => "\\\\"
  | '\n' => "\\n"
  | '\t' => "\\t"
  | '\r' => "\\r"
  | c => String.singleton c

/-- A string in double quotes, escaped the way the lexer reads it back. -/
def quote (s : String) : String :=
  "\"" ++ String.join (s.toList.map escape) ++ "\""

/-- The text of a predicate. -/
def Predicate.render : Predicate → String
  | .eq capture operand negate =>
    let rhs := match operand with
      | .capture other => "@" ++ other
      | .text t => quote t
    "(#" ++ (if negate then "not-" else "") ++ "eq? @" ++ capture ++ " " ++ rhs ++ ")"
  | .regex capture re negate =>
    "(#" ++ (if negate then "not-" else "") ++ "match? @" ++ capture ++ " " ++ quote re.source ++ ")"

mutual

/-- The canonical text of a clause. -/
def Clause.render : Clause → String
  | .mk node children predicates capture =>
    let body := match node with
      | .anonymous literal => quote literal
      | .any => "_"
      | .named kind =>
        "(" ++ kind ++ Constraint.renderAll children ++
          String.join (predicates.map fun p => " " ++ p.render) ++ ")"
      | .anyNamed =>
        "(_" ++ Constraint.renderAll children ++
          String.join (predicates.map fun p => " " ++ p.render) ++ ")"
    body ++ (match capture with
      | some c => " @" ++ c
      | none => "")

/-- The text of child constraints, each after a space. -/
def Constraint.renderAll : List Constraint → String
  | [] => ""
  | .field name c :: rest => " " ++ name ++ ": " ++ c.render ++ Constraint.renderAll rest
  | .positional c :: rest => " " ++ c.render ++ Constraint.renderAll rest
  | .absent name :: rest => " !" ++ name ++ Constraint.renderAll rest

end

/-- The canonical text of a pattern: its clauses, one per line. -/
def Compiled.render (p : Compiled) : String :=
  "\n".intercalate (p.clauses.map Clause.render)

end Pattern
end ShapeSearch
