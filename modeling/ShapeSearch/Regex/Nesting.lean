import ShapeSearch.Regex.Syntax

/-!
# How deeply a regular expression nests

A regular expression may nest groups, repetitions, sequences, alternations and
bracketed classes only so deep.  The depth of a part is the number of such parts
on the way down to it, itself included: a sequence, an alternation, a group, a
repetition, a bracketed class, a set operation and a union of two or more class
items each add one, while a single character or a named class adds nothing.  A
union of one item is that item, and an empty union is nothing.

`Ast.tooDeep limit` walks the tree in reading order and gives the span of the
first part whose depth exceeds the limit.
-/

namespace ShapeSearch
namespace Regex

/-- The deepest nesting a regular expression may have. -/
def nestLimit : Nat := 250

mutual

/-- The first part of a class deeper than the limit, the class lying at `depth`. -/
def ClassSet.tooDeep (limit depth : Nat) : ClassSet → Option Span
  | .union [] _ => none
  | .union [item] _ => item.tooDeep limit depth
  | .union (first :: second :: more) start =>
    if depth + 1 > limit then some (unionSpan (first :: second :: more) start)
    else ClassItem.listTooDeep limit (depth + 1) (first :: second :: more)
  | .op kind lhs rhs =>
    if depth + 1 > limit then some (ClassSet.op kind lhs rhs).span
    else lhs.tooDeep limit (depth + 1) <|> rhs.tooDeep limit (depth + 1)

/-- The first part of a class item deeper than the limit, the item lying at `depth`. -/
def ClassItem.tooDeep (limit depth : Nat) : ClassItem → Option Span
  | .bracketed _ set span =>
    if depth + 1 > limit then some span else set.tooDeep limit (depth + 1)
  | _ => none

/-- The first part of some items deeper than the limit, each lying at `depth`. -/
def ClassItem.listTooDeep (limit depth : Nat) : List ClassItem → Option Span
  | [] => none
  | item :: rest => item.tooDeep limit depth <|> ClassItem.listTooDeep limit depth rest

end

mutual

/-- The first part of an expression deeper than the limit, the expression lying below
`depth` others. -/
def Ast.tooDeep (limit depth : Nat) : Ast → Option Span
  | .bracketed _ set span =>
    if depth + 1 > limit then some span else set.tooDeep limit (depth + 1)
  | .repetition body _ _ _ span =>
    if depth + 1 > limit then some span else body.tooDeep limit (depth + 1)
  | .group _ body span =>
    if depth + 1 > limit then some span else body.tooDeep limit (depth + 1)
  | .alternation branches span =>
    if depth + 1 > limit then some span else Ast.listTooDeep limit (depth + 1) branches
  | .concat items span =>
    if depth + 1 > limit then some span else Ast.listTooDeep limit (depth + 1) items
  | _ => none

/-- The first part of some expressions deeper than the limit, each lying below `depth`
others. -/
def Ast.listTooDeep (limit depth : Nat) : List Ast → Option Span
  | [] => none
  | a :: rest => a.tooDeep limit depth <|> Ast.listTooDeep limit depth rest

end

end Regex
end ShapeSearch
