/-!
# Vocabularies

A grammar's vocabulary is what patterns may name: the kinds of named nodes, the
texts of anonymous nodes (keywords, operators, punctuation) and the field names.
The kind `ERROR`, which marks input the parser could not place, is named in
every vocabulary.
-/

namespace ShapeSearch

/-- The names a grammar gives: named kinds, anonymous kinds and fields. -/
structure Vocabulary where
  named : List String
  anonymous : List String
  fields : List String
  deriving Repr, BEq, Inhabited

namespace Vocabulary

/-- Keep the first occurrence of each name. -/
def dedup : List String → List String
  | [] => []
  | x :: xs => x :: (dedup xs).filter (· != x)

/-- A vocabulary from lists of names; `ERROR` is always among the named kinds. -/
def ofLists (named anonymous fields : List String) : Vocabulary :=
  { named := dedup ("ERROR" :: named), anonymous := dedup anonymous, fields := dedup fields }

/-- Whether a named kind is known. -/
def hasNamed (v : Vocabulary) (kind : String) : Bool :=
  v.named.contains kind

/-- Whether an anonymous kind is known. -/
def hasAnonymous (v : Vocabulary) (kind : String) : Bool :=
  v.anonymous.contains kind

/-- Whether a field is known. -/
def hasField (v : Vocabulary) (name : String) : Bool :=
  v.fields.contains name

/-- The number of named kinds, `ERROR` included. -/
def namedCount (v : Vocabulary) : Nat :=
  v.named.length

/-- The number of fields. -/
def fieldCount (v : Vocabulary) : Nat :=
  v.fields.length

end Vocabulary

end ShapeSearch
