import ShapeSearch.Toml.Reader

/-!
# TOML documents

A document is read line by line: blank lines, comments, `[table]` and
`[[array of tables]]` headers, and `key = value` lines.  The keys of a line
go into the table of the last header, or the document's own table before any
header; a dotted key makes the tables on its way, and a header makes its
parents.  The tables are put into the document when the next header starts, so
a table defined after its children's headers moves behind them.

A key given twice, a header naming a table that is already defined, a dotted key
reaching into a value or into a table defined by a header, and a dotted key
extending a header's table from outside are errors at the start of their line.
-/

namespace ShapeSearch
namespace Toml

/-- Entries of a table in order. -/
abbrev Entries := List (String × Span × Value)

/-- The text of a key path. -/
def pathText (path : List (String × Span)) : String :=
  ".".intercalate (path.map (·.1))

/-- The error for a key that is already there, naming the table it is in when known. -/
def duplicateKey (k : String) (table : Option (List (String × Span))) : String :=
  match table with
  | none => "duplicate key `" ++ k ++ "`"
  | some [] => "duplicate key `" ++ k ++ "` in document root"
  | some path => "duplicate key `" ++ k ++ "` in table `" ++ pathText path ++ "`"

/-- Replace the entry under a key, keeping its place. -/
def replaceEntry (entries : Entries) (k : String) (v : Value) : Entries :=
  entries.map fun e => if e.1 == k then (k, e.2.1, v) else e

/-- Change the table under a key path of entries, making missing tables on the way
(marked dotted when the path is a dotted key); `f` changes the table reached, given
its entries and whether it was made by a dotted key. -/
def descend {α : Type} (f : Entries → Bool → Except String (Entries × α)) (dotted : Bool)
    (whole : List (String × Span)) : Nat → Entries → List (String × Span) → Bool →
    Except String (Entries × α)
  | _, entries, [], isDotted => f entries isDotted
  | i, entries, (k, ks) :: rest, _ =>
    match entries.find? (·.1 == k) with
    | none => do
      let origin := if dotted then Origin.dotted else Origin.implicit
      let (inner, a) ← descend f dotted whole (i + 1) [] rest dotted
      pure (entries ++ [(k, ks, .table inner origin ks)], a)
    | some (_, _, .table inner origin sp) =>
      if origin == .inline then
        .error ("dotted key `" ++ pathText (whole.take (i + 1)) ++
          "` attempted to extend non-table type (inline table)")
      else if dotted && origin == .explicit then .error (duplicateKey k none)
      else do
        let (inner', a) ← descend f dotted whole (i + 1) inner rest (origin == .dotted)
        pure (replaceEntry entries k (.table inner' origin sp), a)
    | some (_, _, .tables items sp) =>
      match items.getLast? with
      | some (.table inner origin tsp) => do
        let (inner', a) ← descend f dotted whole (i + 1) inner rest (origin == .dotted)
        pure (replaceEntry entries k (.tables (items.dropLast ++ [.table inner' origin tsp]) sp), a)
      | _ => .error (duplicateKey k none)
    | some (_, _, v) =>
      .error ("dotted key `" ++ pathText (whole.take (i + 1)) ++
        "` attempted to extend non-table type (" ++ v.kindName ++ ")")

/-- The state of reading a document: its tables so far, and the table being filled
with its header path, whether it is an element of an array of tables, and its span. -/
structure Build where
  root : Entries
  current : Entries
  path : List (String × Span)
  isArray : Bool
  span : Span
  deriving Inhabited

namespace Build

/-- Nothing read yet. -/
def start : Build :=
  { root := [], current := [], path := [], isArray := false, span := ⟨0, 0⟩ }

/-- Add a key line to the table being filled. -/
def keyval (b : Build) (path : List (String × Span)) (k : String) (ks : Span) (v : Value) :
    Except String Build := do
  let put (entries : Entries) (isDotted : Bool) : Except String (Entries × Unit) :=
    if isDotted == path.isEmpty then .error (duplicateKey k none)
    else if entries.any (·.1 == k) then .error (duplicateKey k (some b.path))
    else .ok (entries ++ [(k, ks, v)], ())
  let (current, _) ← descend put true path 0 b.current path false
  pure { b with current }

/-- Put the table being filled into the document. -/
def finish (b : Build) : Except String Build := do
  match b.path.getLast? with
  | none => pure { b with root := b.current, current := [] }
  | some (k, ks) =>
    let parentPath := b.path.dropLast
    let table := Value.table b.current .explicit b.span
    let place (entries : Entries) (_ : Bool) : Except String (Entries × Unit) :=
      if b.isArray then
        match entries.find? (·.1 == k) with
        | none => .ok (entries ++ [(k, ks, .tables [table] b.span)], ())
        | some (_, _, .tables items sp) => .ok (replaceEntry entries k (.tables (items ++ [table]) sp), ())
        | some _ => .error (duplicateKey k (some parentPath))
      else
        match entries.find? (·.1 == k) with
        | none => .ok (entries ++ [(k, ks, table)], ())
        | some (_, _, .table _ .implicit _) => .ok (replaceEntry entries k table, ())
        | some _ => .error (duplicateKey k (some parentPath))
    let (root, _) ← descend place false parentPath 0 b.root parentPath false
    pure { b with root, current := [], path := [] }

/-- Start the table of a `[header]`: an implicit table already there is taken out to
be filled. -/
def header (b : Build) (path : List (String × Span)) (span : Span) : Except String Build := do
  let b ← b.finish
  match path.getLast? with
  | none => pure b
  | some (k, _) =>
    let parentPath := path.dropLast
    let takeOut (entries : Entries) (_ : Bool) : Except String (Entries × Entries) :=
      match entries.find? (·.1 == k) with
      | none => .ok (entries, [])
      | some (_, _, .table inner .implicit _) => .ok (entries.filter (·.1 != k), inner)
      | some _ => .error (duplicateKey k (some parentPath))
    let (root, current) ← descend takeOut false parentPath 0 b.root parentPath false
    pure { root, current, path, isArray := false, span }

/-- Start an element of a `[[header]]` array of tables. -/
def arrayHeader (b : Build) (path : List (String × Span)) (span : Span) : Except String Build := do
  let b ← b.finish
  match path.getLast? with
  | none => pure b
  | some (k, _) =>
    let parentPath := path.dropLast
    let check (entries : Entries) (_ : Bool) : Except String (Entries × Unit) :=
      match entries.find? (·.1 == k) with
      | none => .ok (entries, ())
      | some (_, _, .tables ..) => .ok (entries, ())
      | some _ => .error (duplicateKey k (some parentPath))
    let (root, _) ← descend check false parentPath 0 b.root parentPath false
    pure { root, current := [], path, isArray := true, span }

end Build

open Reader

/-- Run a table change at the start of a line, failing there with its message. -/
def atLine (start : Nat) (r : Except String Build) : Reader Build :=
  match r with
  | .ok b => pure b
  | .error m => do
    set start
    fail [] [] (some m) true

/-- A `key = value` line. -/
def keyLine (b : Build) : Reader Build := do
  let start ← get
  let path ← key
  cut do
    expect ["`.`", "`=`"] (if ← at? '=' then skip 1 else miss)
    blanks
    let v ← value ((← read).size + 1)
    expect ["newline", "`#`"] lineTrailing
    match path.getLast? with
    | some (k, ks) => atLine start (b.keyval path.dropLast k ks v)
    | none => pure b

/-- A `[header]` or `[[header]]` line. -/
def headerLine (b : Build) : Reader Build := label "table header" do
  let start ← get
  let double ← ahead "[["
  skip (if double then 2 else 1)
  let path ← cut key
  let close := if double then "]]" else "]"
  cut (expect ["`.`", "`]`"] (if ← ahead close then skip close.length else miss))
  let span : Span := ⟨start, ← get⟩
  cut (expect ["newline", "`#`"] lineTrailing)
  atLine start (if double then b.arrayHeader path span else b.header path span)

/-- The lines of a document. -/
def lines (fuel : Nat) (b : Build) : Reader Build := do
  match fuel with
  | 0 => pure b
  | fuel + 1 =>
    blanks
    match ← peek with
    | none => pure b
    | some 35 =>
      cut (do comment; lineEnding)
      lines fuel b
    | some 91 => lines fuel (← cut (headerLine b))
    | some 10 | some 13 =>
      match ← optional newline with
      | some _ => lines fuel b
      | none => pure b
    | some _ => lines fuel (← cut (keyLine b))

/-- Read a whole document into its table. -/
def readDocument : Reader Entries := do
  if ← ahead "\uFEFF" then skip 3
  let b ← lines ((← read).size + 1) Build.start
  if (← peek).isSome then fail [] [] none true
  let start ← get
  let b ← atLine start b.finish
  pure b.root

/-- Read a document from its bytes. -/
def parse (bytes : ByteArray) : Except Problem Entries :=
  match (readDocument.run bytes).run 0 with
  | .ok (entries, _) => .ok entries
  | .error f => .error (f.problem bytes)

end Toml
end ShapeSearch
