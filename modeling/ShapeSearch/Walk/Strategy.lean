import ShapeSearch.Walk.Glob

/-!
# Match strategies of glob sets

A set of globs matches a path fast by sorting its globs into strategies, each the
cheapest test that decides the glob, tried in this order:

* a **basename**: `**/` and a plain name, decided by the last component;
* a **literal**: a plain path, decided by equality;
* an **extension**: `**/*.ext` with no dot in `ext`, decided by the extension;
* a **leading text**: a plain text, perhaps followed by `/**`, decided by how the
  path starts;
* a **trailing text**: a plain text, perhaps after `**/`, decided by how the path
  ends (after `**/` it must also be a whole component, so the text counts as a
  literal too);
* a **required extension**: ends with a plain `.ext`, which the path must have
  before the glob itself is tried;
* a **basename pattern**: `**/` and a pattern of one component;
* a **general** pattern for everything else.

A `*` or `?` never crosses a `/`, which rules out the leading and trailing texts
that end or start with `*`.  The statistics of a set count the distinct literals,
basenames, extensions and required extensions, and every glob of the other
strategies.
-/

namespace ShapeSearch
namespace Glob

/-- How one glob of a set is matched. -/
inductive Strategy where
  | basename (text : String)
  | literal (text : String)
  | extension (text : String)
  | leading (text : String)
  | trailing (text : String) (component : Bool)
  | requiredExtension (text : String)
  | basenamePattern
  | general
  deriving Repr, DecidableEq, Inhabited

/-- The character of a literal token. -/
def literalChar : Token → Option Char
  | .piece (.literal c) => some c
  | _ => none

/-- The text of tokens that are all literal. -/
def literalText (ts : List Token) : Option String :=
  (ts.mapM literalChar).map String.ofList

/-- The tokens that decide the last component: those after a leading `**/`, when
none of them can reach past a `/`. -/
def basenameTokens : List Token → Option (List Token)
  | .piece .anyDirectories :: rest@(_ :: _) =>
    let fits : Token → Bool
      | .piece (.literal c) => c != '/'
      | .piece .one | .piece .run => true
      | _ => false
    if rest.all fits then some rest else none
  | _ => none

/-- The plain name after `**/`. -/
def basenameText (ts : List Token) : Option String :=
  (basenameTokens ts).bind literalText

/-- The whole glob as plain text. -/
def wholeText (ts : List Token) : Option String :=
  match literalText ts with
  | some "" => none
  | t => t

/-- The extension of `**/*.ext`. -/
def extensionText : List Token → Option String
  | .piece .anyDirectories :: .piece .run :: .piece (.literal '.') :: rest =>
    match literalText rest with
    | some t => if t.contains '.' || t.contains '/' then none else some ("." ++ t)
    | none => none
  | _ => none

/-- The plain text a glob starts with, when the rest is at most `/**`. -/
def leadingText (ts : List Token) : Option String :=
  match ts.getLast? with
  | some (.piece .run) => none
  | some (.piece .below) =>
    (literalText ts.dropLast).bind fun t => some (t ++ "/")
  | some _ => wholeText ts
  | none => none

/-- The plain text a glob ends with, when what comes before is at most `**/`. -/
def trailingText (ts : List Token) : Option (String × Bool) :=
  let (lead, component, rest) := match ts with
    | .piece .anyDirectories :: rest@(.piece (.literal _) :: _) => ("/", true, rest)
    | .piece .anyDirectories :: rest => ("", false, rest)
    | _ => ("", false, ts)
  match rest with
  | [] => none
  | .piece .run :: _ => none
  | _ =>
    match literalText rest with
    | some t =>
      let whole := lead ++ t
      if whole.isEmpty || whole == "/" then none else some (whole, component)
    | none => none

/-- The extension a glob's path must end with: the plain text after its last dot,
when everything from that dot on is plain and has no `/`. -/
def requiredExtensionText (ts : List Token) : Option String :=
  let rec scan : List Token → List Char → Option String
    | [], _ => none
    | t :: rest, acc =>
      match literalChar t with
      | some '/' => none
      | some '.' => some (String.ofList ('.' :: acc))
      | some c => scan rest (c :: acc)
      | none => none
  scan ts.reverse []

/-- The strategy of a glob. -/
def strategyOf (ts : List Token) : Strategy :=
  match basenameText ts with
  | some t => .basename t
  | none =>
  match wholeText ts with
  | some t => .literal t
  | none =>
  match extensionText ts with
  | some t => .extension t
  | none =>
  match leadingText ts with
  | some t => .leading t
  | none =>
  match trailingText ts with
  | some (t, c) => .trailing t c
  | none =>
  match requiredExtensionText ts with
  | some t => .requiredExtension t
  | none => if (basenameTokens ts).isSome then .basenamePattern else .general

/-- The counts of a set's strategies. -/
structure Statistics where
  literals : Nat
  basenames : Nat
  extensions : Nat
  leading : Nat
  trailing : Nat
  requiredExtensions : Nat
  basenamePatterns : Nat
  general : Nat
  deriving Repr, DecidableEq, Inhabited

/-- The statistics of a set of globs. -/
def statistics (globs : List Glob) : Statistics :=
  let strategies := globs.map (strategyOf ·.tokens)
  let literals := strategies.filterMap fun
    | .literal t => some t
    | .trailing t true => some (t.drop 1).toString
    | _ => none
  let basenames := strategies.filterMap fun | .basename t => some t | _ => none
  let extensions := strategies.filterMap fun | .extension t => some t | _ => none
  let required := strategies.filterMap fun | .requiredExtension t => some t | _ => none
  { literals := literals.eraseDups.length
    basenames := basenames.eraseDups.length
    extensions := extensions.eraseDups.length
    leading := strategies.countP fun | .leading _ => true | _ => false
    trailing := strategies.countP fun | .trailing .. => true | _ => false
    requiredExtensions := required.eraseDups.length
    basenamePatterns := strategies.countP (· == .basenamePattern)
    general := strategies.countP (· == .general) }

/-- The sentence that reports a built set. -/
def Statistics.message (s : Statistics) : String :=
  "built glob set; " ++ toString s.literals ++ " literals, " ++ toString s.basenames ++
    " basenames, " ++ toString s.extensions ++ " extensions, " ++ toString s.leading ++
    " prefixes, " ++ toString s.trailing ++ " suffixes, " ++ toString s.requiredExtensions ++
    " required extensions, " ++ toString s.basenamePatterns ++ " basename regexes, " ++
    toString s.general ++ " regexes"

end Glob
end ShapeSearch
