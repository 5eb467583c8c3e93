import ShapeSearch.Regex.Syntax
import ShapeSearch.Regex.CharSet
import ShapeSearch.Text.Unicode.Binary
import ShapeSearch.Text.Unicode.Script
import ShapeSearch.Text.Unicode.Age
import ShapeSearch.Text.Unicode.Segment
import ShapeSearch.Text.Unicode.Names

/-!
# Unicode classes

A Unicode class `\p{..}` names a set of characters in one of three ways.

* A name on its own (`\pL`, `\p{Greek}`, `\p{Alphabetic}`) is tried as a binary
  property, then as a general category or group of them (or `Any`, `ASCII`,
  `Assigned`), then as a script.  The names `cf`, `sc` and `lc` skip the first
  try: they are the categories `Format`, `Currency_Symbol` and `Cased_Letter`,
  not the properties they also abbreviate.
* A property and a value (`\p{gc=Lu}`, `\p{scx:Hira}`, `\p{Age=3.0}`) names the
  characters with that value.  The general category, the script, the script
  extensions, the age and the three segmentation classes have values to ask
  for; another known property has none.
* Either way the names are compared loosely (`Unicode.looseName`).

An unknown property is an error of its own, and so is a known property with an
unknown value, a value that names no characters (the surrogates, a script
without characters), or a property without values.  The age of a version is
every character assigned by that version or an earlier one.
-/

namespace ShapeSearch
namespace Regex

/-- The characters whose general category passes a test. -/
def categorySet (p : GeneralCategory → Bool) : CharSet :=
  let runs := GeneralCategory.runs.toList
  let ends := (runs.drop 1).map (fun r => r.1 - 1) ++ [maxCodePoint]
  CharSet.normalize ((runs.zip ends).filterMap fun ((start, cat), stop) =>
    if p cat then some (start, stop) else none)

/-- The set written in a property table. -/
def tableSet (text : String) : CharSet :=
  CharSet.normalize (Unicode.readRanges text)

/-- The `White_Space` characters. -/
def whiteSpaceSet : CharSet :=
  tableSet ((Unicode.binaryPropertyText "White_Space").getD "")

/-- The word characters of `\w`: alphabetic characters, marks, decimal digits,
connector punctuation and the two joiners. -/
def wordSet : CharSet :=
  CharSet.union (tableSet ((Unicode.binaryPropertyText "Alphabetic").getD ""))
    (CharSet.union (categorySet fun c => c.major == 'M' || c == .Nd || c == .Pc)
      (CharSet.range 0x200C 0x200D))

/-- What a Unicode class asks for, its names resolved to full names. -/
inductive PropertyQuery where
  | binary (name : String)
  | category (name : String)
  | script (name : String)
  | byValue (property value : String)
  deriving Repr, DecidableEq, Inhabited

/-- The general categories and groups by full name, as tests on a character's
category; the surrogates are no characters and have no entry. -/
def categoryTest : String → Option (GeneralCategory → Bool)
  | "Letter" => some fun c => c.major == 'L'
  | "Cased_Letter" => some fun c => c == .Lu || c == .Ll || c == .Lt
  | "Uppercase_Letter" => some (· == .Lu)
  | "Lowercase_Letter" => some (· == .Ll)
  | "Titlecase_Letter" => some (· == .Lt)
  | "Modifier_Letter" => some (· == .Lm)
  | "Other_Letter" => some (· == .Lo)
  | "Mark" => some fun c => c.major == 'M'
  | "Nonspacing_Mark" => some (· == .Mn)
  | "Spacing_Mark" => some (· == .Mc)
  | "Enclosing_Mark" => some (· == .Me)
  | "Number" => some fun c => c.major == 'N'
  | "Decimal_Number" => some (· == .Nd)
  | "Letter_Number" => some (· == .Nl)
  | "Other_Number" => some (· == .No)
  | "Punctuation" => some fun c => c.major == 'P'
  | "Connector_Punctuation" => some (· == .Pc)
  | "Dash_Punctuation" => some (· == .Pd)
  | "Open_Punctuation" => some (· == .Ps)
  | "Close_Punctuation" => some (· == .Pe)
  | "Initial_Punctuation" => some (· == .Pi)
  | "Final_Punctuation" => some (· == .Pf)
  | "Other_Punctuation" => some (· == .Po)
  | "Symbol" => some fun c => c.major == 'S'
  | "Math_Symbol" => some (· == .Sm)
  | "Currency_Symbol" => some (· == .Sc)
  | "Modifier_Symbol" => some (· == .Sk)
  | "Other_Symbol" => some (· == .So)
  | "Separator" => some fun c => c.major == 'Z'
  | "Space_Separator" => some (· == .Zs)
  | "Line_Separator" => some (· == .Zl)
  | "Paragraph_Separator" => some (· == .Zp)
  | "Other" => some fun c => c.major == 'C'
  | "Control" => some (· == .Cc)
  | "Format" => some (· == .Cf)
  | "Private_Use" => some (· == .Co)
  | "Unassigned" => some (· == .Cn)
  | _ => none

/-- A general category or group by its loose name, with the three sets that are
named like one. -/
def categoryName (loose : String) : Option String :=
  match loose with
  | "any" => some "Any"
  | "assigned" => some "Assigned"
  | "ascii" => some "ASCII"
  | _ => Unicode.generalCategoryNames.lookup loose

/-- Resolve the name of a class written without a value. -/
def nameQuery (name : String) : Except ErrorKind PropertyQuery :=
  let loose := Unicode.looseName name
  let property := if loose == "cf" || loose == "sc" || loose == "lc" then none
    else Unicode.propertyNames.lookup loose
  match property with
  | some p => .ok (.binary p)
  | none =>
    match categoryName loose with
    | some g => .ok (.category g)
    | none =>
      match Unicode.scriptNames.lookup loose with
      | some s => .ok (.script s)
      | none => .error .unicodePropertyNotFound

/-- The value names of the properties, other than the category and the script,
whose values a class may ask for. -/
def valueNames : String → Option (List (String × String))
  | "Script_Extensions" => some Unicode.scriptNames
  | "Age" => some Unicode.ageNames
  | "Grapheme_Cluster_Break" => some Unicode.graphemeBreakNames
  | "Word_Break" => some Unicode.wordBreakNames
  | "Sentence_Break" => some Unicode.sentenceBreakNames
  | _ => none

/-- Resolve the names of a class written as a property and a value. -/
def valueQuery (property value : String) : Except ErrorKind PropertyQuery :=
  let v := Unicode.looseName value
  match Unicode.propertyNames.lookup (Unicode.looseName property) with
  | none => .error .unicodePropertyNotFound
  | some "General_Category" =>
    match categoryName v with
    | some g => .ok (.category g)
    | none => .error .unicodePropertyValueNotFound
  | some "Script" =>
    match Unicode.scriptNames.lookup v with
    | some s => .ok (.script s)
    | none => .error .unicodePropertyValueNotFound
  | some p =>
    match (valueNames p).bind fun names => names.lookup v with
    | some value => .ok (.byValue p value)
    | none => .error .unicodePropertyValueNotFound

/-- The set of a table, or the error when there is no table. -/
def tableOr (kind : ErrorKind) : Option String → Except ErrorKind CharSet
  | some text => .ok (tableSet text)
  | none => .error kind

/-- The characters assigned by a version of the standard or an earlier one. -/
def ageSet (version : String) : Except ErrorKind CharSet :=
  if Unicode.versions.contains version then
    let upTo := Unicode.versions.takeWhile (· != version) ++ [version]
    .ok (CharSet.normalize (upTo.flatMap fun v => Unicode.readRanges ((Unicode.addedText v).getD "")))
  else .error .unicodePropertyValueNotFound

/-- The set a resolved class names. -/
def querySet : PropertyQuery → Except ErrorKind CharSet
  | .binary name => tableOr .unicodePropertyNotFound (Unicode.binaryPropertyText name)
  | .category "Any" => .ok CharSet.full
  | .category "ASCII" => .ok (CharSet.range 0 0x7F)
  | .category "Assigned" => .ok (categorySet (· != .Cn))
  | .category name =>
    match categoryTest name with
    | some p => .ok (categorySet p)
    | none => .error .unicodePropertyValueNotFound
  | .script name => tableOr .unicodePropertyValueNotFound (Unicode.scriptText name)
  | .byValue "Age" v => ageSet v
  | .byValue "Script_Extensions" v =>
    tableOr .unicodePropertyValueNotFound (Unicode.scriptExtensionText v)
  | .byValue "Grapheme_Cluster_Break" v =>
    tableOr .unicodePropertyValueNotFound (Unicode.graphemeBreakText v)
  | .byValue "Word_Break" v => tableOr .unicodePropertyValueNotFound (Unicode.wordBreakText v)
  | .byValue "Sentence_Break" v =>
    tableOr .unicodePropertyValueNotFound (Unicode.sentenceBreakText v)
  | .byValue _ _ => .error .unicodePropertyNotFound

/-- The set a Unicode class names, before any negation, or the error. -/
def unicodeSet : UnicodeName → Except ErrorKind CharSet
  | .oneLetter c => nameQuery (String.singleton c) >>= querySet
  | .named n => nameQuery n >>= querySet
  | .namedValue p v _ => valueQuery p v >>= querySet

/-- Whether a Unicode class is written as a negation: `\P`, or `!=` between the
property and the value, but not both. -/
def UnicodeName.negates (negated : Bool) : UnicodeName → Bool
  | .namedValue _ _ notEqual => negated != notEqual
  | _ => negated

end Regex
end ShapeSearch
