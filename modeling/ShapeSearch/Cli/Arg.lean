/-!
# The arguments of the command line

The command takes one optional positional argument, the root to search, and a
fixed list of options.  An option has a long name, perhaps a one-letter short
name, and either takes one value (shown by its value name) or is a switch.  The
excludes and extensions may be given many times; every other option at most
once.

An argument is shown in messages by its long name and value name
(`--pattern <PATTERN>`), and the root as `[ROOT]`, or as `<ROOT>` where it stands
for a root that was given.
-/

namespace ShapeSearch
namespace Cli

/-- The arguments of the command line, in the order they are listed. -/
inductive Arg where
  | root
  | pattern
  | patternFile
  | lang
  | format
  | nonOverlapping
  | exclude
  | ext
  | followLinks
  | maxDepth
  | threads
  | config
  | dumpTree
  | listLanguages
  | verbose
  | help
  | version
  deriving Repr, DecidableEq, Inhabited

namespace Arg

/-- Every argument, in listing order. -/
def all : List Arg :=
  [.root, .pattern, .patternFile, .lang, .format, .nonOverlapping, .exclude, .ext, .followLinks,
   .maxDepth, .threads, .config, .dumpTree, .listLanguages, .verbose, .help, .version]

/-- The options, in listing order. -/
def options : List Arg :=
  all.filter (· != .root)

/-- The long name of an option. -/
def long : Arg → String
  | .root => ""
  | .pattern => "pattern"
  | .patternFile => "pattern-file"
  | .lang => "lang"
  | .format => "format"
  | .nonOverlapping => "non-overlapping"
  | .exclude => "exclude"
  | .ext => "ext"
  | .followLinks => "follow-links"
  | .maxDepth => "max-depth"
  | .threads => "threads"
  | .config => "config"
  | .dumpTree => "dump-tree"
  | .listLanguages => "list-languages"
  | .verbose => "verbose"
  | .help => "help"
  | .version => "version"

/-- The short name of an option, if it has one. -/
def short : Arg → Option Char
  | .pattern => some 'p'
  | .patternFile => some 'f'
  | .lang => some 'l'
  | .threads => some 'j'
  | .config => some 'c'
  | .verbose => some 'v'
  | .help => some 'h'
  | .version => some 'V'
  | _ => none

/-- The name of the value an option takes; none for a switch. -/
def valueName : Arg → Option String
  | .root => some "ROOT"
  | .pattern => some "PATTERN"
  | .patternFile => some "PATTERN_FILE"
  | .lang => some "LANG"
  | .format => some "FORMAT"
  | .exclude => some "EXCLUDE"
  | .ext => some "EXT"
  | .maxDepth => some "MAX_DEPTH"
  | .threads => some "THREADS"
  | .config => some "CONFIG"
  | .dumpTree => some "FILE"
  | _ => none

/-- Whether an option takes a value. -/
def takesValue (a : Arg) : Bool :=
  a != .root && a.valueName.isSome

/-- Whether an argument names a file; such a value may not be empty. -/
def isPath : Arg → Bool
  | .root | .patternFile | .config | .dumpTree => true
  | _ => false

/-- Whether an option may be given more than once. -/
def repeats : Arg → Bool
  | .exclude | .ext => true
  | _ => false

/-- The values an option accepts, when it accepts only some. -/
def choices : Arg → List String
  | .format => ["text", "json"]
  | _ => []

/-- The one-line description of an argument. -/
def about : Arg → String
  | .root => "Directory or file to search"
  | .pattern => "Pattern text"
  | .patternFile => "Read the pattern from a file"
  | .lang => "Parse every file as this language"
  | .format => "Output format"
  | .nonOverlapping => "Skip matches nested inside an earlier match"
  | .exclude => "Extra gitignore-style exclude pattern (repeatable)"
  | .ext => "Only search files with this extension (repeatable)"
  | .followLinks => "Follow symbolic links"
  | .maxDepth => "Maximum directory depth"
  | .threads => "Number of worker threads"
  | .config => "Config file (defaults to ./shapegrep.toml when present)"
  | .dumpTree => "Print the syntax tree of one file and exit"
  | .listLanguages => "List supported languages and exit"
  | .verbose => "Enable verbose logging"
  | .help => "Print help (see more with '--help')"
  | .version => "Print version"

/-- The argument as messages show it. -/
def display (a : Arg) : String :=
  match a with
  | .root => "[ROOT]"
  | _ => "--" ++ a.long ++ (match a.valueName with | some v => " <" ++ v ++ ">" | none => "")

/-- The argument as a usage line shows it when it was given. -/
def givenForm (a : Arg) : String :=
  match a with
  | .root => "<ROOT>"
  | _ => a.display

/-- The option with a long name. -/
def ofLong (name : String) : Option Arg :=
  options.find? (·.long == name)

/-- The option with a short name. -/
def ofShort (c : Char) : Option Arg :=
  options.find? (·.short == some c)

end Arg

end Cli
end ShapeSearch
