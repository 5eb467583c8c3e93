import ShapeSearch.Cli.Arg

/-!
# Help and version texts

The help comes in two lengths.  The short one (`-h`) opens with the one-line
description and lists each argument on one line, descriptions aligned two
columns after the widest argument, with the default and the accepted values in
brackets after the description.  The long one (`--help`) opens with the longer
description and examples and puts each description on its own indented line,
arguments separated by blank lines; the accepted output formats are listed with
what each means.

A usage line names the program, then `[OPTIONS]` and `[ROOT]`; a usage line for
given arguments names those instead, options first and the root last.
-/

namespace ShapeSearch
namespace Cli

/-- The program's name. -/
def programName : String := "shapegrep"

/-- The program's version. -/
def programVersion : String := "0.1.0"

/-- The version line. -/
def versionText : String :=
  programName ++ " " ++ programVersion ++ "\n"

/-- The one-line description. -/
def summaryAbout : String :=
  "Structural code search - find syntax tree shapes across a source tree"

/-- The longer description, with examples. -/
def fullAbout : String :=
  "Shapegrep parses every supported file under ROOT and reports each place a\n" ++
  "tree pattern matches.\n\n" ++
  "Example usage:\n" ++
  "  shapegrep src -p '(function_declaration name: (identifier) @name)'\n" ++
  "  shapegrep . --lang python -p '(function_definition name: (identifier) @fn)'\n" ++
  "  shapegrep --format json -f patterns/todo.scm\n" ++
  "  shapegrep --dump-tree src/app.ts\n"

/-- What each output format means. -/
def formatMeanings : List (String × String) :=
  [("text", "`path:row:col: label: text` lines and a human summary"),
   ("json", "One JSON object per record, then a summary object")]

/-- The usage line without given arguments. -/
def plainUsage : String :=
  programName ++ " [OPTIONS] [ROOT]"

/-- The usage line naming given arguments: each option once, in the order given,
then the root, shown as given or as optional. -/
def givenUsage (given : List Arg) : String :=
  let opts := (given.filter (· != .root)).eraseDups
  let root := if given.contains .root then Arg.root.givenForm else Arg.root.display
  " ".intercalate (programName :: opts.map Arg.givenForm ++ [root])

/-- The usage line for given arguments, or the plain one when none were given. -/
def usageFor (given : List Arg) : String :=
  if given.isEmpty then plainUsage else givenUsage given

/-- Spaces. -/
def spaces (n : Nat) : String :=
  String.ofList (List.replicate n ' ')

/-- The argument column of a help line: the short name or room for it, then the
long form. -/
def argColumn (a : Arg) : String :=
  match a with
  | .root => a.display
  | _ =>
    (match a.short with
     | some c => "-" ++ c.toString ++ ", "
     | none => "    ") ++ a.display

/-- The bracketed notes after an argument's description. -/
def notes (a : Arg) : List String :=
  match a with
  | .root => ["[default: .]"]
  | _ => if a.choices.isEmpty then [] else ["[possible values: " ++ ", ".intercalate a.choices ++ "]"]

/-- The lines of a group of arguments in the short help. -/
def shortLines (args : List Arg) : List String :=
  let widest := args.foldl (fun w a => max w a.display.length) 2
  args.map fun a =>
    let pad := widest + 2 - a.display.length
    "  " ++ argColumn a ++ spaces pad ++ " ".intercalate (a.about :: notes a)

/-- The short help. -/
def shortHelp : String :=
  summaryAbout ++ "\n\n" ++
  "Usage: " ++ plainUsage ++ "\n\n" ++
  "Arguments:\n" ++ "\n".intercalate (shortLines [.root]) ++ "\n\n" ++
  "Options:\n" ++ "\n".intercalate (shortLines Arg.options) ++ "\n"

/-- The indentation of descriptions in the long help. -/
def indent : String := spaces 10

/-- The description of an argument in the long help, its lines indented. -/
def longDescription (a : Arg) : String :=
  let about := if a == .help then "Print help (see a summary with '-h')" else a.about
  let body := match a with
    | .root => about ++ "\n\n" ++ "[default: .]"
    | _ => about
  let body := body.replace "\n" ("\n" ++ indent)
  let meanings := if a == .format then
      "\n\n" ++ indent ++ "Possible values:" ++ String.join (formatMeanings.map fun (n, m) =>
        "\n" ++ indent ++ "- " ++ n ++ ": " ++ m)
    else ""
  body ++ meanings

/-- The entry of an argument in the long help. -/
def longEntry (a : Arg) : String :=
  "  " ++ argColumn a ++ "\n" ++ indent ++ longDescription a

/-- The long help. -/
def longHelp : String :=
  fullAbout ++ "\n\n" ++
  "Usage: " ++ plainUsage ++ "\n\n" ++
  "Arguments:\n" ++ longEntry .root ++ "\n\n" ++
  "Options:\n" ++ "\n\n".intercalate (Arg.options.map longEntry) ++ "\n"

end Cli
end ShapeSearch
