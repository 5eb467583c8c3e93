import ShapeSearch.Config.Decode
import ShapeSearch.Config.Encode
import ShapeSearch.Files.Disk

/-!
# Configuration files

Settings are read from a file: the one named, or `shapegrep.toml` in the working
directory.  A named file must exist; the default file may be missing, and then
there are no settings.  Writing settings refuses to replace an existing file
unless forced.
-/

namespace ShapeSearch

/-- Why settings could not be read or written. -/
inductive ConfigError where
  | notFound (path : String)
  | unreadable (message : String)
  | invalid (path report : String)
  | alreadyExists (path : String)
  deriving Repr, DecidableEq, Inhabited

/-- The sentence for a configuration error. -/
def ConfigError.message : ConfigError → String
  | .notFound p => "config file not found: " ++ p
  | .unreadable m => m
  | .invalid p r => "invalid config " ++ p ++ ": " ++ r
  | .alreadyExists p => "config already exists at " ++ p ++ " (pass force to overwrite)"

/-- The system's sentence for an input/output failure. -/
def IoCause.text : IoCause → String
  | .notFound => "No such file or directory (os error 2)"
  | .permissionDenied => "Permission denied (os error 13)"
  | .other m => m

namespace Config

/-- The file read when none is named. -/
def defaultPath : String := "shapegrep.toml"

/-- Read the settings of a file, relative paths taken from the working directory:
none when the default file is missing. -/
def load (d : Disk) (cwd : String) (path : Option String) : Except ConfigError (Option Config) := do
  let shown := path.getD defaultPath
  let full := Path.join cwd shown
  match d.kindOf full with
  | .error _ => if path.isSome then throw (.notFound shown) else return none
  | .ok _ => pure ()
  let bytes ← match d.readFile full with
    | .ok b => pure b
    | .error cause => throw (.unreadable cause.text)
  if (String.fromUTF8? bytes).isNone then throw (.unreadable "stream did not contain valid UTF-8")
  match ofToml bytes with
  | .ok c => return some c
  | .error report => throw (.invalid shown report)

/-- Write settings to a file, unless it exists and writing is not forced. -/
def write (d : Disk) (cwd path : String) (c : Config) (force : Bool) : Except ConfigError Disk := do
  let full := Path.join cwd path
  if (d.kindOf full).toBool && !force then throw (.alreadyExists path)
  return d.write full (.file c.toToml.toUTF8)

end Config

end ShapeSearch
