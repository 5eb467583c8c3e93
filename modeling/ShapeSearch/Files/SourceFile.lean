import ShapeSearch.Files.Disk
import ShapeSearch.Text.Utf8

/-!
# Source files

A source file is the content of a file read from a disk, with the path it was
read from and the language it is to be parsed as.  Reading follows links; a
missing file, or a link to nothing, is not found, and a directory cannot be read.
-/

namespace ShapeSearch

/-- A file's content, path and language. -/
structure SourceFile where
  path : String
  language : String
  content : ByteArray
  deriving Inhabited

namespace SourceFile

/-- Read a file from a disk. -/
def read (d : Disk) (path language : String) : Except Error SourceFile :=
  match d.readFile path with
  | .ok content => .ok { path, language, content }
  | .error cause => .error (Error.ofIo path cause)

/-- Read a file from a disk, a relative path taken from a working directory; the
file and its errors keep the path as given. -/
def readFrom (d : Disk) (cwd path language : String) : Except Error SourceFile :=
  match d.readFile (Path.join cwd path) with
  | .ok content => .ok { path, language, content }
  | .error cause => .error (Error.ofIo path cause)

/-- The path as shown to people. -/
def displayPath (f : SourceFile) : String :=
  f.path

/-- The number of bytes. -/
def size (f : SourceFile) : Nat :=
  f.content.size

/-- Whether the file has no bytes. -/
def isEmpty (f : SourceFile) : Bool :=
  f.content.size == 0

/-- The content as text, ill-formed bytes replaced. -/
def text (f : SourceFile) : String :=
  Utf8.lossy f.content

end SourceFile

end ShapeSearch
