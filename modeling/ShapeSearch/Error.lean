import ShapeSearch.Pattern.Error

/-!
# Errors of a search

Every failure a search can meet, with the sentence that reports it and a short
kind name.  An input/output failure on a path is classified by its cause: a
missing path and a denied permission have kinds of their own, every other cause
is reported with the system's message (`Error.ofIo`).
-/

namespace ShapeSearch

/-- Why a parser could not produce a tree. -/
inductive ParseFailure where
  | incompatible (language reason : String)
  | aborted (language : String)
  | malformed (message : String)
  deriving Repr, DecidableEq, Inhabited

/-- The sentence for a parse failure. -/
def ParseFailure.message : ParseFailure → String
  | .incompatible language reason => "parser for " ++ language ++ " could not be configured: " ++ reason
  | .aborted language => "parsing " ++ language ++ " source was aborted (timeout or cancellation)"
  | .malformed m => "parser produced a malformed tree: " ++ m

/-- The causes of an input/output failure that are told apart. -/
inductive IoCause where
  | notFound
  | permissionDenied
  | other (message : String)
  deriving Repr, DecidableEq, Inhabited

/-- The failures of a search. -/
inductive Error where
  | pathNotFound (path : String)
  | permissionDenied (path : String)
  | symlinkLoop (child ancestor : String)
  | unsupportedLanguage (tag : String)
  | parse (failure : ParseFailure)
  | pattern (error : Pattern.PatternError)
  | patternUnavailable (language : String)
  | io (path message : String)
  | walk (message : String)
  | tree (message : String)
  | config (message : String)
  | output (message : String)
  deriving Repr, DecidableEq, Inhabited

namespace Error

/-- The error for an input/output failure on a path. -/
def ofIo (path : String) : IoCause → Error
  | .notFound => .pathNotFound path
  | .permissionDenied => .permissionDenied path
  | .other m => .io path m

/-- The sentence that reports the error. -/
def message : Error → String
  | .pathNotFound p => "Path not found: " ++ p
  | .permissionDenied p => "Permission denied: " ++ p
  | .symlinkLoop child ancestor => "Symbolic link loop: " ++ child ++ " points back to " ++ ancestor
  | .unsupportedLanguage t => "Unsupported language: " ++ t
  | .parse f => "Parse error: " ++ f.message
  | .pattern e => "Pattern error: " ++ e.message
  | .patternUnavailable l => "No compiled pattern for language " ++ l
  | .io p m => "IO error on " ++ p ++ ": " ++ m
  | .walk m => "Walk error: " ++ m
  | .tree m => "Malformed tree: " ++ m
  | .config m => "Config error: " ++ m
  | .output m => "Failed to write results: " ++ m

/-- The sentence followed by the sentences of its causes: a pattern, parse or
input/output failure is caused by the failure it wraps. -/
def withCauses (e : Error) : String :=
  match e with
  | .pattern p => e.message ++ ": " ++ p.message
  | .parse f => e.message ++ ": " ++ f.message
  | .io _ m | .output m => e.message ++ ": " ++ m
  | _ => e.message

/-- The short name of the error's kind. -/
def kind : Error → String
  | .pathNotFound _ => "path_not_found"
  | .permissionDenied _ => "permission_denied"
  | .symlinkLoop .. => "symlink_loop"
  | .unsupportedLanguage _ => "unsupported_language"
  | .parse _ => "parse_failure"
  | .pattern _ => "pattern_error"
  | .patternUnavailable _ => "pattern_unavailable"
  | .io .. => "io"
  | .walk _ => "walk"
  | .tree _ => "tree"
  | .config _ => "config"
  | .output _ => "output"

/-- The path the error is about, if any. -/
def path? : Error → Option String
  | .pathNotFound p | .permissionDenied p => some p
  | .symlinkLoop child _ => some child
  | .io p _ => some p
  | _ => none

end Error

end ShapeSearch
