import ShapeSearch.Text.Position
import ShapeSearch.Text.Category
import ShapeSearch.Text.Unicode.Ranges
import ShapeSearch.Text.Unicode.Letters
import ShapeSearch.Text.Unicode.Identifiers
import ShapeSearch.Text.Unicode.Graphemes
import ShapeSearch.Text.Unicode.Emoji
import ShapeSearch.Text.Unicode.Symbols
import ShapeSearch.Text.Unicode.Binary
import ShapeSearch.Text.Unicode.Script
import ShapeSearch.Text.Unicode.Age
import ShapeSearch.Text.Unicode.Segment
import ShapeSearch.Text.Unicode.Names
import ShapeSearch.Text.Properties
import ShapeSearch.Text.Unicode.Wide
import ShapeSearch.Text.Width
import ShapeSearch.Text.Escaped
import ShapeSearch.Regex.Syntax
import ShapeSearch.Regex.Nesting
import ShapeSearch.Regex.Parse
import ShapeSearch.Text.CaseFold
import ShapeSearch.Regex.CharSet
import ShapeSearch.Regex.Property
import ShapeSearch.Regex.Resolve
import ShapeSearch.Regex.Canonical
import ShapeSearch.Regex.Footprint
import ShapeSearch.Regex.Match
import ShapeSearch.Pattern.Token
import ShapeSearch.Pattern.Error
import ShapeSearch.Pattern.Lexer
import ShapeSearch.Pattern.Basic
import ShapeSearch.Grammar.Vocabulary
import ShapeSearch.Pattern.Compile
import ShapeSearch.Pattern.Print
import ShapeSearch.Text.Utf8
import ShapeSearch.Tree.Basic
import ShapeSearch.Tree.Builder
import ShapeSearch.Match.Engine
import ShapeSearch.Match.Record
import ShapeSearch.Match.Backtrack
import ShapeSearch.Error
import ShapeSearch.Report.Table
import ShapeSearch.Pattern.RoundTrip
import ShapeSearch.Files.Path
import ShapeSearch.Grammar.Language
import ShapeSearch.Grammar.Registry
import ShapeSearch.Report.Languages
import ShapeSearch.Syntax.Source
import ShapeSearch.Syntax.Scan
import ShapeSearch.Syntax.Cst
import ShapeSearch.Syntax.ParseTree
import ShapeSearch.Syntax.Lexeme
import ShapeSearch.Syntax.Parser
import ShapeSearch.Grammar.Javascript.Lexer
import ShapeSearch.Grammar.Javascript.Cursor
import ShapeSearch.Grammar.Javascript.Parser
import ShapeSearch.Grammar.Python.Lexer
import ShapeSearch.Grammar.Python.Parser
import ShapeSearch.Grammar.Rust.Lexer
import ShapeSearch.Grammar.Rust.Parser
import ShapeSearch.Grammar.Go.Lexer
import ShapeSearch.Grammar.Go.Parser
import ShapeSearch.Grammar.Parse
import ShapeSearch.Grammar.Estimate
import ShapeSearch.Report.Style
import ShapeSearch.Text.Json
import ShapeSearch.Text.Similarity
import ShapeSearch.Files.Disk
import ShapeSearch.Files.SourceFile
import ShapeSearch.Walk.Options
import ShapeSearch.Walk.Glob
import ShapeSearch.Walk.Strategy
import ShapeSearch.Walk.Ignore
import ShapeSearch.Walk.Walker
import ShapeSearch.Search.Outcome
import ShapeSearch.Search.Searcher
import ShapeSearch.Search.Run
import ShapeSearch.Search.Pipeline
import ShapeSearch.Report.JsonLines
import ShapeSearch.Report.TextLines
import ShapeSearch.Output.Writer
import ShapeSearch.Text.Binary64
import ShapeSearch.Toml.Value
import ShapeSearch.Toml.Reader
import ShapeSearch.Toml.Document
import ShapeSearch.Toml.Print
import ShapeSearch.Config.Basic
import ShapeSearch.Config.Decode
import ShapeSearch.Config.Encode
import ShapeSearch.Config.Load
import ShapeSearch.Log.Event
import ShapeSearch.Cli.Arg
import ShapeSearch.Cli.Help
import ShapeSearch.Cli.Args
import ShapeSearch.Cli.Session
import ShapeSearch.Main
import ShapeSearch.Proofs.Tree.Shape
import ShapeSearch.Proofs.Tree.Building
import ShapeSearch.Proofs.Tree.Invariant
import ShapeSearch.Proofs.Match.Order
import ShapeSearch.Proofs.Pattern.Grammar
import ShapeSearch.Proofs.Pattern.Parser
import ShapeSearch.Proofs.Pattern.Lexing
import ShapeSearch.Proofs.Pattern.Lexemes
import ShapeSearch.Proofs.Pattern.ErrorPlaces
import ShapeSearch.Proofs.Pattern.Canonical
import ShapeSearch.Proofs.Match.Placement
import ShapeSearch.Proofs.Search.Invariant
import ShapeSearch.Proofs.Search.Progress
import ShapeSearch.Proofs.Tree.ErrorSites
import ShapeSearch.Proofs.Tree.Rejection
import ShapeSearch.Proofs.Syntax.Replay
import ShapeSearch.Proofs.Syntax.Lowering
import ShapeSearch.Proofs.Grammar.Registry
import ShapeSearch.Proofs.Search.Languages
import ShapeSearch.Proofs.Search.CancelToken
import ShapeSearch.Proofs.Cli.ClosedOutput
import ShapeSearch.Proofs.Text.Places
import ShapeSearch.Proofs.Grammar.TimeLimit
import ShapeSearch.Proofs.Match.Backtracking
