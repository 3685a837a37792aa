import ImportLint.Checking.Facts
import ImportLint.Checking.ImportEngine
import ImportLint.Checking.References
import ImportLint.Checking.Source
import ImportLint.CommandLine.Arguments
import ImportLint.CommandLine.DiskImage
import ImportLint.CommandLine.Program
import ImportLint.Failure
import ImportLint.Files.Disk
import ImportLint.Files.Memory
import ImportLint.Files.Snapshot
import ImportLint.Files.View
import ImportLint.Files.Walk
import ImportLint.Glob.Match
import ImportLint.Glob.Pattern
import ImportLint.Glob.Rules
import ImportLint.Glob.Sets
import ImportLint.Json.Basic
import ImportLint.Json.Decode
import ImportLint.Json.Expected
import ImportLint.Json.Printer
import ImportLint.Json.Reader
import ImportLint.Json.Relaxed
import ImportLint.Lint.Linter
import ImportLint.Lint.Options
import ImportLint.Lint.Targets
import ImportLint.Main
import ImportLint.ModuleKind
import ImportLint.Number.Shortest
import ImportLint.Package.Manifest
import ImportLint.Package.Specifier
import ImportLint.Path.Ancestors
import ImportLint.Path.Basic
import ImportLint.Path.Normal
import ImportLint.Project.Config
import ImportLint.Project.Patterns
import ImportLint.Project.Sources
import ImportLint.Project.Target
import ImportLint.Proofs.Checking.Library
import ImportLint.Proofs.Checking.References
import ImportLint.Proofs.Files.Coherence
import ImportLint.Proofs.Path.Components
import ImportLint.Proofs.Path.Normal
import ImportLint.Proofs.Resolution.Candidates
import ImportLint.Proofs.Resolution.Order
import ImportLint.Proofs.Session.Memory
import ImportLint.Proofs.Session.Requests
import ImportLint.Report.Diagnostic
import ImportLint.Report.Position
import ImportLint.Report.Render
import ImportLint.Resolution.Cache
import ImportLint.Resolution.Resolver
import ImportLint.SearchPaths
import ImportLint.Session.Engine
import ImportLint.Session.Host
import ImportLint.Session.Registry
import ImportLint.Syntax.Dialect
import ImportLint.Syntax.Fault
import ImportLint.Syntax.Grammar.Basic
import ImportLint.Syntax.Grammar.Calls
import ImportLint.Syntax.Grammar.Classes
import ImportLint.Syntax.Grammar.Declarations
import ImportLint.Syntax.Grammar.Functions
import ImportLint.Syntax.Grammar.Loops
import ImportLint.Syntax.Grammar.Markup
import ImportLint.Syntax.Grammar.Modules
import ImportLint.Syntax.Grammar.Names
import ImportLint.Syntax.Grammar.Objects
import ImportLint.Syntax.Grammar.Operators
import ImportLint.Syntax.Grammar.Patterns
import ImportLint.Syntax.Grammar.Phrase
import ImportLint.Syntax.Grammar.Primary
import ImportLint.Syntax.Grammar.Statements
import ImportLint.Syntax.Grammar.Targets
import ImportLint.Syntax.Grammar.Types
import ImportLint.Syntax.Grammar.Variables
import ImportLint.Syntax.Input
import ImportLint.Syntax.Lexeme.Nesting
import ImportLint.Syntax.Lexeme.Next
import ImportLint.Syntax.Lexeme.Plain
import ImportLint.Syntax.Lexeme.Quoted
import ImportLint.Syntax.Parser
import ImportLint.Syntax.Token
import ImportLint.Syntax.Tree
import ImportLint.Table
import ImportLint.Text
import ImportLint.Text.Quoted
import ImportLint.Unicode.Categories
import ImportLint.Unicode.Classes
import ImportLint.Unicode.Diacritics
import ImportLint.Unicode.Hidden
import ImportLint.Proofs.Session.Keeping
import ImportLint.Proofs.Checking.Calls
import ImportLint.Proofs.Checking.Collection
import ImportLint.Proofs.Checking.Literals
import ImportLint.Proofs.Checking.Texts
import ImportLint.Proofs.Checking.Verdict
import ImportLint.Proofs.Lint.Independence
import ImportLint.Proofs.Lint.Placement
import ImportLint.Proofs.Files.Runs
import ImportLint.Proofs.Resolution.Probes
import ImportLint.Proofs.Session.Failures
import ImportLint.Proofs.Files.Lines
import ImportLint.Proofs.Files.Handles
import ImportLint.Proofs.Session.Operations
import ImportLint.Proofs.Checking.Unresolved
import ImportLint.Proofs.Session.Registry
import ImportLint.Proofs.Path.Names
import ImportLint.Proofs.Path.Order
import ImportLint.Proofs.Files.Walks
import ImportLint.Proofs.Json.Reading
import ImportLint.Proofs.Json.Layout
import ImportLint.Proofs.Json.Relaxed
import ImportLint.Proofs.Report.Document
import ImportLint.Proofs.Lint.Discovery
import ImportLint.Proofs.Lint.Targets
import ImportLint.Proofs.Project.Patterns
import ImportLint.Proofs.Project.SourceFiles
import ImportLint.Proofs.Path.Ancestors
import ImportLint.Proofs.Path.Endings
import ImportLint.Proofs.Path.Rooted
import ImportLint.Proofs.Text.Parts
import ImportLint.Proofs.Resolution.SearchPaths
import ImportLint.Proofs.Resolution.Phases
import ImportLint.Proofs.Resolution.Kinds
import ImportLint.Proofs.Resolution.Canonical
import ImportLint.Proofs.Glob.Reading
import ImportLint.Proofs.Glob.Covering
import ImportLint.Proofs.Project.Expansion
import ImportLint.Proofs.Project.Spellings
import ImportLint.Proofs.Project.Directories
import ImportLint.Proofs.Path.Canonical
import ImportLint.Proofs.Text.Offsets
import ImportLint.Proofs.Report.Positions
import ImportLint.Proofs.Report.Ranges
import ImportLint.Proofs.Files.Parts
import ImportLint.Proofs.Project.Enumeration
import ImportLint.Proofs.Project.Limits
import ImportLint.Proofs.Resolution.Ownership
import ImportLint.Proofs.Lint.Local
import ImportLint.Proofs.Lint.Ignoring
import ImportLint.Proofs.Path.Upwards
import ImportLint.Proofs.Package.Naming
