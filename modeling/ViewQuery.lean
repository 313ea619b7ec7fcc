import ViewQuery.BoundView
import ViewQuery.Call
import ViewQuery.Call.Json
import ViewQuery.Catalog
import ViewQuery.Chat
import ViewQuery.Compilation
import ViewQuery.Database
import ViewQuery.Database.Cell
import ViewQuery.Database.Recording
import ViewQuery.Dataset
import ViewQuery.Decimal.Binary
import ViewQuery.Decimal.Layout
import ViewQuery.Decimal.Numeral
import ViewQuery.Decimal.Shortest
import ViewQuery.Draft
import ViewQuery.Environment
import ViewQuery.Evaluation
import ViewQuery.Generation
import ViewQuery.Grammar.Calls
import ViewQuery.Grammar.Lexeme
import ViewQuery.Grammar.Mention
import ViewQuery.Grammar.ReadError
import ViewQuery.Grammar.Token
import ViewQuery.Grammar.Tree
import ViewQuery.Invocation
import ViewQuery.Json.Basic
import ViewQuery.Json.Bracket
import ViewQuery.Json.Failure
import ViewQuery.Json.Ignored
import ViewQuery.Json.Kept
import ViewQuery.Json.Number
import ViewQuery.Json.Quoted
import ViewQuery.Json.Reader
import ViewQuery.Json.Reading
import ViewQuery.Json.Record
import ViewQuery.Json.Sorted
import ViewQuery.Json.Value
import ViewQuery.Literal
import ViewQuery.Main
import ViewQuery.Operation
import ViewQuery.OperationSet
import ViewQuery.Outcome
import ViewQuery.Program
import ViewQuery.Proofs.Catalog.CaseFolding
import ViewQuery.Proofs.Catalog.Lookup
import ViewQuery.Proofs.Compilation.Entering
import ViewQuery.Proofs.Compilation.Incremental
import ViewQuery.Proofs.Compilation.Joining
import ViewQuery.Proofs.Compilation.Registered
import ViewQuery.Proofs.Compilation.Tracing
import ViewQuery.Proofs.Compilation.Transform
import ViewQuery.Proofs.Database.Budget
import ViewQuery.Proofs.Dataset.ReadBack
import ViewQuery.Proofs.Decimal.Bits
import ViewQuery.Proofs.Decimal.Grid
import ViewQuery.Proofs.Decimal.Nearest
import ViewQuery.Proofs.Decimal.ReadBack
import ViewQuery.Proofs.Decimal.Value
import ViewQuery.Proofs.Generation.Attempts
import ViewQuery.Proofs.Generation.Conversation
import ViewQuery.Proofs.Generation.Fences
import ViewQuery.Proofs.Generation.LastReply
import ViewQuery.Proofs.Grammar.Brackets
import ViewQuery.Proofs.Grammar.Called
import ViewQuery.Proofs.Grammar.Exactness
import ViewQuery.Proofs.Grammar.Faults
import ViewQuery.Proofs.Grammar.Joining
import ViewQuery.Proofs.Grammar.Lexemes
import ViewQuery.Proofs.Grammar.LineEnds
import ViewQuery.Proofs.Grammar.Lines
import ViewQuery.Proofs.Grammar.Literals
import ViewQuery.Proofs.Grammar.MentionedCalls
import ViewQuery.Proofs.Grammar.Mentions
import ViewQuery.Proofs.Grammar.Printing
import ViewQuery.Proofs.Grammar.Returns
import ViewQuery.Proofs.Grammar.Scanning
import ViewQuery.Proofs.Grammar.Sequences
import ViewQuery.Proofs.Grammar.Spelling
import ViewQuery.Proofs.Grammar.Trees
import ViewQuery.Proofs.Grammar.Values
import ViewQuery.Proofs.Grammar.Writable
import ViewQuery.Proofs.Json.Calls
import ViewQuery.Proofs.Json.Compact
import ViewQuery.Proofs.Json.Records
import ViewQuery.Proofs.Json.Scalars
import ViewQuery.Proofs.Registry.Declarations
import ViewQuery.Proofs.Registry.Requests
import ViewQuery.Proofs.Registry.Selection
import ViewQuery.Proofs.Scoring.Coherence
import ViewQuery.Proofs.Scoring.Grouping
import ViewQuery.Proofs.Scoring.Report
import ViewQuery.Proofs.Scoring.Scheduling
import ViewQuery.Proofs.Scoring.Totals
import ViewQuery.Proofs.Sql.Building
import ViewQuery.Proofs.Sql.Distinct
import ViewQuery.Proofs.Sql.Identities
import ViewQuery.Proofs.Sql.Lexing
import ViewQuery.Proofs.Sql.Meaning
import ViewQuery.Proofs.Sql.Names
import ViewQuery.Proofs.Sql.Nesting
import ViewQuery.Proofs.Sql.QueryReadBack
import ViewQuery.Proofs.Sql.Quoting
import ViewQuery.Proofs.Sql.ReadBack
import ViewQuery.Proofs.Sql.Reading
import ViewQuery.Proofs.Sql.Scope
import ViewQuery.Proofs.Sql.Sentences
import ViewQuery.Proofs.Sql.Sorting
import ViewQuery.Proofs.Sql.Tokens
import ViewQuery.Proofs.Text.LowerCase
import ViewQuery.Proofs.Text.Trimming
import ViewQuery.Proofs.Text.Utf8
import ViewQuery.Proofs.Validation.Dispatch
import ViewQuery.Proofs.Validation.Expressible
import ViewQuery.Proofs.Validation.Fingerprint
import ViewQuery.Proofs.Validation.FirstFault
import ViewQuery.Proofs.Validation.Rechecking
import ViewQuery.Proofs.Validation.Refusal
import ViewQuery.QueryError
import ViewQuery.Registry
import ViewQuery.Resolver
import ViewQuery.Role
import ViewQuery.Schedule
import ViewQuery.Scoring
import ViewQuery.Selection
import ViewQuery.Session
import ViewQuery.Settings
import ViewQuery.Shape
import ViewQuery.Sql.Expr
import ViewQuery.Sql.Select
import ViewQuery.Storage
import ViewQuery.Text.Alphanumeric
import ViewQuery.Text.Blank
import ViewQuery.Text.Digest
import ViewQuery.Text.Duration
import ViewQuery.Text.LowerCase
import ViewQuery.Text.Octets
import ViewQuery.Text.Printable
import ViewQuery.Text.Quoted
import ViewQuery.Text.Ranges
import ViewQuery.Validation
import ViewQuery.View
import ViewQuery.Yaml.Fault
import ViewQuery.Yaml.Node
import ViewQuery.Yaml.Plain
import ViewQuery.Yaml.Reader
import ViewQuery.Yaml.Scalar
import ViewQuery.Yaml.Token
