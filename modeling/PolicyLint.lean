import PolicyLint.Cache.Directory
import PolicyLint.Cache.Entry
import PolicyLint.Cache.Fault
import PolicyLint.Cache.Manager
import PolicyLint.Cache.Place
import PolicyLint.Cache.Store
import PolicyLint.CommandLine.Arguments
import PolicyLint.CommandLine.Basic
import PolicyLint.Config.Basic
import PolicyLint.Config.Search
import PolicyLint.Decimal.Magnitude
import PolicyLint.Decimal.Numeral
import PolicyLint.Decimal.Shortest
import PolicyLint.Digest.Blake3
import PolicyLint.Digest.Key
import PolicyLint.Discovery.Basic
import PolicyLint.Discovery.Filter
import PolicyLint.Discovery.Fixtures
import PolicyLint.Domain.Basic
import PolicyLint.Domain.Label
import PolicyLint.Domain.Mapping
import PolicyLint.Domain.Punycode
import PolicyLint.Duration
import PolicyLint.Endpoint.Basic
import PolicyLint.Endpoint.Status
import PolicyLint.Evaluation.Basic
import PolicyLint.Fault
import PolicyLint.Files.Change
import PolicyLint.Files.Fault
import PolicyLint.Files.Tree
import PolicyLint.Finding
import PolicyLint.Glob.Basic
import PolicyLint.Glob.Expression
import PolicyLint.Glob.Parser
import PolicyLint.Glob.Set
import PolicyLint.Glob.Shape
import PolicyLint.Glob.Slots
import PolicyLint.Json.Basic
import PolicyLint.Json.Decoder
import PolicyLint.Json.Fault
import PolicyLint.Json.Node
import PolicyLint.Json.Number
import PolicyLint.Json.Printer
import PolicyLint.Json.Token
import PolicyLint.Jsonc.Parser
import PolicyLint.Jsonc.Token
import PolicyLint.Judge
import PolicyLint.Main
import PolicyLint.Model
import PolicyLint.Notice
import PolicyLint.Outcome
import PolicyLint.Path
import PolicyLint.Pool
import PolicyLint.Prompt.Basic
import PolicyLint.Prompt.Completion
import PolicyLint.Proofs.Cache.Durability
import PolicyLint.Proofs.Cache.Expiry
import PolicyLint.Proofs.Cache.LastWrite
import PolicyLint.Proofs.Cache.Manager
import PolicyLint.Proofs.Cache.Saving
import PolicyLint.Proofs.Config.Document
import PolicyLint.Proofs.Digest.Key
import PolicyLint.Proofs.Discovery.Fixtures
import PolicyLint.Proofs.Discovery.Selection
import PolicyLint.Proofs.Discovery.Sources
import PolicyLint.Proofs.Discovery.Walk
import PolicyLint.Proofs.Endpoint.Answer
import PolicyLint.Proofs.Endpoint.Exchange
import PolicyLint.Proofs.Endpoint.Service
import PolicyLint.Proofs.Evaluation.Conservation
import PolicyLint.Proofs.Evaluation.Reference
import PolicyLint.Proofs.Evaluation.Trials
import PolicyLint.Proofs.Glob.Set
import PolicyLint.Proofs.Json.Acceptance
import PolicyLint.Proofs.Json.Document
import PolicyLint.Proofs.Json.Grammar
import PolicyLint.Proofs.Json.Lexing
import PolicyLint.Proofs.Json.Meaning
import PolicyLint.Proofs.Json.Members
import PolicyLint.Proofs.Json.Parsing
import PolicyLint.Proofs.Json.Quote
import PolicyLint.Proofs.Json.Quoting
import PolicyLint.Proofs.Model.Fingerprint
import PolicyLint.Proofs.Path
import PolicyLint.Proofs.Pool
import PolicyLint.Proofs.Prompt.Completion
import PolicyLint.Proofs.Prompt.Extraction
import PolicyLint.Proofs.Prompt.Listing
import PolicyLint.Proofs.Prompt.Violations
import PolicyLint.Proofs.Report.Grouping
import PolicyLint.Proofs.Report.Survival
import PolicyLint.Proofs.Retry
import PolicyLint.Proofs.Review.Basic
import PolicyLint.Proofs.Review.Clean
import PolicyLint.Proofs.Review.Concurrency
import PolicyLint.Proofs.Review.Coverage
import PolicyLint.Proofs.Review.Order
import PolicyLint.Proofs.Review.Preview
import PolicyLint.Proofs.Review.Reference
import PolicyLint.Proofs.Review.Refusal
import PolicyLint.Proofs.Review.Requests
import PolicyLint.Proofs.Rule.Canonical
import PolicyLint.Proofs.Rule.Grammar
import PolicyLint.Proofs.Run.Abort
import PolicyLint.Proofs.Run.Accounting
import PolicyLint.Proofs.Run.Attempts
import PolicyLint.Proofs.Run.Counting
import PolicyLint.Proofs.Run.Course
import PolicyLint.Proofs.Run.DryRun
import PolicyLint.Proofs.Run.Earned
import PolicyLint.Proofs.Run.Flight
import PolicyLint.Proofs.Run.History
import PolicyLint.Proofs.Run.Interview
import PolicyLint.Proofs.Run.Keyed
import PolicyLint.Proofs.Run.Keys
import PolicyLint.Proofs.Run.Lookup
import PolicyLint.Proofs.Run.Moments
import PolicyLint.Proofs.Run.Order
import PolicyLint.Proofs.Run.Past
import PolicyLint.Proofs.Run.Provenance
import PolicyLint.Proofs.Run.Question
import PolicyLint.Proofs.Run.Record
import PolicyLint.Proofs.Run.Retries
import PolicyLint.Proofs.Run.Unaborted
import PolicyLint.Proofs.Run.Upkeep
import PolicyLint.Proofs.Run.Warm
import PolicyLint.Proofs.Score
import PolicyLint.Proofs.Session.Basic
import PolicyLint.Proofs.Sorting
import PolicyLint.Proofs.SourceFile.Project
import PolicyLint.Proofs.Verdict
import PolicyLint.Proofs.Verdict.Normal
import PolicyLint.Proofs.Visit.Basic
import PolicyLint.Proofs.Visit.Series
import PolicyLint.Proofs.Visit.Warm
import PolicyLint.Report.Basic
import PolicyLint.Report.Json
import PolicyLint.Report.Text
import PolicyLint.Retry
import PolicyLint.Review.Basic
import PolicyLint.Review.Start
import PolicyLint.Rule.Basic
import PolicyLint.Rule.Name
import PolicyLint.Rule.Validation
import PolicyLint.Run.Batch
import PolicyLint.Run.Check
import PolicyLint.Run.DryRun
import PolicyLint.Run.Engine
import PolicyLint.Run.Group
import PolicyLint.Run.Task
import PolicyLint.Score
import PolicyLint.SourceFile
import PolicyLint.Text.Alphanumeric
import PolicyLint.Text.Blank
import PolicyLint.Text.Bytes
import PolicyLint.Text.Lines
import PolicyLint.Text.Quotation
import PolicyLint.Unicode.Composition
import PolicyLint.Unicode.Direction
import PolicyLint.Unicode.Joining
import PolicyLint.Unicode.Marks
import PolicyLint.Unicode.Table
import PolicyLint.Url.Basic
import PolicyLint.Url.Host
import PolicyLint.Url.Ipv4
import PolicyLint.Url.Ipv6
import PolicyLint.Url.Parser
import PolicyLint.Url.Path
import PolicyLint.Url.Percent
import PolicyLint.Verdict
