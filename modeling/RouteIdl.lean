import RouteIdl.CommandLine.Arguments
import RouteIdl.CommandLine.Commands
import RouteIdl.CommandLine.Help
import RouteIdl.CommandLine.Session
import RouteIdl.Compilation
import RouteIdl.CompileError
import RouteIdl.Decimal.Shortest
import RouteIdl.Event
import RouteIdl.FileTree
import RouteIdl.Identifier
import RouteIdl.Idl.Declaration
import RouteIdl.Idl.Layout
import RouteIdl.Json.Fault
import RouteIdl.Json.Lexeme
import RouteIdl.Json.Printer
import RouteIdl.Json.Reader
import RouteIdl.Json.Record
import RouteIdl.Json.Skip
import RouteIdl.Json.Symbol
import RouteIdl.Json.Value
import RouteIdl.Log.Directive
import RouteIdl.Log.Level
import RouteIdl.Log.Manager
import RouteIdl.Log.Pattern
import RouteIdl.Log.Pattern.Class
import RouteIdl.Log.Pattern.Level
import RouteIdl.Log.Pattern.Mode
import RouteIdl.Log.Record
import RouteIdl.Main
import RouteIdl.Manifest
import RouteIdl.NameSet
import RouteIdl.Params
import RouteIdl.Path
import RouteIdl.Proofs.CommandLine.Agreement
import RouteIdl.Proofs.CommandLine.Containment
import RouteIdl.Proofs.CommandLine.Effective
import RouteIdl.Proofs.CommandLine.Naming
import RouteIdl.Proofs.CommandLine.Plan
import RouteIdl.Proofs.Compilation.Announcements
import RouteIdl.Proofs.Compilation.Bodies
import RouteIdl.Proofs.Compilation.Contribution
import RouteIdl.Proofs.Compilation.Course
import RouteIdl.Proofs.Compilation.Culprit
import RouteIdl.Proofs.Compilation.Distinctness
import RouteIdl.Proofs.Compilation.Injectivity
import RouteIdl.Proofs.Compilation.Locality
import RouteIdl.Proofs.Compilation.Noninterference
import RouteIdl.Proofs.Compilation.Numbering
import RouteIdl.Proofs.Compilation.Pass
import RouteIdl.Proofs.Compilation.Presence
import RouteIdl.Proofs.Compilation.References
import RouteIdl.Proofs.Compilation.Rejection
import RouteIdl.Proofs.Compilation.Resolution
import RouteIdl.Proofs.Compilation.Sides
import RouteIdl.Proofs.Compilation.Styles
import RouteIdl.Proofs.Identifier
import RouteIdl.Proofs.Identifier.Parts
import RouteIdl.Proofs.Identifier.Scan
import RouteIdl.Proofs.Idl.Nesting
import RouteIdl.Proofs.Idl.Procedures
import RouteIdl.Proofs.Idl.ReadBack
import RouteIdl.Proofs.Idl.Reader
import RouteIdl.Proofs.Json.Digits
import RouteIdl.Proofs.Json.Fits
import RouteIdl.Proofs.Json.Members
import RouteIdl.Proofs.Json.Numerals
import RouteIdl.Proofs.Json.ReadBack
import RouteIdl.Proofs.Json.Reading
import RouteIdl.Proofs.Json.Remainder
import RouteIdl.Proofs.Json.UniqueKeys
import RouteIdl.Proofs.Log.Deliveries
import RouteIdl.Proofs.Manifest
import RouteIdl.Proofs.Params.Absorption
import RouteIdl.Proofs.Params.Merging
import RouteIdl.Proofs.Params.UniqueKeys
import RouteIdl.Proofs.Registration.Lifecycle
import RouteIdl.Proofs.Route.Fits
import RouteIdl.Proofs.Route.ReadBack
import RouteIdl.Proofs.Schema.Acceptance
import RouteIdl.Proofs.Schema.Bodies
import RouteIdl.Proofs.Schema.Choices
import RouteIdl.Proofs.Schema.Classification
import RouteIdl.Proofs.Schema.Diagnostics
import RouteIdl.Proofs.Schema.Distinctness
import RouteIdl.Proofs.Schema.Evolution
import RouteIdl.Proofs.Schema.Faithful
import RouteIdl.Proofs.Schema.Offending
import RouteIdl.Proofs.Schema.Outline
import RouteIdl.Proofs.Schema.Outlined
import RouteIdl.Proofs.Schema.Places
import RouteIdl.Proofs.Schema.Presence
import RouteIdl.Proofs.Schema.Resolution
import RouteIdl.Proofs.Schema.Siblings
import RouteIdl.Proofs.Schema.Translation
import RouteIdl.Proofs.Schema.Visits
import RouteIdl.Proofs.Text.CaseImages
import RouteIdl.Registration
import RouteIdl.Registration.Describe
import RouteIdl.Registration.Host
import RouteIdl.Route
import RouteIdl.Schema
import RouteIdl.Schema.Items
import RouteIdl.ServiceName
import RouteIdl.Settings
import RouteIdl.Storage
import RouteIdl.Text.Case
import RouteIdl.Text.CaseTable
import RouteIdl.Text.CharClass
import RouteIdl.Text.CharSet
import RouteIdl.Text.Digit
import RouteIdl.Text.Quoted
import RouteIdl.Toml.Lexeme
import RouteIdl.Toml.Reader
import RouteIdl.Toml.Scalar
import RouteIdl.Toml.Value
import RouteIdl.Traced
import RouteIdl.Proofs.Json.ReadBack
