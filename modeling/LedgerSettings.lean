import LedgerSettings.Collaborators
import LedgerSettings.CommandLine.Arguments
import LedgerSettings.CommandLine.Run
import LedgerSettings.Configuration
import LedgerSettings.Decimal
import LedgerSettings.Document
import LedgerSettings.Files
import LedgerSettings.Identifiers
import LedgerSettings.Json.Cursor
import LedgerSettings.Json.Printer
import LedgerSettings.Json.Reader
import LedgerSettings.Json.Scalar
import LedgerSettings.Keyed
import LedgerSettings.Loading
import LedgerSettings.Logging.Directive
import LedgerSettings.Logging.Installation
import LedgerSettings.Logging.Pattern
import LedgerSettings.Logging.Record
import LedgerSettings.Logging.Settings
import LedgerSettings.Main
import LedgerSettings.Metadata
import LedgerSettings.Node
import LedgerSettings.Presentation
import LedgerSettings.Proofs.CommandLine.Run
import LedgerSettings.Proofs.Files.Path
import LedgerSettings.Proofs.Json.Depth
import LedgerSettings.Proofs.Json.Foresight
import LedgerSettings.Proofs.Json.Fuel
import LedgerSettings.Proofs.Json.Holes
import LedgerSettings.Proofs.Json.Kinds
import LedgerSettings.Proofs.Json.Nesting
import LedgerSettings.Proofs.Json.Number
import LedgerSettings.Proofs.Json.Outlook
import LedgerSettings.Proofs.Json.Reader
import LedgerSettings.Proofs.Json.Rewriting
import LedgerSettings.Proofs.Json.RoundTrip
import LedgerSettings.Proofs.Json.Steps
import LedgerSettings.Proofs.Json.Text
import LedgerSettings.Proofs.Loading.Causes
import LedgerSettings.Proofs.Loading.Course
import LedgerSettings.Proofs.Loading.Journal
import LedgerSettings.Proofs.Loading.Keys
import LedgerSettings.Proofs.Loading.Notations
import LedgerSettings.Proofs.Loading.Omission
import LedgerSettings.Proofs.Loading.Positions
import LedgerSettings.Proofs.Loading.Reload
import LedgerSettings.Proofs.Loading.Secrecy
import LedgerSettings.Proofs.Loading.Serialized
import LedgerSettings.Proofs.Loading.Sources
import LedgerSettings.Proofs.Loading.Strictness
import LedgerSettings.Proofs.Logging.Precedence
import LedgerSettings.Proofs.Logging.World
import LedgerSettings.Proofs.Node
import LedgerSettings.Proofs.Outcome
import LedgerSettings.Proofs.Resolution.Entries
import LedgerSettings.Proofs.Shape.Crowding
import LedgerSettings.Proofs.Shape.Depth
import LedgerSettings.Proofs.Shape.Fields
import LedgerSettings.Proofs.Shape.Frames
import LedgerSettings.Proofs.Shape.Omission
import LedgerSettings.Proofs.Shape.Order
import LedgerSettings.Proofs.Shape.Reading
import LedgerSettings.Proofs.Shape.Records
import LedgerSettings.Proofs.Shape.Sites
import LedgerSettings.Proofs.Shape.Unbroken
import LedgerSettings.Proofs.Shape.Written
import LedgerSettings.Proofs.Validation.Course
import LedgerSettings.Proofs.Validation.Effect
import LedgerSettings.Proofs.Validation.Questions
import LedgerSettings.Proofs.Validation.Rules
import LedgerSettings.Proofs.Validation.Runs
import LedgerSettings.Proofs.Validation.Settled
import LedgerSettings.Proofs.Value
import LedgerSettings.Proofs.Value.Lookup
import LedgerSettings.Proofs.Value.Order
import LedgerSettings.Resolution
import LedgerSettings.Shape
import LedgerSettings.Shape.Decode
import LedgerSettings.Text.Character
import LedgerSettings.Text.Table
import LedgerSettings.Text.Width
import LedgerSettings.Text.Word
import LedgerSettings.Toml.Reader
import LedgerSettings.Toml.Scalar
import LedgerSettings.Validation
import LedgerSettings.Value
import LedgerSettings.Workflow
