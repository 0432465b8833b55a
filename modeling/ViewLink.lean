import ViewLink.Assets
import ViewLink.Builder.Node
import ViewLink.Command.Indicator
import ViewLink.Command.Validate
import ViewLink.Command.Violation
import ViewLink.Config.Basic
import ViewLink.Config.Decode
import ViewLink.Config.Load
import ViewLink.Decimal.Nearest
import ViewLink.Decimal.Scaled
import ViewLink.Decimal.Shortest
import ViewLink.Decimal.Style
import ViewLink.Dispatcher.Basic
import ViewLink.Dispatcher.Summary
import ViewLink.Files.Path
import ViewLink.Files.Tree
import ViewLink.Json.Basic
import ViewLink.Json.Members
import ViewLink.Json.Printer
import ViewLink.Json.Reader
import ViewLink.Json.Scan
import ViewLink.Log.Event
import ViewLink.Log.Filter
import ViewLink.Log.Format
import ViewLink.Log.Subscriber
import ViewLink.Proofs.Assets.Contract
import ViewLink.Proofs.Assets.Inside
import ViewLink.Proofs.Assets.Loading
import ViewLink.Proofs.Assets.Sessions
import ViewLink.Proofs.Builder.Chains
import ViewLink.Proofs.Builder.Distinct
import ViewLink.Proofs.Builder.Leaves
import ViewLink.Proofs.Builder.Reach
import ViewLink.Proofs.Command.Grammar
import ViewLink.Proofs.Command.Opaque
import ViewLink.Proofs.Command.Violations
import ViewLink.Proofs.Config.Overlay
import ViewLink.Proofs.Config.ScriptNames
import ViewLink.Proofs.Config.Validation
import ViewLink.Proofs.Dispatcher.Arrival
import ViewLink.Proofs.Dispatcher.Failure
import ViewLink.Proofs.Dispatcher.Lines
import ViewLink.Proofs.Dispatcher.Numbering
import ViewLink.Proofs.Dispatcher.Registry
import ViewLink.Proofs.Dispatcher.Relay
import ViewLink.Proofs.Dispatcher.Run
import ViewLink.Proofs.Except
import ViewLink.Proofs.Files.Path
import ViewLink.Proofs.Files.Tree
import ViewLink.Proofs.Json.Brackets
import ViewLink.Proofs.Json.Grammar
import ViewLink.Proofs.Json.Members
import ViewLink.Proofs.Json.NumberText
import ViewLink.Proofs.Json.Numerals
import ViewLink.Proofs.Json.Printed
import ViewLink.Proofs.Json.Reader
import ViewLink.Proofs.Json.Record
import ViewLink.Proofs.Json.RoundTrip
import ViewLink.Proofs.Json.StringText
import ViewLink.Proofs.Json.Strings
import ViewLink.Proofs.Text.Utf8
import ViewLink.Proofs.Transport.Pipe
import ViewLink.Proofs.Transport.Recovery
import ViewLink.Proofs.Transport.Room
import ViewLink.Proofs.Wire.Delimited
import ViewLink.Proofs.Wire.Limit
import ViewLink.Proofs.Wire.NullList
import ViewLink.Proofs.Wire.Pair
import ViewLink.Proofs.Wire.PairText
import ViewLink.Proofs.Wire.ResultLines
import ViewLink.Proofs.Wire.RoundTrip
import ViewLink.Proofs.Wire.Torn
import ViewLink.Text.Alphanumeric
import ViewLink.Text.Blank
import ViewLink.Text.Quoted
import ViewLink.Text.Unshown
import ViewLink.Text.Utf8
import ViewLink.Toml.Node
import ViewLink.Toml.Reader
import ViewLink.Toml.Scalar
import ViewLink.Toml.Scan
import ViewLink.Transport.Basic
import ViewLink.Transport.Pipe
import ViewLink.Transport.Recorder
import ViewLink.Wire.Batch
import ViewLink.Wire.Pair
