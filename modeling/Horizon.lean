import Horizon.Document.Json.Reader
import Horizon.Host.Tree
import Horizon.Bus.Window
import Horizon.Schema.Result
import Horizon.Main
import Horizon.Proofs.Bus.History
import Horizon.Proofs.DateTime.Interleaving
import Horizon.Proofs.DateTime.Race
import Horizon.Proofs.DateTime.History
import Horizon.Proofs.Text.Numeral
import Horizon.Proofs.Word.Fields
import Horizon.Proofs.Text.Spelling
import Horizon.Proofs.ResultCode.Packing
import Horizon.Proofs.Version.Spelling
import Horizon.Proofs.Version.RoundTrip
import Horizon.Proofs.Duration.RoundTrip
import Horizon.Proofs.Binary.Bits
import Horizon.Proofs.Binary.Shortest
import Horizon.Proofs.Toml.Number
import Horizon.Proofs.Toml.Scalar
import Horizon.Proofs.Toml.Lines
import Horizon.Proofs.Toml.RoundTrip
import Horizon.Proofs.Toml.Integers
import Horizon.Proofs.Document.Carry
import Horizon.Proofs.Settings.RoundTrip
import Horizon.Proofs.Console.Pages
import Horizon.Proofs.Console.Queries
import Horizon.Proofs.Console.Updates
import Horizon.Proofs.Ticks.Runs
import Horizon.Proofs.Usage.Accounting
import Horizon.Proofs.Bus.Agreement
import Horizon.Proofs.Report.Rendering
import Horizon.Proofs.Json.Number
import Horizon.Proofs.Json.Quoted
import Horizon.Proofs.Json.Reading
import Horizon.Proofs.Document.Order
import Horizon.Proofs.Document.Survival
import Horizon.Proofs.Document.Partial
import Horizon.Proofs.Schema.RoundTrip
import Horizon.Proofs.Settings.Partial
import Horizon.Proofs.Version.Canonical
import Horizon.Proofs.CommandLine.Number
import Horizon.Proofs.Layout.Translation
import Horizon.Proofs.Clock.Conversion
import Horizon.Proofs.Clock.Drift
import Horizon.Proofs.History
import Horizon.Proofs.Console.Operations
import Horizon.Proofs.VersionRecord.Reading
import Horizon.Proofs.VersionRecord.Memory
import Horizon.Proofs.Version.Order
import Horizon.Proofs.Usage.Query
import Horizon.Proofs.Usage.Regions
import Horizon.Proofs.Probe.Printing
import Horizon.Proofs.Probe.Ticks
import Horizon.Proofs.Layout.Interval
import Horizon.Proofs.WallTime.Elapsed
