import RootObject.Action
import RootObject.Base
import RootObject.CommandLine.Arguments
import RootObject.CommandLine.Command
import RootObject.CommandLine.Directory
import RootObject.CommandLine.Grammar
import RootObject.CommandLine.Help
import RootObject.CommandLine.Program
import RootObject.CommandLine.UsageError
import RootObject.Config
import RootObject.Config.Printer
import RootObject.Config.Reader
import RootObject.Console
import RootObject.Dispatch.Overrides
import RootObject.Dispatch.Script
import RootObject.Dispatch.Table
import RootObject.Fault
import RootObject.Host
import RootObject.Input.Buffer
import RootObject.Input.Source
import RootObject.Input.Stream
import RootObject.IoError
import RootObject.Json.Cursor
import RootObject.Json.Number
import RootObject.Json.Quote
import RootObject.Json.Record
import RootObject.Json.Skip
import RootObject.Json.Text
import RootObject.Literal
import RootObject.Log.Event
import RootObject.Log.Line
import RootObject.Log.Settings
import RootObject.Main
import RootObject.Method
import RootObject.Output.Sink
import RootObject.Process
import RootObject.Session
import RootObject.Text.Decimal
import RootObject.Text.Printable
import RootObject.Text.Quoted
import RootObject.Text.Shortest
import RootObject.Text.Terminal
import RootObject.Text.Utf8
import RootObject.Proofs.Input.Arrivals
import RootObject.Proofs.Input.Scans
import RootObject.Proofs.Input.Rounds
import RootObject.Proofs.Text.Utf8
import RootObject.Proofs.Action
import RootObject.Proofs.Input.Bytes
import RootObject.Proofs.Input.Operations
import RootObject.Proofs.Console.Reading
import RootObject.Proofs.Literal.Grammar
import RootObject.Proofs.Console.Pieces
import RootObject.Proofs.Session.Runs
import RootObject.Proofs.Session.Sharing
import RootObject.Proofs.Dispatch.Lookup
import RootObject.Proofs.Input.Demand
import RootObject.Proofs.Input.Doubling
import RootObject.Proofs.Console.Demands
import RootObject.Proofs.Console.Accounting
import RootObject.Proofs.CommandLine.Leads
import RootObject.Proofs.Console.Writing
import RootObject.Proofs.Text.Decimal
import RootObject.Proofs.CommandLine.Echo
import RootObject.Proofs.CommandLine.Dispatch
import RootObject.Proofs.Console.Alike
import RootObject.Proofs.Dispatch.Alike
import RootObject.Proofs.Session.Alike
import RootObject.Proofs.Session.Invariants
import RootObject.Proofs.Session.Small
import RootObject.Proofs.CommandLine.Effort
import RootObject.Proofs.Console.Delivery
import RootObject.Proofs.Console.Lines
import RootObject.Proofs.Console.Values
import RootObject.Proofs.Json.Text
import RootObject.Proofs.Json.Number
import RootObject.Proofs.Json.Numeral
import RootObject.Proofs.Json.Skip
import RootObject.Proofs.Json.Record
import RootObject.Proofs.Json.Merge
import RootObject.Proofs.Config.RoundTrip
import RootObject.Proofs.Config.Partial
import RootObject.Proofs.Session.Inherited
import RootObject.Proofs.Console.Tokens
import RootObject.Proofs.Input.Reads
import RootObject.Proofs.Console.Reads
import RootObject.Proofs.Input.Halting
import RootObject.Proofs.Console.Pulls
import RootObject.Proofs.Input.Breakdown
import RootObject.Proofs.Console.Breakdown
import RootObject.Proofs.Dispatch.Breakdown
import RootObject.Proofs.Session.Breakdown
import RootObject.Proofs.Dispatch.Ownership
import RootObject.Proofs.Console.Gate
import RootObject.Proofs.Session.Frame
import RootObject.Proofs.Console.Exhaustion
import RootObject.Proofs.CommandLine.Again
import RootObject.Proofs.Input.Failures
import RootObject.Proofs.Console.Logs
import RootObject.Proofs.Console.Faults
import RootObject.Proofs.Session.Logs
