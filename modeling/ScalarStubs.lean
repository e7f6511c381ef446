import ScalarStubs.CommandLine.Command
import ScalarStubs.CommandLine.Grammar
import ScalarStubs.CommandLine.Program
import ScalarStubs.CommandLine.Usage
import ScalarStubs.ErrorPolicy
import ScalarStubs.Files.Basic
import ScalarStubs.Files.Tree
import ScalarStubs.Fragment
import ScalarStubs.IdlType
import ScalarStubs.KindTable
import ScalarStubs.Layout.Basic
import ScalarStubs.Layout.Rounding
import ScalarStubs.Listing
import ScalarStubs.Main
import ScalarStubs.Named
import ScalarStubs.Printer.Basic
import ScalarStubs.Printer.Script
import ScalarStubs.Proofs.Layout.Aliases
import ScalarStubs.Proofs.Layout.Growth
import ScalarStubs.Proofs.Layout.Order
import ScalarStubs.Proofs.Layout.Placing
import ScalarStubs.Proofs.Layout.Rounding
import ScalarStubs.Proofs.Layout.Separation
import ScalarStubs.Proofs.Printer.Outage
import ScalarStubs.Proofs.Printer.Printed
import ScalarStubs.Proofs.Printer.Typewriter
import ScalarStubs.Proofs.Sink.Delivery
import ScalarStubs.Rendering
import ScalarStubs.Scalar
import ScalarStubs.Settings.Basic
import ScalarStubs.Settings.File
import ScalarStubs.Sink.Basic
import ScalarStubs.Sink.Buffer
import ScalarStubs.Sink.Metered
import ScalarStubs.Statement
import ScalarStubs.Text.Blank
import ScalarStubs.Text.Choice
import ScalarStubs.Text.ControlSequence
import ScalarStubs.Text.Json
import ScalarStubs.Text.Lines
import ScalarStubs.Text.Numeral
import ScalarStubs.Text.Padding
import ScalarStubs.Text.Utf8
import ScalarStubs.Toml.Document
import ScalarStubs.Toml.Key
import ScalarStubs.Toml.Moment
import ScalarStubs.Toml.Number
import ScalarStubs.Toml.Quotation.Basic
import ScalarStubs.Toml.Quotation.Written
import ScalarStubs.Toml.Reader
import ScalarStubs.Toml.Table
import ScalarStubs.Toml.Value
import ScalarStubs.Proofs.Rendering.Basic
import ScalarStubs.Proofs.Rendering.Fields
import ScalarStubs.Proofs.Rendering.Depth
import ScalarStubs.Proofs.Rendering.Distinction
import ScalarStubs.Proofs.Rendering.Listing
import ScalarStubs.Proofs.Settings.RoundTrip
import ScalarStubs.Proofs.Layout.Towers
import ScalarStubs.Proofs.Printer.Drift
import ScalarStubs.Proofs.Printer.Leftovers
import ScalarStubs.Proofs.Printer.Shapes
import ScalarStubs.Proofs.Settings.StatusCheck
