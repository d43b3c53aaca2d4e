import Stockroom.Command.Argument
import Stockroom.Command.Basic
import Stockroom.Command.Grammar
import Stockroom.Command.Matching
import Stockroom.Command.Parse
import Stockroom.Command.Quoting
import Stockroom.Console.Basic
import Stockroom.Console.Screen
import Stockroom.Console.Stage
import Stockroom.Disk.Basic
import Stockroom.Disk.Path
import Stockroom.Fault
import Stockroom.History
import Stockroom.Inventory.Basic
import Stockroom.Inventory.Call
import Stockroom.Inventory.Execute
import Stockroom.Inventory.Limit
import Stockroom.Inventory.Question
import Stockroom.Inventory.Refusal
import Stockroom.Inventory.Warehouse
import Stockroom.Launch.Machine
import Stockroom.Launch.Program
import Stockroom.Log.Basic
import Stockroom.Main
import Stockroom.Output
import Stockroom.Packages.Arguments
import Stockroom.Packages.Basic
import Stockroom.Packages.Config
import Stockroom.Packages.Log.Directive
import Stockroom.Packages.Log.Filter
import Stockroom.Packages.Log.Pattern
import Stockroom.Packages.Standard
import Stockroom.Packages.Toml.Document
import Stockroom.Packages.Toml.Node
import Stockroom.Packages.Toml.Quoted
import Stockroom.Packages.Toml.Scalar
import Stockroom.Packages.Usage
import Stockroom.Packages.Visible
import Stockroom.Proofs.Acts
import Stockroom.Proofs.Additive
import Stockroom.Proofs.Batches
import Stockroom.Proofs.ByteLines
import Stockroom.Proofs.Catalog
import Stockroom.Proofs.Checking
import Stockroom.Proofs.Confirmation
import Stockroom.Proofs.Consistent
import Stockroom.Proofs.Conversation
import Stockroom.Proofs.Cuts
import Stockroom.Proofs.Executed
import Stockroom.Proofs.Fed
import Stockroom.Proofs.Files
import Stockroom.Proofs.Frame
import Stockroom.Proofs.Integrity
import Stockroom.Proofs.Interference
import Stockroom.Proofs.Invariant
import Stockroom.Proofs.Ledger
import Stockroom.Proofs.Limited
import Stockroom.Proofs.Listings
import Stockroom.Proofs.Locality
import Stockroom.Proofs.Lossless
import Stockroom.Proofs.Matching
import Stockroom.Proofs.Movement
import Stockroom.Proofs.Notice
import Stockroom.Proofs.Numbers
import Stockroom.Proofs.Outcome
import Stockroom.Proofs.Parsed
import Stockroom.Proofs.Question
import Stockroom.Proofs.Quoted
import Stockroom.Proofs.Recorded
import Stockroom.Proofs.Restocked
import Stockroom.Proofs.RoundTrip
import Stockroom.Proofs.Settled
import Stockroom.Proofs.Shown
import Stockroom.Proofs.SplitText
import Stockroom.Proofs.StockDecision
import Stockroom.Proofs.StockEdit
import Stockroom.Proofs.StockSteps
import Stockroom.Proofs.Stopped
import Stockroom.Proofs.Surplus
import Stockroom.Proofs.Tokens
import Stockroom.Proofs.Transcript
import Stockroom.Proofs.Validated
import Stockroom.Proofs.WellFormed
import Stockroom.Proofs.Words
import Stockroom.Proofs.Written
import Stockroom.Session
import Stockroom.Settings.Basic
import Stockroom.Settings.Flags
import Stockroom.Text.Alphanumeric
import Stockroom.Text.Blank
import Stockroom.Text.Cut
import Stockroom.Text.Decimal
import Stockroom.Text.Line
import Stockroom.Text.Pieces
import Stockroom.Text.Upper
import Stockroom.Text.Utf8
import Stockroom.Proofs.Machine
import Stockroom.Text.Lower
