import CaptureControl.Text.Blank
import CaptureControl.Text.Digit
import CaptureControl.Text.LetterCase
import CaptureControl.Text.Split
import CaptureControl.Text.Quoted
import CaptureControl.Text.Utf8
import CaptureControl.Text.Content
import CaptureControl.Decimal.RealText
import CaptureControl.Decimal.Numeral
import CaptureControl.KeyedList
import CaptureControl.Fault
import CaptureControl.Identifier
import CaptureControl.Status
import CaptureControl.Statement
import CaptureControl.Rows
import CaptureControl.Tally
import CaptureControl.Session
import CaptureControl.Rehearsal.World
import CaptureControl.Waiting
import CaptureControl.Gateway
import CaptureControl.Registration
import CaptureControl.Monitor
import CaptureControl.Settings.Environment
import CaptureControl.Station
import CaptureControl.CommandLine.Run
import CaptureControl.Main
import CaptureControl.Proofs.Actions
import CaptureControl.Proofs.Polling
import CaptureControl.Proofs.Pacing
import CaptureControl.Proofs.Deadlines
import CaptureControl.Proofs.Connections
import CaptureControl.Proofs.Statements
import CaptureControl.Proofs.Clearing
import CaptureControl.Proofs.Starting
import CaptureControl.Proofs.Exchanges
import CaptureControl.Proofs.Committing
import CaptureControl.Proofs.DriverFaults
import CaptureControl.Proofs.Composition
import CaptureControl.Proofs.Blindness
import CaptureControl.Proofs.Renewing
import CaptureControl.Proofs.Making
import CaptureControl.Proofs.Halting
import CaptureControl.Proofs.Cancelling
import CaptureControl.Proofs.Naming
import CaptureControl.Proofs.Rendering
import CaptureControl.Proofs.Keeping
import CaptureControl.Proofs.Incidents
import CaptureControl.Proofs.Looks
import CaptureControl.Proofs.Orders
import CaptureControl.Proofs.Achieving
import CaptureControl.Proofs.ExitStatus
import CaptureControl.Proofs.Sending
import CaptureControl.Proofs.Misconfiguring
import CaptureControl.Proofs.Rejecting
import CaptureControl.Proofs.Stranding
import CaptureControl.Proofs.Resting
import CaptureControl.Proofs.Tallying
import CaptureControl.Proofs.Bookkeeping
import CaptureControl.Proofs.Scraping
import CaptureControl.Proofs.Conserving
import CaptureControl.Proofs.Extending
import CaptureControl.Proofs.Nesting
import CaptureControl.Proofs.Entries
import CaptureControl.Proofs.Reporting
import CaptureControl.Proofs.ObjectNaming
import CaptureControl.Proofs.Matching
import CaptureControl.Proofs.Lowering
import CaptureControl.Proofs.Slugging
import CaptureControl.Proofs.Canonical
import CaptureControl.Proofs.Exporting
import CaptureControl.Proofs.Spelling
import CaptureControl.Proofs.Classifying
import CaptureControl.Proofs.Decoding
import CaptureControl.Proofs.Representing
import CaptureControl.Proofs.ConnectionString
import CaptureControl.Proofs.Budgeting
import CaptureControl.Proofs.Loading
import CaptureControl.Proofs.Dispatching
import CaptureControl.Proofs.Registering
