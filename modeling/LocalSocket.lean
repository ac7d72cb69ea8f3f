import LocalSocket.Channel.Open
import LocalSocket.Channel.Registration
import LocalSocket.Kernel.Session
import LocalSocket.Listener
import LocalSocket.Script.Contract
import LocalSocket.Script.Session
import LocalSocket.Settings.Arguments
import LocalSocket.Settings.Json
import LocalSocket.Proofs.Run
import LocalSocket.Proofs.Discipline
import LocalSocket.Proofs.Discipline.Close
import LocalSocket.Proofs.Discipline.Operations
import LocalSocket.Proofs.Coherence
import LocalSocket.Proofs.History
import LocalSocket.Proofs.Invariant
import LocalSocket.Proofs.Play
import LocalSocket.Proofs.AsynchronousClose
import LocalSocket.Proofs.Release
import LocalSocket.Proofs.Open
import LocalSocket.Proofs.Windows
import LocalSocket.Proofs.Carrying
import LocalSocket.Proofs.Accounting
import LocalSocket.Proofs.Records
import LocalSocket.Proofs.Refusal
import LocalSocket.Proofs.Refusal.Operations
import LocalSocket.Proofs.Solo
import LocalSocket.Proofs.Failure
import LocalSocket.Proofs.Failure.Operations
import LocalSocket.Proofs.Maintaining
import LocalSocket.Proofs.Lifecycle
import LocalSocket.Proofs.Lifecycle.Operations
import LocalSocket.Proofs.Lifecycle.Ascent
import LocalSocket.Proofs.Conversation
import LocalSocket.Proofs.OptionValues
import LocalSocket.Proofs.Ordinary
import LocalSocket.Proofs.Bookkeeping
import LocalSocket.Proofs.Bookkeeping.Operations
import LocalSocket.Proofs.Bookkeeping.Books
import LocalSocket.Proofs.Outlook
import LocalSocket.Proofs.Registrations
import LocalSocket.Proofs.Addresses
import LocalSocket.Proofs.HalfClose
import LocalSocket.Proofs.HalfClose.Transfers
import LocalSocket.Proofs.HalfClose.Meanwhile
import LocalSocket.Proofs.Alike
import LocalSocket.Proofs.Alike.Operations
import LocalSocket.Proofs.HalfClose.Directions
import LocalSocket.Proofs.Utf8
import LocalSocket.Proofs.AddressText
import LocalSocket.Proofs.LockOrder
import LocalSocket.Proofs.LockOrder.Operations
import LocalSocket.Proofs.LockOrder.Waiting
import LocalSocket.Proofs.Closing
import LocalSocket.Proofs.Closing.Operations
import LocalSocket.Proofs.Closing.Stages
import LocalSocket.Proofs.Closing.Record
import LocalSocket.Proofs.Closing.Replies
import LocalSocket.Proofs.Closing.Attempts
import LocalSocket.Proofs.Closing.Signals
import LocalSocket.Proofs.Vectored
import LocalSocket.Proofs.Journal
import LocalSocket.Proofs.Pending
import LocalSocket.Proofs.Applying
import LocalSocket.Proofs.ReportedRecords
import LocalSocket.Proofs.Reaching
import LocalSocket.Proofs.Interruptions
import LocalSocket.Proofs.Attempt
import LocalSocket.Proofs.Alone
import LocalSocket.Proofs.Ending
import LocalSocket.Proofs.Connecting
import LocalSocket.Proofs.Connecting.Alone
import LocalSocket.Proofs.Connecting.Ending
import LocalSocket.Proofs.Connecting.Alike
import LocalSocket.Proofs.Persisting
import LocalSocket.Proofs.Progress
import LocalSocket.Proofs.Comparing
import LocalSocket.Proofs.Listening
import LocalSocket.Proofs.CutShort
import LocalSocket.Proofs.CutShort.Operations
import LocalSocket.Proofs.CutShort.Telling
import LocalSocket.Proofs.Timeouts
