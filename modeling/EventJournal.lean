import EventJournal.Table
import EventJournal.Json
import EventJournal.Shape
import EventJournal.Text.Blank
import EventJournal.TimeUnit
import EventJournal.Text.Decimal
import EventJournal.Text.Invisible
import EventJournal.Text.Place
import EventJournal.Text.Quoted
import EventJournal.Duration
import EventJournal.Uuid
import EventJournal.Timestamp
import EventJournal.Failure
import EventJournal.Journal.Operation
import EventJournal.Journal.Error
import EventJournal.Projectable
import EventJournal.Routing.Pattern
import EventJournal.Routing.Router
import EventJournal.Confirmations
import EventJournal.Dispatch.Config
import EventJournal.Supervision.RetryPolicy
import EventJournal.Event.Basic
import EventJournal.Event.Registry
import EventJournal.Event.Plain
import EventJournal.Account.Event
import EventJournal.Projection.Basic
import EventJournal.Projection.Scripted
import EventJournal.Account.Balance
import EventJournal.Dispatch.Error
import EventJournal.Supervision.Decision
import EventJournal.Dispatch.Site
import EventJournal.Dispatch.Dispatcher
import EventJournal.Dispatch.Worker
import EventJournal.Host.Rhythm
import EventJournal.Host.Basic
import EventJournal.Host.Work
import EventJournal.Proofs.Journal.Commit
import EventJournal.Proofs.Journal.Index
import EventJournal.Proofs.Journal.History
import EventJournal.Proofs.Confirmations
import EventJournal.Proofs.Dispatch.Handling
import EventJournal.Proofs.Dispatch.Cycle
import EventJournal.Proofs.Dispatch.Watch
import EventJournal.Proofs.Dispatch.Order
import EventJournal.Proofs.Dispatch.Delivery
import EventJournal.Proofs.Journal.Transcript
import EventJournal.Proofs.Journal.Visibility
import EventJournal.Proofs.Journal.Concurrency
import EventJournal.Proofs.Dispatch.Alike
import EventJournal.Proofs.Routing.Remembered
import EventJournal.Proofs.Routing.Wildcard
import EventJournal.Proofs.Dispatch.Course
import EventJournal.Proofs.Dispatch.Schedule
import EventJournal.Proofs.Journal.Isolation
import EventJournal.Proofs.Confirmations.Overdue
import EventJournal.Proofs.Confirmations.Tracking
import EventJournal.Proofs.Journal.Readers
import EventJournal.Proofs.Dispatch.Verdict
import EventJournal.Proofs.Dispatch.Tally
import EventJournal.Proofs.Dispatch.Retry
import EventJournal.Proofs.Journal.Replay
import EventJournal.Proofs.Journal.Tombstone
import EventJournal.Proofs.Text.Decimal
import EventJournal.Proofs.Timestamp
import EventJournal.Proofs.Uuid
import EventJournal.Proofs.Shape.Record
import EventJournal.Proofs.Shape.RoundTrip
import EventJournal.Proofs.Dispatch.Identity
import EventJournal.Proofs.Event.Registry
import EventJournal.Proofs.Dispatch.Errands
import EventJournal.Proofs.Dispatch.Batch
import EventJournal.Proofs.Dispatch.Restart
import EventJournal.Proofs.Dispatch.Accounts
import EventJournal.Proofs.Dispatch.Redispatch
import EventJournal.Proofs.Dispatch.Fairness
import EventJournal.Proofs.Account.Upcast
import EventJournal.Proofs.Routing.Reasons
import EventJournal.Proofs.Supervision.Backoff
import EventJournal.Proofs.Text.Numeral
import EventJournal.Proofs.Dispatch.Variables
import EventJournal.Proofs.Supervision.GivingUp
import EventJournal.Proofs.Journal.Written
