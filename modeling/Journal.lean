import Journal.Codec.Consumer
import Journal.Codec.Guard
import Journal.Codec.Read
import Journal.Codec.Reply
import Journal.Codec.Row
import Journal.Consumer.Polling
import Journal.Dispatch
import Journal.Guard.Hash
import Journal.Json.Reader
import Journal.Proofs.Log.Order
import Journal.Proofs.Store.Operation
import Journal.Settings
import Journal.Simulation.Attempts
import Journal.Simulation.Remote
import Journal.Simulation.Session
import Journal.Store
import Journal.Proofs.Store.Gapless
import Journal.Proofs.Read.Scope
import Journal.Proofs.Log.Stretch
import Journal.Proofs.Read.Paging
import Journal.Proofs.Consumer.Run
import Journal.Proofs.Consumer.Fetch
import Journal.Proofs.Consumer.Outline
import Journal.Proofs.Consumer.Delivery
import Journal.Proofs.Projection.Fold
import Journal.Proofs.Projection.Faithful
import Journal.Proofs.Read.Confinement
import Journal.Proofs.Guard.Lookup
import Journal.Proofs.Store.Once
import Journal.Proofs.Dispatch.Stage
import Journal.Proofs.Dispatch.Account
import Journal.Proofs.Dispatch.Race
import Journal.Proofs.Guard.Automaton
import Journal.Proofs.Sql.Row
import Journal.Proofs.Sql.Work
import Journal.Proofs.Sql.ReadBack
import Journal.Proofs.Sql.Writing
import Journal.Proofs.Sql.Faults
import Journal.Proofs.Sql.Mirror
import Journal.Proofs.Sql.Twins
import Journal.Proofs.Sql.Session
import Journal.Proofs.Store.Poison
import Journal.Proofs.Sql.Guard
import Journal.Proofs.Sql.Contention
import Journal.Proofs.Consumer.Cycle
import Journal.Proofs.Rebuild.Course
import Journal.Proofs.Rebuild.Stage
import Journal.Proofs.Rebuild.Scene
import Journal.Proofs.Rebuild.Report
import Journal.Proofs.Event.Secret
import Journal.Proofs.Event.WellFormed
import Journal.Proofs.Store.Admission
import Journal.Proofs.Calls
import Journal.Proofs.Checkpoint.Positions
import Journal.Proofs.Store.Atomic
import Journal.Proofs.Sql.Checkpoint
import Journal.Proofs.Sql.Reservation
import Journal.Proofs.Store.Append
import Journal.Proofs.Consumer.CatchUp
import Journal.Proofs.Projection.Redelivery
import Journal.Proofs.Projection.Pin
import Journal.Proofs.Guard.Retention
import Journal.Proofs.Guard.Isolation
import Journal.Proofs.Decimal.Interval
import Journal.Proofs.Decimal.Double
import Journal.Proofs.Decimal.Finite
import Journal.Proofs.Json.Numeral
import Journal.Proofs.Json.Text
import Journal.Proofs.Json.Canonical
import Journal.Proofs.Guard.Request
import Journal.Proofs.Projection.Registration
import Journal.Proofs.Backoff.Attempts
import Journal.Proofs.Consumer.Signal
import Journal.Proofs.Consumer.Polling
import Journal.Proofs.Decimal.Whole
import Journal.Proofs.Settings.Kinds
import Journal.Proofs.Settings.Accepted
import Journal.Proofs.Time.Calendar
import Journal.Proofs.Time.Text
import Journal.Proofs.Codec.Field
import Journal.Proofs.Codec.Exchanged
