import Journal.Consumer
import Journal.Dispatch
import Journal.Sql.Checkpoint
import Journal.Sql.Command
import Journal.Simulation.Reply
import Journal.Simulation.Server
import Journal.Simulation.Step

/-!
# Sessions on a server

The same requests as in a session in memory are put to the stores on a database, which run on a
server that can be made to fail. There is one consumer, whose handler is a tallying projection.
Beside the replies the names of the statements are reported that each step took.
-/

namespace Journal.Simulation

open Journal.Sql (calls)

namespace Remote

/-! ## Requests -/

/-- Answer what a dispatch asks for, and note how long each history was that was decided on. No time
passes on a server, so that it makes no difference what chance gives. -/
def answerDispatch (d : Decider) :
    (q : Dispatch.Ask) → List Nat → Program calls (Dispatch.calls.Answer q × List Nat)
  | .find k, seen => (·, seen) <$> (Sql.lookup k).run
  | .history a, seen => (·, seen) <$> (Sql.history a).run
  | .decide history, seen => return (d.decide history, seen ++ [history.length])
  | .commit c, seen => (·, seen) <$> (Sql.commit c).run
  | .chance _, seen => return ((0 : Float), seen)
  | .pause _, seen => return ((), seen)

def ofStore {α : Type} (shown : α → Reply) (w : Sql.Work StoreError α) : Program calls Reply :=
  .ofStore shown <$> w.run

def ofCheckpoints {α : Type} (shown : α → Reply) (w : Sql.Work CheckpointError α) :
    Program calls Reply :=
  .ofCheckpoints shown <$> w.run

def request (p : Policy) : StoreRequest → Program calls Reply
  | .append a expected drafts => ofStore .events (Sql.append a expected drafts)
  | .read after limit f s => ofStore .page (Sql.read p after limit f s)
  | .history a => ofStore .events (Sql.history a)
  | .latest a => ofStore .number (Sql.latest a)
  | .head => ofStore .number Sql.head
  | .find k => ofStore .record (Sql.lookup k)
  | .commit k hash a expected drafts r =>
    .ofCommit <$> (Sql.commit (.make k hash a expected drafts r.respond)).run
  | .dispatch q d r b => do
    let (result, decisions) ← (Journal.dispatch b q r.respond).interpret (answerDispatch d) []
    return .dispatched result decisions 0
  | .position consumer => ofCheckpoints .number (Sql.position consumer)
  | .advance consumer position => ofCheckpoints (fun () => .done) (Sql.advance consumer position)
  | .reset consumer => ofCheckpoints (fun () => .done) (Sql.reset consumer)
  | .list => ofCheckpoints .checkpoints Sql.checkpoints
  | .lag head => ofCheckpoints (fun cs => .lags (cs.map (·.lagBehind head))) Sql.checkpoints

def guard : GuardRequest → Program calls Reply
  | .reserve k hash => ofStore .verdict (Sql.reserve k hash)
  | .record k hash r => ofStore (fun () => .done) (Sql.record k hash r)
  | .release k hash => ofStore (fun () => .done) (Sql.release k hash)
  | .lookup k => ofStore .record (Sql.lookup k)
  | .purge asked => ofStore .number (Sql.purge asked)

/-! ## The consumer -/

def answerConsumer (name : String) (p : Policy) :
    (q : Consumer.Ask) → View Tally → Program calls (Consumer.calls.Answer q × View Tally)
  | .acquire, v | .release, v | .enter _, v => return ((), v)
  | .position, v => (·, v) <$> (Sql.position name).run
  | .filter, v => return (v.filter, v)
  | .read after limit f, v => (·, v) <$> (Sql.read p after (some limit) f .internal).run
  | .apply e, v => return v.apply e
  | .flush, v => return v.flush
  | .advance position, v => (·, v) <$> (Sql.advance name position).run
  | .reset, v => (·, v) <$> (Sql.reset name).run
  | .clear, v => return v.clear

def rounds : Nat := 1000000

inductive Order
  | runOnce
  | catchUp
  | rebuild
  deriving DecidableEq, Repr

def Order.program (name : String) (batchSize : Nat) : Order → Program Consumer.calls Reply
  | .runOnce => .ofConsumer .progress <$> Consumer.runOnce name batchSize
  | .catchUp => (fun r => .ofConsumer .number (r.getD (.error .crashed))) <$> Consumer.catchUp name
    batchSize rounds 0
  | .rebuild => .ofConsumer (fun () => .done) <$> Consumer.rebuild name

/-! ## Steps -/

inductive Step
  | request (r : StoreRequest)
  | guard (r : GuardRequest)
  | order (o : Order)
  | ping
  | migrate
  | clock (wall : Instant)
  | intrude (i : Intrusion)
  | rows (t : TableName)
  | hook (name : String) (h : Hook) (times : Nat)
  | refused (e : StoreError)

inductive Result
  | reply (r : Reply)
  | events (rows : List Sql.EventRow)
  | records (rows : List Sql.RecordRow)
  | checkpoints (rows : List Sql.CheckpointRow)
  | migrations (rows : List Sql.Migration)

/-- What is reported of a step: what it came to, the names of the statements that it took, and the
projection of the consumer afterwards. The statements show what a failure was met by, which the
reply alone does not. -/
structure Report where
  result : Result
  statements : List String
  projection : Except String (Tally × EventId)

structure Site where
  server : Server
  policy : Policy
  batchSize : Nat
  view : View Tally

namespace Site

def run {α : Type} (s : Site) (p : Program calls α) : α × Site :=
  let (a, server) := p.run Server.answer s.server
  (a, { s with server })

def rows (s : Site) : TableName → Result
  | .events => .events s.server.database.tables.events
  | .records => .records s.server.database.tables.records.values
  | .checkpoints => .checkpoints s.server.database.tables.checkpoints.values
  | .migrations => .migrations s.server.database.tables.migrations

def take (s : Site) : Step → Result × Site
  | .request r =>
    let (reply, s) := s.run (Remote.request s.policy r)
    (.reply reply, s)
  | .guard r =>
    let (reply, s) := s.run (Remote.guard r)
    (.reply reply, s)
  | .order o =>
    let program :=
      (o.program s.view.name s.batchSize).interpret (answerConsumer s.view.name s.policy) s.view
    let ((reply, view), s) := s.run program
    (.reply reply, { s with view })
  | .ping =>
    let (reply, s) := s.run (ofStore (fun () => .done) Sql.ping)
    (.reply reply, s)
  | .migrate =>
    let (reply, s) := s.run (ofStore (fun () => .done) Sql.migrate)
    (.reply reply, s)
  | .clock wall => (.reply (.instant wall), { s with server := { s.server with wall } })
  | .intrude i => (.reply .done, { s with server := s.server.intrude i })
  | .rows t => (s.rows t, s)
  | .hook name h times =>
    let (waiting, server) := s.server.layHooks name h times
    (.reply (.number waiting), { s with server })
  | .refused e => (.reply (.failed (.store e)), s)

def reports : Site → List Step → List Report
  | _, [] => []
  | s, step :: rest =>
    let (result, s) := s.take step
    let report : Report := ⟨result, s.server.trace, s.view.read.map fun p => (p.state, p.watermark)⟩
    report :: reports { s with server := { s.server with trace := [] } } rest

end Site

end Remote

end Journal.Simulation
