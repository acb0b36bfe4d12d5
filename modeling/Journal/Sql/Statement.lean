import Journal.Program
import Journal.Read
import Journal.Sql.Error
import Journal.Sql.Row

/-!
# Statements

Everything that is said to a database is one of these statements, and a store on a database is a
program that executes them. A statement answers with rows, or with the number of rows that it
changed.

`Work` is a program on a database that can fail. Work inside `transaction` is kept as a whole or not
at all: only a `commit` that succeeds keeps it, and what has failed before is given up.
-/

namespace Journal.Sql

/-- What events are read from the table of events. A filter that is not set leaves its column open;
the excluded values are those of the hidden kinds, so that the database leaves out what the reader
must not see before it counts rows. -/
structure Query where
  after : Int
  org : Option Uuid
  kind : Option String
  aggregateId : Option String
  type : Option String
  excluded : List String
  most : Nat
  deriving DecidableEq

/-- The query of an access. It asks for one event more than the page holds: that row is never shown,
and being there it says that there are more. -/
def Query.ofAccess (a : Access) : Query where
  after := toColumn a.after
  org := a.filter.org.map (·.uuid)
  kind := a.filter.kind.map (·.name)
  aggregateId := a.filter.aggregateId
  type := a.filter.type
  excluded := a.excluded.map (·.name)
  most := a.limit + 1

/-- A statement with its parameters, named for what it does and not for its text. Those that insert
differ in what they do when there is a row already: a reservation gives way to it, a response
completes it if it is a reservation of the same request, and a checkpoint replaces it unless it is
further. The lock is held until the transaction ends, and a snapshot lets a transaction read
only. -/
inductive Statement
  | start
  | commit
  | rollback
  | readSnapshot
  | lock (key : Int)
  | latest (kind aggregateId : String)
  | insert (c : EventColumns)
  | head
  | read (q : Query)
  | history (kind aggregateId : String)
  | reserve (k : Guard.Key) (hash : String)
  | fetch (k : Guard.Key)
  | record (k : Guard.Key) (hash : String) (status : Int) (body : Option Json)
  | release (k : Guard.Key) (hash : String)
  | purge (age : Duration)
  | complete (k : Guard.Key) (hash : String) (status : Int) (body : Option Json)
  | position (consumer : String)
  | advance (consumer : String) (position : Int)
  | reset (consumer : String)
  | checkpoints
  | ping
  | migrate
  deriving DecidableEq

/-- What a statement answers with: rows of numbers, instants, events, records or checkpoints, or the
number of rows that it changed. Together with `Shape.Answer` it makes the answer to a statement as
typed as the statement. -/
inductive Shape
  | numbers
  | instants
  | events
  | records
  | checkpoints
  | count
  deriving DecidableEq, Repr

def Shape.Answer : Shape → Type
  | .numbers => List (Option Int)
  | .instants => List (Option Instant)
  | .events => List EventRow
  | .records => List RecordRow
  | .checkpoints => List CheckpointRow
  | .count => Nat

namespace Statement

def shape : Statement → Shape
  | .latest .. | .insert _ | .head | .position _ => .numbers
  | .read _ | .history .. => .events
  | .reserve .. => .instants
  | .fetch _ => .records
  | .checkpoints => .checkpoints
  | _ => .count

def Answer (s : Statement) : Type := s.shape.Answer

/-- The name of a statement, which failures of it are reported under. -/
def name : Statement → String
  | .start => "begin"
  | .commit => "commit"
  | .rollback => "rollback"
  | .readSnapshot => "set_transaction"
  | .lock _ => "advisory_lock"
  | .latest .. => "latest_seq"
  | .insert _ => "insert_event"
  | .head => "head"
  | .read _ => "read_events"
  | .history .. => "load_aggregate"
  | .reserve .. => "reserve_idempotency"
  | .fetch _ => "fetch_idempotency"
  | .record .. => "record_idempotency"
  | .release .. => "release_idempotency"
  | .purge _ => "purge_idempotency"
  | .complete .. => "complete_idempotency"
  | .position _ => "get_checkpoint"
  | .advance .. => "set_checkpoint"
  | .reset _ => "reset_checkpoint"
  | .checkpoints => "list_checkpoints"
  | .ping => "health_check"
  | .migrate => "migration"

end Statement

/-! ## Programs on a database -/

/-- What a program asks of a database. Beside statements it can take a connection and do nothing
with it yet, which may fail by itself; and it can give up a transaction, which has no answer, as it
has to work also when the connection is gone. Which migrations were applied is kept by the library
that applies them. -/
inductive Ask
  | acquire
  | execute (s : Statement)
  | abandon
  | migrations
  | note (m : Migration)

def calls : Interface where
  Ask := Ask
  Answer
    | .acquire => Except Error Unit
    | .execute s => Except Error s.Answer
    | .abandon => Unit
    | .migrations => Except Error (List Migration)
    | .note _ => Except Error Unit

/-- A program on a database that may fail. What the database answers is open, so that a statement
about a program holds for whatever may fail in between and for whatever others write between two of
its statements. -/
abbrev Work (ε α : Type) := ExceptT ε (Program calls) α

namespace Work

variable {ε ε' α : Type}

def mapError (f : ε → ε') (w : Work ε α) : Work ε' α :=
  ExceptT.mk (w.run.bind fun r => .done (r.mapError f))

end Work

/-- Execute a statement; a failure is reported as one of the operation. -/
def execute (operation : String) (s : Statement) : Work StoreError s.Answer :=
  ExceptT.mk (.ask (.execute s) fun (r : Except Error s.Answer) =>
    .done (r.mapError (Error.report operation)))

/-- The number in the first of some rows. The statements that ask for it always have a row, so that
a database that has none is broken, and that is reported. -/
def scalar (operation : String) : List (Option Int) → Except StoreError Int
  | some a :: _ => .ok a
  | _ => .error (Error.unexpected.report operation)

/-! ## Transactions -/

/-- How the work in a transaction ends that has not failed: what was done is kept, or it is undone
and the work comes to what was found out in it. -/
inductive Ending (ε α : Type)
  | commit (a : α)
  | rollback (r : Except ε α)

/-- Do work in a transaction of its own. The transaction is given up when the work fails, and also
when it cannot be ended as the work says: after a commit that failed nobody may rely on anything
that was done. -/
def transaction {ε α : Type} (report : String → Error → ε) (work : Work ε (Ending ε α)) :
    Work ε α :=
  let abandon (e : ε) : Program calls (Except ε α) := .ask .abandon fun _ => .done (.error e)
  ExceptT.mk <| .ask (.execute .start) fun
    | .error e => .done (.error (report "begin_transaction" e))
    | .ok _ => work.run.bind fun
      | .error e => abandon e
      | .ok (.commit a) => .ask (.execute .commit) fun
        | .error e => abandon (report "commit_transaction" e)
        | .ok _ => .done (.ok a)
      | .ok (.rollback r) => .ask (.execute .rollback) fun
        | .error e => abandon (report "rollback" e)
        | .ok _ => .done r

end Journal.Sql
