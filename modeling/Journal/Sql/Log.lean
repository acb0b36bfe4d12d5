import Journal.Event.Batch
import Journal.Sql.Statement

/-!
# The log on a database

Appends take one lock for the whole log before they look where their aggregate is, and hold it until
their transaction ends. Positions in the log are therefore given in the order in which transactions
commit, and no reader can go past an event that appears later. Writers that do not take the lock are
stopped by the table: of two events at one place of an aggregate the second is refused.
-/

namespace Journal.Sql

/-- The key of the lock that every append takes: the bytes of the text `eventlog`. -/
def appendLock : Int := 0x6576656e746c6f67

/-! ## Reading -/

def latestHere (a : Aggregate) : Work StoreError Seq := do
  let rows ← execute "latest_seq" (.latest a.kind.name a.id)
  return ofColumn (← scalar "latest_seq" rows)

def headHere : Work StoreError EventId := do
  let rows ← execute "head" .head
  return ofColumn (← scalar "head" rows)

def acquire : Work StoreError Unit :=
  ExceptT.mk (.ask .acquire fun (r : Except Error Unit) =>
    .done (r.mapError (Error.report "acquire")))

def latest (a : Aggregate) : Work StoreError Seq := do
  acquire
  latestHere a

def head : Work StoreError EventId := do
  acquire
  headHere

def history (a : Aggregate) : Work StoreError (List Event) := do
  let rows ← execute "load_aggregate" (.history a.kind.name a.id)
  liftM (List.mapM EventRow.toEvent rows)

/-- Read a page of the log. The events and the head come from one snapshot: with a head that was
looked up later, a reader could be sent past an event that had not been there when the page was
read. -/
def read (p : Policy) (after : EventId) (limit : Option Nat) (f : Filter) (s : Scope) :
    Work StoreError Page := do
  let access ← Access.authorize after limit f s p
  transaction Error.report do
    let _ ← execute "set_transaction" .readSnapshot
    let rows ← execute "read_events" (.read (.ofAccess access))
    let events ← liftM (List.mapM EventRow.toEvent rows)
    return .commit (access.page events (← headHere))

/-! ## Writing -/

/-- Write a draft as an event of an aggregate, for a writer that expects the aggregate at a place. A
refusal of the row means that somebody else was faster without the lock, and it is reported as the
conflict that it is; where the aggregate is then is not known. -/
def insert (a : Aggregate) (expected seq : Seq) (d : Draft) : Work StoreError Event :=
  ExceptT.mk <| .ask (.execute (.insert (.ofDraft a seq d)))
      fun (r : Except Error (List (Option Int))) =>
    match r with
    | .ok (some id :: _) => .done (.ok (.ofDraft (ofColumn id) a seq d))
    | .ok (none :: _) => .done (.error (.storage "failed to read event_id: "))
    | .ok [] => .done (.error (Error.unexpected.report "insert_event"))
    | .error e =>
      .done (.error (if e.isDuplicate then .aggregateConflict a expected none
        else e.report "insert_event"))

def insertAll (a : Aggregate) (expected : Seq) : Seq → List Draft → Work StoreError (List Event)
  | _, [] => return []
  | seq, d :: rest => do
    let e ← insert a expected seq d
    return e :: (← insertAll a expected (seq + 1) rest)

/-- Write a batch inside a transaction. The lock comes before the look at the aggregate: taken after
it, two writers could find the aggregate at the same place. -/
def appendHere (a : Aggregate) (expected : Seq) (drafts : List Draft) :
    Work StoreError (List Event) := do
  let _ ← execute "advisory_lock" (.lock appendLock)
  let latest ← latestHere a
  if expected = latest then insertAll a expected (firstAssigned expected) drafts
  else throw (.aggregateConflict a expected (some latest))

/-- Write a batch to the end of the log. The batch is checked before anything is asked of the
database. -/
def append (a : Aggregate) (expected : Seq) (drafts : List Draft) :
    Work StoreError (List Event) := do
  Batch.check drafts
  transaction Error.report (Ending.commit <$> appendHere a expected drafts)

end Journal.Sql
