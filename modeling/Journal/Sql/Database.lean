import Journal.Keyed
import Journal.Sql.Migration

/-!
# A database

The tables, and what each statement does to them. There is one session: a transaction works on the
tables themselves and keeps the tables as they were, which are put back when it is not committed.
Positions of events are handed out one after the other and are never given back, also not by a
transaction that is undone; everything else that an undone transaction did leaves no trace
(`Database.tables_undo_start`).
-/

namespace Journal.Sql

structure Tables where
  events : List EventRow
  records : Keyed KeyColumns RecordRow
  checkpoints : Keyed (Option String) CheckpointRow
  migrations : List Migration

namespace Tables

def empty : Tables := ⟨[], .empty, .empty, []⟩

/-! ## Events -/

/-- A number comes no later than another in ascending order, where nulls are last. -/
def noLater : Option Int → Option Int → Bool
  | some a, some b => a ≤ b
  | none, some _ => false
  | _, none => true

def largest (column : EventRow → Option Int) (rows : List EventRow) : Int :=
  (rows.filterMap column).max?.getD 0

def isOf (kind id : String) (r : EventRow) : Bool := r.kind == some kind && r.aggregateId == some id

def history (t : Tables) (kind id : String) : List EventRow :=
  (t.events.filter (isOf kind id)).mergeSort fun a b => noLater a.seq b.seq

/-- The column is not one of the excluded values. As comparisons with a null are, a null is not
known to differ from any of them, so that its row is left out unless nothing is excluded. -/
def isAllowed (excluded : List String) : Option String → Bool
  | some s => !excluded.contains s
  | none => excluded.isEmpty

def answers (q : Query) (r : EventRow) : Bool :=
  r.id.any (q.after < ·) && q.org.all (fun o => r.org == some o) && q.kind.all
    (fun k => r.kind == some k) &&
    q.aggregateId.all (fun i => r.aggregateId == some i) && q.type.all
    (fun t => r.type == some t) && isAllowed q.excluded r.kind

def read (t : Tables) (q : Query) : List EventRow :=
  ((t.events.filter (answers q)).mergeSort fun a b => noLater a.id b.id).take q.most

/-- The row is at the place of an aggregate that other columns name. Nulls are equal to nothing in a
unique index, so that a row without one of the three never stands in the way. -/
def clashes (c : EventColumns) (r : EventRow) : Bool :=
  r.kind.isSome && r.kind == c.kind && r.aggregateId.isSome && r.aggregateId == c.aggregateId &&
    r.seq.isSome && r.seq == c.seq

def isTaken (t : Tables) (c : EventColumns) : Bool := t.events.any (clashes c)

/-! ## Records -/

def isReservation (hash : String) (r : RecordRow) : Bool := r.hash == some hash && r.status.isNone

def fetch (t : Tables) (k : Guard.Key) : Option RecordRow := t.records.get? (.ofKey k)

def putRecord (t : Tables) (r : RecordRow) : Tables :=
  { t with records := t.records.insert r.key r }

/-- Insert a record without response, which gives way to one that is there. The instant comes back
only from an insertion, and that is how the two are told apart. -/
def reserve (t : Tables) (k : Guard.Key) (hash : String) (now : Instant) :
    List (Option Instant) × Tables :=
  match t.fetch k with
  | some _ => ([], t)
  | none => ([some now], t.putRecord ⟨.ofKey k, hash, none, none, now⟩)

/-- Insert a record with its response, or complete a reservation of the same request, and count what
changed. A record that has a response stays as it is, also for the same request. -/
def record (t : Tables) (k : Guard.Key) (hash : String) (status : Int) (body : Option Json)
    (now : Instant) :
    Nat × Tables :=
  match t.fetch k with
  | none => (1, t.putRecord ⟨.ofKey k, hash, some status, body, now⟩)
  | some r =>
    if isReservation hash r then (1, t.putRecord { r with status := some status, body }) else (0, t)

def release (t : Tables) (k : Guard.Key) (hash : String) : Nat × Tables :=
  match t.fetch k with
  | none => (0, t)
  | some r =>
    if isReservation hash r then (1, { t with records := t.records.erase (.ofKey k) }) else (0, t)

def purge (t : Tables) (cutoff : Instant) : Nat × Tables :=
  let kept := t.records.filter fun _ r => !r.createdAt.any (·.before cutoff)
  (t.records.size - kept.size, { t with records := kept })

/-- Complete a record, and count what changed. Other than `record` it inserts nothing and asks for
no reservation: it is for the transaction that has made the reservation itself. -/
def complete (t : Tables) (k : Guard.Key) (hash : String) (status : Int) (body : Option Json) :
    Nat × Tables :=
  match t.fetch k with
  | none => (0, t)
  | some r =>
    if r.hash = some hash then (1, t.putRecord { r with status := some status, body }) else (0, t)

/-! ## Checkpoints -/

def checkpoint (t : Tables) (consumer : String) : Option CheckpointRow :=
  t.checkpoints.get? (some consumer)

def putCheckpoint (t : Tables) (r : CheckpointRow) : Tables :=
  { t with checkpoints := t.checkpoints.insert r.consumer r }

/-- Insert or move a checkpoint, unless it is further, and count what changed. One at the same
position is moved to it, and has then been moved now. -/
def advance (t : Tables) (consumer : String) (position : Int) (now : Instant) : Nat × Tables :=
  let moved := (1, t.putCheckpoint ⟨consumer, some position, now⟩)
  match t.checkpoint consumer with
  | none => moved
  | some r => if r.position.any (· ≤ position) then moved else (0, t)

def reset (t : Tables) (consumer : String) (now : Instant) : Nat × Tables :=
  (1, t.putCheckpoint ⟨consumer, some 0, now⟩)

def nameNoLater : Option String → Option String → Bool
  | some a, some b => a ≤ b
  | none, some _ => false
  | _, none => true

def listed (t : Tables) : List CheckpointRow :=
  t.checkpoints.values.mergeSort fun a b => nameNoLater a.consumer b.consumer

/-! ## Migrations -/

def note (t : Tables) (m : Migration) : Tables := { t with migrations := t.migrations ++ [m] }

end Tables

/-! ## Statements -/

/-- A database with one session. The largest position that was given is not part of the tables,
since what is undone does not take it back; the tables as they were when the transaction was started
are there while there is one. -/
structure Database where
  tables : Tables
  lastId : Int
  saved : Option Tables

namespace Database

def empty : Database := ⟨.empty, 0, none⟩

def undo (db : Database) : Database := { db with tables := db.saved.getD db.tables, saved := none }

def start (db : Database) : Database := { db with saved := some db.tables }

@[simp] theorem tables_undo_start (db : Database) : db.start.undo.tables = db.tables := rfl

/-- Insert an event; its position is used up also when it is refused. -/
def insert (db : Database) (c : EventColumns) : Except Error (List (Option Int)) × Database :=
  let id := db.lastId + 1
  if db.tables.isTaken c then
    (.error (.refused "23505" "duplicate key value violates unique constraint"),
      { db with lastId := id })
  else
    (.ok [some id],
      { db with
        lastId := id
        tables := { db.tables with events := db.tables.events ++ [⟨c, some id⟩] } })

def change {α : Type} (db : Database) (f : Tables → α × Tables) : Except Error α × Database :=
  let (a, tables) := f db.tables
  (.ok a, { db with tables })

/-- Execute a statement at an instant. With one session there is nobody to wait for, so that the
lock is had at once, and a snapshot is what the tables are anyway. -/
def execute (now : Instant) : (s : Statement) → Database → Except Error s.Answer × Database
  | .start, db => (.ok (0 : Nat), db.start)
  | .commit, db => (.ok (0 : Nat), { db with saved := none })
  | .rollback, db => (.ok (0 : Nat), db.undo)
  | .readSnapshot, db => (.ok (0 : Nat), db)
  | .lock _, db => (.ok (1 : Nat), db)
  | .latest kind id, db =>
    (.ok [some (Tables.largest (·.seq) (db.tables.events.filter (Tables.isOf kind id)))], db)
  | .insert c, db => db.insert c
  | .head, db => (.ok [some (Tables.largest (·.id) db.tables.events)], db)
  | .read q, db => (.ok (db.tables.read q), db)
  | .history kind id, db => (.ok (db.tables.history kind id), db)
  | .reserve k hash, db => db.change (·.reserve k hash now)
  | .fetch k, db => (.ok (db.tables.fetch k).toList, db)
  | .record k hash status body, db => db.change (·.record k hash status body now)
  | .release k hash, db => db.change (·.release k hash)
  | .purge age, db => db.change (·.purge (now.goBack age))
  | .complete k hash status body, db => db.change (·.complete k hash status body)
  | .position consumer, db => (.ok ((db.tables.checkpoint consumer).toList.map (·.position)), db)
  | .advance consumer position, db => db.change (·.advance consumer position now)
  | .reset consumer, db => db.change (·.reset consumer now)
  | .checkpoints, db => (.ok db.tables.listed, db)
  | .ping, db => (.ok (1 : Nat), db)
  | .migrate, db => (.ok (0 : Nat), db)

def answer (now : Instant) : (q : Ask) → Database → calls.Answer q × Database
  | .acquire, db => (.ok (), db)
  | .execute s, db => execute now s db
  | .abandon, db => ((), db.undo)
  | .migrations, db => (.ok db.tables.migrations, db)
  | .note m, db => db.change fun t => ((), t.note m)

end Database

end Journal.Sql
