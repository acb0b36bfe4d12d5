import Journal.Sql.Statement

/-!
# The guard on a database

A reservation is the insertion of a record that does nothing when there is one; whoever inserts has
the key, and everybody else fetches the record. Between the two statements others may delete the
record, so that the pair is tried a second time before the guard gives up.
-/

namespace Journal.Sql

def reserveHere (k : Guard.Key) (hash : String) : Work StoreError Bool := do
  let rows ← execute "reserve_idempotency" (.reserve k hash)
  return !(List.isEmpty rows)

def readRecord : List RecordRow → Except StoreError (Option Guard.Record)
  | [] => .ok none
  | r :: _ => r.toRecord.map some

def lookup (k : Guard.Key) : Work StoreError (Option Guard.Record) := do
  let rows ← execute "fetch_idempotency" (.fetch k)
  readRecord rows

/-- The record was there and then it was not. It is reported as unavailable, since the next attempt
starts from whatever there is then. -/
def recordChanged : StoreError := .unavailable "idempotency record changed during reservation"

/-- Try so many times to insert a reservation or fetch the record that is in its way. Only when the
record is deleted in between does a try come to nothing. -/
def tryReserve (k : Guard.Key) (hash : String) : Nat → Work StoreError Guard.Verdict
  | 0 => throw recordChanged
  | tries + 1 => do
    if ← reserveHere k hash then return .fresh
    match ← lookup k with
    | some r => return r.verdict hash
    | none => tryReserve k hash tries

/-- Let a request pass and reserve its key, or say what its record says. -/
def reserve (k : Guard.Key) (hash : String) : Work StoreError Guard.Verdict := tryReserve k hash 2

/-- Keep a response; of two for the same request the first stays. The row that was in the way is
looked up when nothing has changed, and a request that finds another one there is told so; when the
row has gone by then, nothing is kept and nothing is said. -/
def record (k : Guard.Key) (hash : String) (r : Response) : Work StoreError Unit := do
  let changed : Nat ← execute "record_idempotency" (.record k hash r.status r.body)
  if 0 < changed then return ()
  match ← lookup k with
  | some existing => if existing.hash = hash then return () else throw k.reused
  | none => return ()

def release (k : Guard.Key) (hash : String) : Work StoreError Unit := do
  let _ ← execute "release_idempotency" (.release k hash)

/-- Remove the records that have expired, and count them. The retention is bound as the exact number
of nanoseconds here. A driver binds it as a double of seconds, of which the server keeps the
microseconds: that makes no difference for a retention of whole seconds, and one of less than a
microsecond for any other up to a century. -/
def purge (asked : Duration) : Work StoreError Nat :=
  execute "purge_idempotency" (.purge (Guard.retention asked))

end Journal.Sql
