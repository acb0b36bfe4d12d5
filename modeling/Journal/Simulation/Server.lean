import Journal.Sql.Database

/-!
# A database server that can be made to fail

A server has one connection to a database whose times have microseconds, and notes the statements
that it is given. Hooks wait for statements: the next execution of its statement uses a hook up,
which first lets another session change the tables and then may have the statement fail, or answer
something else, without being executed.

What another session changes is committed at once: it is done to the tables as they are and to those
that an open transaction would go back to.

A statement that is refused makes the open transaction fail: what it did stays in the tables until
it is ended, and nothing but its end is executed. A transaction whose end was not executed stays
open, also for what follows.
-/

namespace Journal.Simulation

open Journal.Sql (Statement Database Tables EventColumns EventRow RecordRow CheckpointRow)

/-! ## Microseconds -/

def rounded (t : Instant) : Instant := .ofMicros t.micros

/-- A stretch of time, given as a double of seconds, as the nearest number of whole microseconds. -/
def roundedAge (d : Duration) : Duration := ⟨(d.toSeconds * 1000000).round.toUInt64.toNat * 1000⟩

def storedEvent (c : EventColumns) : EventColumns :=
  { c with occurredAt := c.occurredAt.map rounded }

def storedRecord (r : RecordRow) : RecordRow := { r with createdAt := r.createdAt.map rounded }

def storedCheckpoint (r : CheckpointRow) : CheckpointRow :=
  { r with updatedAt := r.updatedAt.map rounded }

/-! ## What another session does -/

inductive TableName
  | events
  | records
  | checkpoints
  | migrations
  deriving DecidableEq, Repr

/-- An event that is written past the store: its position, which may be null, unless the next one is
to be used, and its columns at the moment of writing. -/
structure ForeignEvent where
  id : Option (Option Int)
  columns : Instant → EventColumns

/-- What another session does to the tables. No constraint is checked, so that rows can be made
which no store would write. -/
structure Intrusion where
  events : List ForeignEvent
  records : List (Instant → RecordRow)
  checkpoints : List (Instant → CheckpointRow)
  migrations : List Int
  cleared : List TableName

namespace Intrusion

def number (now : Instant) : Int → List ForeignEvent → List EventRow × Int
  | last, [] => ([], last)
  | last, e :: rest =>
    let id := e.id.getD (some (last + 1))
    let (rows, last) := number now (max last (id.getD last)) rest
    (⟨storedEvent (e.columns now), id⟩ :: rows, last)

def clear (t : Tables) : TableName → Tables
  | .events => { t with events := [] }
  | .records => { t with records := .empty }
  | .checkpoints => { t with checkpoints := .empty }
  | .migrations => { t with migrations := [] }

def change (i : Intrusion) (now : Instant) (events : List EventRow) (t : Tables) : Tables :=
  let t := { t with events := t.events ++ events }
  let t := (i.records.map fun row => storedRecord (row now)).foldl Tables.putRecord t
  let t := (i.checkpoints.map fun row => storedCheckpoint (row now)).foldl Tables.putCheckpoint t
  let t := (i.migrations.map fun version => ⟨version, "raw", false⟩).foldl Tables.note t
  i.cleared.foldl clear t

def apply (i : Intrusion) (now : Instant) (db : Database) : Database :=
  let (events, lastId) := number now db.lastId i.events
  { tables := i.change now events db.tables, lastId, saved := db.saved.map (i.change now events) }

end Intrusion

/-! ## Hooks -/

/-- What becomes of a statement: it is executed or refused, the connection is lost, or it is not
executed and yet answered, with no rows or with one row of nulls. The last two are what a store must
not take for an answer. -/
inductive Fate
  | normal
  | refused (code message : String)
  | disconnected
  | noRows
  | nullRow
  deriving DecidableEq, Repr

/-- What waits for a statement: what another session does before it, and what becomes of it. -/
structure Hook where
  intrusion : Intrusion
  fate : Fate

def noRows : (s : Sql.Shape) → s.Answer
  | .numbers | .instants | .events | .records | .checkpoints => ([] : List _)
  | .count => (0 : Nat)

def nullRow : (s : Sql.Shape) → s.Answer
  | .numbers => ([none] : List (Option Int))
  | .instants => ([none] : List (Option Instant))
  | .events => [EventRow.nulls]
  | .records => [RecordRow.nulls]
  | .checkpoints => [CheckpointRow.nulls]
  | .count => (1 : Nat)

/-! ## The server -/

/-- A server with one connection. Of a transaction that has failed it only knows that it is to be
undone at its end; hooks wait for the statements of a name, the next one first; and the names of all
statements are kept as they come, whether or not they were executed. -/
structure Server where
  wall : Instant
  database : Database
  hasFailed : Bool
  hooks : Keyed String (List Hook)
  trace : List String
  isConnected : Bool
  down : Option Sql.Error

namespace Server

def new (wall : Instant) (down : Option Sql.Error) : Server :=
  ⟨wall, .empty, false, .empty, [], false, down⟩

def layHooks (s : Server) (name : String) (h : Hook) (times : Nat) : Nat × Server :=
  let waiting := (s.hooks.get? name).getD [] ++ List.replicate times h
  (waiting.length, { s with hooks := s.hooks.insert name waiting })

def takeHook (s : Server) (name : String) : Option Hook × Server :=
  match s.hooks.get? name with
  | some (h :: rest) => (some h, { s with hooks := s.hooks.insert name rest })
  | _ => (none, s)

def intrude (s : Server) (i : Intrusion) : Server :=
  { s with database := i.apply s.wall s.database }

/-- The statement ends a transaction, whatever becomes of it. -/
def endsTransaction : Statement → Bool
  | .commit | .rollback => true
  | _ => false

/-- The refusal of everything but the end of a transaction that has failed. -/
def aborted : Sql.Error :=
  .refused "25P02" "current transaction is aborted, commands ignored until end of transaction block"

def fail (s : Server) : Server := { s with hasFailed := s.database.saved.isSome }

def undo (s : Server) : Server := { s with database := s.database.undo, hasFailed := false }

/-- Work in a transaction can go on. -/
def isInTransaction (s : Server) : Bool := s.database.saved.isSome && !s.hasFailed

/-- Execute a statement; its times are rounded to whole microseconds. A transaction that has failed
can only be ended, and is undone by that. -/
def perform (s : Server) (q : Statement) : Except Sql.Error q.Answer × Server :=
  if s.hasFailed then
    if endsTransaction q then
      let (r, database) := Database.execute (rounded s.wall) q s.database.undo
      (r, { s with database, hasFailed := false })
    else (.error aborted, s)
  else
    match q with
    | .insert c =>
      match s.database.insert (storedEvent c) with
      | (.ok rows, database) => (.ok rows, { s with database })
      | (.error e, database) => (.error e, { s with database }.fail)
    | .purge age =>
      let (r, database) := Database.execute (rounded s.wall) (.purge (roundedAge age)) s.database
      (r, { s with database })
    | q =>
      let (r, database) := Database.execute (rounded s.wall) q s.database
      (r, { s with database })

/-- Answer a statement without executing it. No transaction is started by that, which shows unless
one is open. -/
def pretend (s : Server) (q : Statement) (a : q.Answer) : Except Sql.Error q.Answer :=
  if q = .start ∧ !s.isInTransaction then .error .unexpected else .ok a

def meet (s : Server) (q : Statement) : Fate → Except Sql.Error q.Answer × Server
  | .normal => s.perform q
  | .refused code message =>
    (.error (.refused code message), if endsTransaction q then s.undo else s.fail)
  | .disconnected => (.error .disconnected, { s.undo with isConnected := false })
  | .noRows => (s.pretend q (noRows q.shape), s)
  | .nullRow => (s.pretend q (nullRow q.shape), s)

def execute (s : Server) (q : Statement) : Except Sql.Error q.Answer × Server :=
  let (hook, s) := { s with isConnected := true, trace := s.trace ++ [q.name] }.takeHook q.name
  match hook with
  | none => s.meet q .normal
  | some h => (s.intrude h.intrusion).meet q h.fate

def unnamed {α : Type} (s : Server) (f : Tables → α × Tables) : Except Sql.Error α × Server :=
  match s.down with
  | some e => (.error e, s)
  | none =>
    if s.hasFailed then (.error aborted, s)
    else
      let (r, database) := s.database.change f
      (r, { s with database })

def answer : (q : Sql.Ask) → Server → Sql.calls.Answer q × Server
  | .acquire, s =>
    match s.down with
    | some e => (.error e, s)
    | none => (.ok (), { s with isConnected := true })
  | .execute q, s =>
    match s.down with
    | some e => (.error e, s)
    | none => s.execute q
  | .abandon, s => ((), if s.isConnected then (s.execute .rollback).2 else s)
  | .migrations, s => s.unnamed fun t => (t.migrations, t)
  | .note m, s => s.unnamed fun t => ((), t.note m)

end Server

end Journal.Simulation
