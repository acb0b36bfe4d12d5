import Journal.Checkpoint
import Journal.Event
import Journal.Guard

/-!
# Rows

The rows of the tables and what they stand for. A column may be null as far as a row is concerned; a
row with a null where a value is required cannot be decoded. Numbers are signed columns: positions
have sixty-four bits and versions thirty-two, and what is too large for its column is stored as the
largest value. An event is read back by the rules of the domain, so that a row which somebody else
wrote is refused when it breaks them.
-/

namespace Journal.Sql

def required {ε α : Type} (e : ε) : Option α → Except ε α
  | some a => .ok a
  | none => .error e

/-! ## Events -/

def largestVersion : Int := 2 ^ 31 - 1

/-- A version as a column. One that does not fit is stored as the largest value and not refused, so
that it is another version when it is read back. -/
def toVersionColumn (n : Nat) : Int := min (n : Int) largestVersion

/-- What is written of an event; its position in the log is given by the table. Every column may be
null here, also those that are never written so: what stands in a table was not always written by
this library. -/
structure EventColumns where
  occurredAt : Option Instant
  kind : Option String
  aggregateId : Option String
  seq : Option Int
  type : Option String
  version : Option Int
  actorKind : Option String
  actor : Option String
  org : Option Uuid
  request : Option Uuid
  idempotencyKey : Option String
  correlation : Option String
  causation : Option Int
  payload : Option Json
  deriving DecidableEq

def EventColumns.ofDraft (a : Aggregate) (seq : Seq) (d : Draft) : EventColumns where
  occurredAt := d.occurredAt
  kind := a.kind.name
  aggregateId := a.id
  seq := some (toColumn seq)
  type := d.type
  version := some (toVersionColumn d.version)
  actorKind := d.provenance.actorKind.name
  actor := d.provenance.actor
  org := d.provenance.org.map (·.uuid)
  request := d.provenance.request.uuid
  idempotencyKey := d.provenance.idempotencyKey
  correlation := d.provenance.correlation
  causation := d.provenance.causation.map toColumn
  payload := d.payload

structure EventRow extends EventColumns where
  id : Option Int
  deriving DecidableEq

namespace EventRow

def nulls : EventRow :=
  { occurredAt := none, kind := none, aggregateId := none, seq := none, type := none,
    version := none, actorKind := none, actor := none, org := none, request := none,
    idempotencyKey := none, correlation := none, causation := none, payload := none, id := none }

def undecodable : StoreError := .storage "failed to decode event row: "

/-- The row breaks a rule of the domain. It is named with its position and the column, as it takes
somebody who can look at the table to mend it. -/
def corrupt (id : Int) (column : String) (e : DomainError) : StoreError :=
  .storage s!"corrupt event row {id}: {column}: {e.message}"

/-- The event in a row: first every column is decoded, then the rules of the domain are checked. A
row without a required value is therefore refused as such, whatever its other columns say. -/
def toEvent (r : EventRow) : Except StoreError Event := do
  let id ← required undecodable r.id
  let occurredAt ← required undecodable r.occurredAt
  let kind ← required undecodable r.kind
  let aggregateId ← required undecodable r.aggregateId
  let seq ← required undecodable r.seq
  let type ← required undecodable r.type
  let version ← required undecodable r.version
  let actorKind ← required undecodable r.actorKind
  let actor ← required undecodable r.actor
  let request ← required undecodable r.request
  let payload ← required undecodable r.payload
  let kind ← (AggregateKind.parse kind).mapError (corrupt id "aggregate_type")
  let aggregate ← (Aggregate.make kind aggregateId).mapError (corrupt id "aggregate_id")
  let actorKind ← (ActorKind.parse actorKind).mapError (corrupt id "actor_type")
  return {
    id := ofColumn id
    occurredAt
    aggregate
    seq := ofColumn seq
    type
    version := ofColumn version
    provenance := {
      actorKind
      actor
      org := r.org.map OrgId.mk
      request := ⟨request⟩
      idempotencyKey := r.idempotencyKey
      correlation := r.correlation
      causation := r.causation.map ofColumn }
    payload }

end EventRow

/-! ## Records of requests -/

structure KeyColumns where
  scope : Option String
  actor : Option String
  endpoint : Option String
  key : Option String
  deriving DecidableEq

def KeyColumns.ofKey (k : Guard.Key) : KeyColumns := ⟨k.scope, k.actor, k.endpoint, k.key⟩

/-- A row of the table of records. Without a status the request has not been answered; the body
alone says nothing, as a response need not have one. -/
structure RecordRow where
  key : KeyColumns
  hash : Option String
  status : Option Int
  body : Option Json
  createdAt : Option Instant
  deriving DecidableEq

/-- The status of a response from a column; what is no status becomes that of an internal error. -/
def statusOfColumn (n : Int) : Nat := if 0 ≤ n ∧ n < 2 ^ 16 then n.toNat else 500

namespace RecordRow

def nulls : RecordRow := ⟨⟨none, none, none, none⟩, none, none, none, none⟩

def undecodable : StoreError := .storage "failed to decode idempotency row: "

def toRecord (r : RecordRow) : Except StoreError Guard.Record := do
  let scope ← required undecodable r.key.scope
  let actor ← required undecodable r.key.actor
  let endpoint ← required undecodable r.key.endpoint
  let key ← required undecodable r.key.key
  let hash ← required undecodable r.hash
  let createdAt ← required undecodable r.createdAt
  return ⟨⟨scope, actor, endpoint, key⟩, hash, r.status.map fun n => ⟨statusOfColumn n, r.body⟩,
    createdAt⟩

end RecordRow

/-! ## Checkpoints -/

structure CheckpointRow where
  consumer : Option String
  position : Option Int
  updatedAt : Option Instant
  deriving DecidableEq, Repr

namespace CheckpointRow

def nulls : CheckpointRow := ⟨none, none, none⟩

def undecodable : CheckpointError := .storage "failed to decode checkpoint row: "

def toCheckpoint (r : CheckpointRow) : Except CheckpointError Checkpoint := do
  let consumer ← required undecodable r.consumer
  let position ← required undecodable r.position
  let updatedAt ← required undecodable r.updatedAt
  return ⟨consumer, ofColumn position, updatedAt⟩

end CheckpointRow

/-! ## Migrations -/

/-- A change of the tables that has been applied. Whether it is the one that this library has under
the version is told by a checksum of its text, of which only the outcome is kept. -/
structure Migration where
  version : Int
  description : String
  isKnown : Bool
  deriving DecidableEq, Repr

end Journal.Sql
