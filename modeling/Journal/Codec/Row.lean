import Journal.Codec.Identity
import Journal.Sql.Row

/-!
# Rows in JSON

A row is written as an object with a member for each of its columns, under the column's name. It is
read over a row that has the columns which are not given; a column that is given as `null`, or as
what it cannot hold, is null.
-/

namespace Journal.Sql

def textColumn : Option String → Json := .ofOption .text

def numberColumn : Option Int → Json := .ofOption .int

def instantColumn : Option Instant → Json := .ofOption Instant.toJson

/-- A column from the member of a name. A member that is not there leaves the column as it is in the
row at hand, so that a row is described by what is different about it. -/
def columnOr {α : Type} (v : Json) (name : String) (decode : Json → Option α)
    (standard : Option α) : Option α :=
  match v.member? name with
  | some x => decode x
  | none => standard

def number? : Json → Option Int
  | .int n => some n
  | _ => none

def present? : Json → Option Json
  | .null => none
  | v => some v

def EventColumns.overlay (c : EventColumns) (v : Json) : EventColumns where
  occurredAt := columnOr v "occurred_at" Instant.ofJson? c.occurredAt
  kind := columnOr v "aggregate_type" Json.text? c.kind
  aggregateId := columnOr v "aggregate_id" Json.text? c.aggregateId
  seq := columnOr v "aggregate_seq" number? c.seq
  type := columnOr v "event_type" Json.text? c.type
  version := columnOr v "event_version" number? c.version
  actorKind := columnOr v "actor_type" Json.text? c.actorKind
  actor := columnOr v "actor_id" Json.text? c.actor
  org := columnOr v "org_id" Uuid.ofJson? c.org
  request := columnOr v "request_id" Uuid.ofJson? c.request
  idempotencyKey := columnOr v "idempotency_key" Json.text? c.idempotencyKey
  correlation := columnOr v "correlation_id" Json.text? c.correlation
  causation := columnOr v "causation_id" number? c.causation
  payload := columnOr v "payload" present? c.payload

def RecordRow.overlay (r : RecordRow) (v : Json) : RecordRow where
  key :=
    { scope := columnOr v "org_scope" Json.text? r.key.scope
      actor := columnOr v "actor_id" Json.text? r.key.actor
      endpoint := columnOr v "endpoint_name" Json.text? r.key.endpoint
      key := columnOr v "idempotency_key" Json.text? r.key.key }
  hash := columnOr v "request_hash" Json.text? r.hash
  status := columnOr v "response_status_code" number? r.status
  body := columnOr v "response_body" present? r.body
  createdAt := columnOr v "created_at" Instant.ofJson? r.createdAt

def CheckpointRow.overlay (r : CheckpointRow) (v : Json) : CheckpointRow where
  consumer := columnOr v "consumer_name" Json.text? r.consumer
  position := columnOr v "last_applied_event_id" number? r.position
  updatedAt := columnOr v "updated_at" Instant.ofJson? r.updatedAt

def EventRow.toJson (r : EventRow) : Json :=
  .ofMembers [("event_id", numberColumn r.id), ("occurred_at", instantColumn r.occurredAt),
    ("aggregate_type", textColumn r.kind), ("aggregate_id", textColumn r.aggregateId),
    ("aggregate_seq", numberColumn r.seq), ("event_type", textColumn r.type),
    ("event_version", numberColumn r.version), ("actor_type", textColumn r.actorKind),
    ("actor_id", textColumn r.actor), ("org_id", .ofOption Uuid.toJson r.org),
    ("request_id", .ofOption Uuid.toJson r.request), ("idempotency_key",
      textColumn r.idempotencyKey),
    ("correlation_id", textColumn r.correlation), ("causation_id", numberColumn r.causation),
    ("payload", r.payload.getD .null)]

def RecordRow.toJson (r : RecordRow) : Json :=
  .ofMembers [("org_scope", textColumn r.key.scope), ("actor_id", textColumn r.key.actor),
    ("endpoint_name", textColumn r.key.endpoint), ("idempotency_key", textColumn r.key.key),
    ("request_hash", textColumn r.hash), ("response_status_code", numberColumn r.status),
    ("response_body", r.body.getD .null), ("created_at", instantColumn r.createdAt)]

def CheckpointRow.toJson (r : CheckpointRow) : Json :=
  .ofMembers [("consumer_name", textColumn r.consumer),
    ("last_applied_event_id", numberColumn r.position), ("updated_at", instantColumn r.updatedAt)]

def Migration.toJson (m : Migration) : Json := .list [.int m.version, .text m.description]

end Journal.Sql
