import Journal.Codec.Identity
import Journal.Consumer.Rebuild
import Journal.Dispatch
import Journal.Projection.Error
import Journal.Settings

/-!
# Failures in JSON

A failure is a record of its kind, its message, and what its layer tells callers beside them:
whether to try again, and whether another writer was faster. The failure of a layer below keeps its
kind, with the name of that layer before it.
-/

namespace Journal

abbrev Members := List (String × Json)

def failureMembers (kind message : String) : Members :=
  [("error", .text kind), ("message", .text message)]

def DomainError.kind : DomainError → String
  | .validation _ => "validation"
  | .invalidId _ => "invalid_id"
  | .conflict _ => "conflict"

def DomainError.members (e : DomainError) : Members := failureMembers e.kind e.message

def StoreError.kind : StoreError → String
  | .aggregateConflict .. => "aggregate_conflict"
  | .keyReuse .. => "idempotency_key_reuse"
  | .inFlight .. => "idempotency_in_flight"
  | .validation _ => "validation"
  | .forbidden _ => "forbidden"
  | .unavailable _ => "storage_unavailable"
  | .storage _ => "storage"

/-- The failure in JSON. A conflict tells both places of the aggregate, so that a caller can say by
how much it came too late. -/
def StoreError.members (e : StoreError) : Members :=
  failureMembers e.kind e.message ++ [("retryable", .bool e.isRetryable),
    ("conflict", .bool e.isConflict)] ++ match e with
    | .aggregateConflict _ expected actual =>
      [("expected", EventId.toJson expected), ("actual", .ofOption EventId.toJson actual)]
    | _ => []

def CheckpointError.kind : CheckpointError → String
  | .regression .. => "regression"
  | .unavailable _ => "unavailable"
  | .storage _ => "storage"

/-- The failure in JSON; a regression tells both positions. -/
def CheckpointError.members (e : CheckpointError) : Members :=
  failureMembers e.kind e.message ++ [("retryable", .bool e.isRetryable)] ++
    match e with
    | .regression _ current attempted =>
      [("current", EventId.toJson current), ("attempted", EventId.toJson attempted)]
    | _ => []

def ConsumerError.kind : ConsumerError → String
  | .apply .. => "apply"
  | .flush .. => "flush"
  | .clear .. => "clear"
  | .store e => "store." ++ e.kind
  | .checkpoint e => "checkpoint." ++ e.kind

def ConsumerError.members (e : ConsumerError) : Members :=
  failureMembers e.kind e.message ++ [("retryable", .bool e.isRetryable)]

def DispatchError.kind : DispatchError → String
  | .rejected e => "rejected." ++ e.kind
  | .store e => "store." ++ e.kind

def DispatchError.members (e : DispatchError) : Members :=
  failureMembers e.kind e.message ++ [("conflict", .bool e.isConflict)]

def RebuildError.kind : RebuildError → String
  | .consumer _ => "consumer"
  | .cancelled => "cancelled"
  | .failed _ => "failed"

def RebuildError.members (e : RebuildError) : Members := failureMembers e.kind e.message

def ProjectionError.kind : ProjectionError → String
  | .unknownEvent .. => "unknown_event"
  | .duplicateHandler .. => "duplicate_handler"
  | .payload .. => "payload"
  | .orgMismatch .. => "org_mismatch"
  | .rejected .. => "rejected"

def ProjectionError.members (e : ProjectionError) : Members := failureMembers e.kind e.message

def SettingsError.kind : SettingsError → String
  | .missing _ => "missing"
  | .invalid .. => "invalid"

def SettingsError.members (e : SettingsError) : Members := failureMembers e.kind e.message

end Journal
