import Journal.Codec.Identity
import Journal.Event

/-!
# Events in JSON

A draft has its provenance as a record of its own. An event in the log has the fields of its
provenance beside its own fields; it is therefore always an object.
-/

namespace Journal

/-! ## Provenance -/

namespace Provenance

def fieldNames : List String :=
  ["actor_type", "actor_id", "org_id", "request_id", "idempotency_key", "correlation_id",
    "causation_id"]

def members (p : Provenance) : List (String × Json) :=
  [("actor_type", p.actorKind.toJson), ("actor_id", .text p.actor),
    ("org_id", .ofOption OrgId.toJson p.org), ("request_id", p.request.toJson),
    ("idempotency_key", .ofOption .text p.idempotencyKey),
    ("correlation_id", .ofOption .text p.correlation),
    ("causation_id", .ofOption EventId.toJson p.causation)]

def toJson (p : Provenance) : Json := .ofMembers p.members

/-- A provenance from its fields, with a decoder for the kind of actor. Where a provenance stands
for itself and where its fields are among those of an event, that kind is read differently. -/
def ofFields? (actorKind : Json → Option ActorKind) (f : Json.Fields) : Option Provenance := do
  return {
    actorKind := ← f.required "actor_type" actorKind
    actor := ← f.required "actor_id" Json.text?
    org := ← f.optional "org_id" OrgId.ofJson?
    request := ← f.required "request_id" RequestId.ofJson?
    idempotencyKey := ← f.optional "idempotency_key" Json.text?
    correlation := ← f.optional "correlation_id" Json.text?
    causation := ← f.optional "causation_id" EventId.ofJson? }

def ofJson? (v : Json) : Option Provenance :=
  (v.fields? fieldNames).bind (ofFields? ActorKind.ofJson?)

end Provenance

/-! ## Drafts -/

namespace Draft

def toJson (d : Draft) : Json :=
  .ofMembers [("event_type", .text d.type), ("event_version", .int d.version),
    ("occurred_at", d.occurredAt.toJson), ("metadata", d.provenance.toJson), ("payload", d.payload)]

def ofJson? (v : Json) : Option Draft := do
  let f ← v.fields? ["event_type", "event_version", "occurred_at", "metadata", "payload"]
  return {
    type := ← f.required "event_type" Json.text?
    version := ← f.required "event_version" (Json.nat? (2 ^ 32))
    occurredAt := ← f.required "occurred_at" Instant.ofJson?
    provenance := ← f.required "metadata" Provenance.ofJson?
    payload := ← f.required "payload" some }

end Draft

/-! ## Events in the log -/

namespace Event

def toJson (e : Event) : Json :=
  .ofMembers ([("event_id", EventId.toJson e.id), ("occurred_at", e.occurredAt.toJson),
    ("aggregate", e.aggregate.toJson), ("aggregate_seq", .int e.seq), ("event_type", .text e.type),
    ("event_version", .int e.version), ("payload", e.payload)] ++ e.provenance.members)

/-- A kind of actor among the fields of an event, where an empty object counts as no value too. -/
def actorKind? : Json → Option ActorKind
  | .object [(name, .object [])] => ActorKind.ofName? name
  | v => ActorKind.ofJson? v

def ofJson? (v : Json) : Option Event := do
  let f ← v.members?
  return {
    id := ← f.required "event_id" EventId.ofJson?
    occurredAt := ← f.required "occurred_at" Instant.ofJson?
    aggregate := ← f.required "aggregate" Aggregate.ofJson?
    seq := ← f.required "aggregate_seq" Json.word?
    type := ← f.required "event_type" Json.text?
    version := ← f.required "event_version" (Json.nat? (2 ^ 32))
    provenance := ← Provenance.ofFields? actorKind? f
    payload := ← f.required "payload" some }

end Event

/-! ## Envelopes -/

namespace Envelope

def toJson (e : Envelope Json) : Json :=
  .ofMembers [("event_id", EventId.toJson e.id), ("org_id", .ofOption OrgId.toJson e.org),
    ("aggregate", e.aggregate.toJson), ("aggregate_seq", .int e.seq), ("event_type", .text e.type),
    ("event_version", .int e.version), ("occurred_at", e.occurredAt.toJson), ("payload", e.payload)]

def ofJson? (v : Json) : Option (Envelope Json) := do
  let f ← v.fields? ["event_id", "org_id", "aggregate", "aggregate_seq", "event_type",
    "event_version", "occurred_at", "payload"]
  return {
    id := ← f.required "event_id" EventId.ofJson?
    org := ← f.optional "org_id" OrgId.ofJson?
    aggregate := ← f.required "aggregate" Aggregate.ofJson?
    seq := ← f.required "aggregate_seq" Json.word?
    type := ← f.required "event_type" Json.text?
    version := ← f.required "event_version" (Json.nat? (2 ^ 32))
    occurredAt := ← f.required "occurred_at" Instant.ofJson?
    payload := ← f.required "payload" some }

end Envelope

end Journal
