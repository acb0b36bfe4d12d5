import Journal.Identity
import Journal.Json
import Journal.Time.Instant

/-!
# Events

A `Draft` is an event submitted for the log, an `Event` one that the log has taken: it has a
position in the whole log and one among the events of its aggregate, and is otherwise the draft
(`Event.draft_ofDraft`). An `Envelope` is the part of an event that consumers see; who caused the
event is left out.
-/

namespace Journal

/-- Who caused an event and in answer to which request. -/
structure Provenance where
  actorKind : ActorKind
  actor : String
  org : Option OrgId
  request : RequestId
  idempotencyKey : Option String
  correlation : Option String
  causation : Option EventId
  deriving DecidableEq

def Provenance.system (actor : String) (org : Option OrgId) (request : RequestId) : Provenance :=
  ⟨.system, actor, org, request, none, none, none⟩

/-- An event submitted for the log. It has no place in it yet, and may never have one: a draft is
checked, and its batch may come too late. -/
structure Draft where
  type : String
  version : Nat
  occurredAt : Instant
  provenance : Provenance
  payload : Json
  deriving DecidableEq

structure Event where
  id : EventId
  occurredAt : Instant
  aggregate : Aggregate
  seq : Seq
  type : String
  version : Nat
  provenance : Provenance
  payload : Json
  deriving DecidableEq

/-- What consumers see of an event. The payload may have been decoded, so that its type is a
parameter; who caused the event and why is not theirs to know. -/
structure Envelope (π : Type) where
  id : EventId
  org : Option OrgId
  aggregate : Aggregate
  seq : Seq
  type : String
  version : Nat
  occurredAt : Instant
  payload : π
  deriving DecidableEq

def Envelope.withPayload {π ρ : Type} (e : Envelope π) (payload : ρ) : Envelope ρ :=
  ⟨e.id, e.org, e.aggregate, e.seq, e.type, e.version, e.occurredAt, payload⟩

namespace Event

def ofDraft (id : EventId) (aggregate : Aggregate) (seq : Seq) (d : Draft) : Event :=
  ⟨id, d.occurredAt, aggregate, seq, d.type, d.version, d.provenance, d.payload⟩

def draft (e : Event) : Draft :=
  ⟨e.type, e.version, e.occurredAt, e.provenance, e.payload⟩

def org (e : Event) : Option OrgId := e.provenance.org

def envelope (e : Event) : Envelope Json :=
  ⟨e.id, e.org, e.aggregate, e.seq, e.type, e.version, e.occurredAt, e.payload⟩

@[simp] theorem draft_ofDraft (id : EventId) (a : Aggregate) (seq : Seq) (d : Draft) :
    (ofDraft id a seq d).draft = d := rfl

@[simp] theorem id_ofDraft (id : EventId) (a : Aggregate) (seq : Seq) (d : Draft) :
    (ofDraft id a seq d).id = id := rfl

@[simp] theorem seq_ofDraft (id : EventId) (a : Aggregate) (seq : Seq) (d : Draft) :
    (ofDraft id a seq d).seq = seq := rfl

@[simp] theorem aggregate_ofDraft (id : EventId) (a : Aggregate) (seq : Seq) (d : Draft) :
    (ofDraft id a seq d).aggregate = a := rfl

end Event

end Journal
