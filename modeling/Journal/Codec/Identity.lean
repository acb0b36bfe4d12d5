import Journal.Identity
import Journal.Json.Record
import Journal.Time.Instant

/-!
# Identities and times in JSON

Identifiers, kinds and instants are texts and positions are whole numbers; an aggregate is a record.
Decoding checks the form of a value and the name of a kind of aggregate, and nothing else.
-/

namespace Journal

def Uuid.toJson (u : Uuid) : Json := .text u.text

def Uuid.ofJson? (v : Json) : Option Uuid := v.text?.bind Uuid.parse?

def OrgId.toJson (o : OrgId) : Json := o.uuid.toJson

def OrgId.ofJson? (v : Json) : Option OrgId := (Uuid.ofJson? v).map (⟨·⟩)

def RequestId.toJson (r : RequestId) : Json := r.uuid.toJson

def RequestId.ofJson? (v : Json) : Option RequestId := (Uuid.ofJson? v).map (⟨·⟩)

def EventId.toJson (n : EventId) : Json := .int n

def EventId.ofJson? (v : Json) : Option EventId := v.word?

def ActorKind.toJson (k : ActorKind) : Json := .text k.name

def ActorKind.ofJson? (v : Json) : Option ActorKind := v.choice?.bind ActorKind.ofName?

def AggregateKind.toJson (k : AggregateKind) : Json := .text k.name

def AggregateKind.ofJson? (v : Json) : Option AggregateKind := v.text?.bind AggregateKind.ofName?

def Aggregate.toJson (a : Aggregate) : Json :=
  .ofMembers [("aggregate_type", a.kind.toJson), ("aggregate_id", .text a.id)]

def Aggregate.ofJson? (v : Json) : Option Aggregate := do
  let f ← v.fields? ["aggregate_type", "aggregate_id"]
  return ⟨← f.required "aggregate_type" AggregateKind.ofJson?,
    ← f.required "aggregate_id" Json.text?⟩

def Instant.toJson (t : Instant) : Json := .text t.text

def Instant.ofJson? (v : Json) : Option Instant := v.text?.bind Instant.parse?

def Duration.toJson (d : Duration) : Json :=
  .ofMembers [("secs", .int d.seconds), ("nanos", .int d.subsecond)]

def Duration.partNames : List String := ["secs", "nanos"]

/-- A duration from JSON: a record of two parts and nothing else. -/
def Duration.ofJson? (v : Json) : Option Duration := do
  match v with
  | .object members => if members.all (partNames.contains ·.1) then pure () else none
  | _ => pure ()
  let f ← v.fields? partNames
  Duration.ofParts? (← f.required "secs" Json.word?) (← f.required "nanos" (Json.nat? (2 ^ 32)))

end Journal
