import Journal.Codec.Event
import Journal.Read

/-!
# Reads in JSON

Filters and pages are records; the scope of a reader is a choice whose member `org_id` is the
organization when the reader is one.
-/

namespace Journal

namespace Filter

def toJson (f : Filter) : Json :=
  .ofMembers [("org_id", .ofOption OrgId.toJson f.org),
    ("aggregate_type", .ofOption AggregateKind.toJson f.kind),
    ("aggregate_id", .ofOption .text f.aggregateId), ("event_type", .ofOption .text f.type)]

def ofJson? (v : Json) : Option Filter := do
  let f ← v.fields? ["org_id", "aggregate_type", "aggregate_id", "event_type"]
  return {
    org := ← f.optional "org_id" OrgId.ofJson?
    kind := ← f.optional "aggregate_type" AggregateKind.ofJson?
    aggregateId := ← f.optional "aggregate_id" Json.text?
    type := ← f.optional "event_type" Json.text? }

end Filter

namespace Scope

def toJson : Scope → Json
  | .org o => .ofMembers [("kind", .text "org"), ("org_id", o.toJson)]
  | .internal => .ofMembers [("kind", .text "internal")]
  | .elevated => .ofMembers [("kind", .text "elevated")]

/-- The scope of a kind, which may come with an organization. -/
def ofParts? (kind : String) (org : Option Json) : Option Scope :=
  match kind, org with
  | "org", some v => (OrgId.ofJson? v).map .org
  | "internal", none | "internal", some .null => some .internal
  | "elevated", none | "elevated", some .null => some .elevated
  | _, _ => none

def ofJson? (v : Json) : Option Scope := do
  let f ← v.fields? ["kind", "org_id"]
  ofParts? (← f.required "kind" Json.choice?) (f "org_id")

end Scope

namespace Page

def toJson (p : Page) : Json :=
  .ofMembers [("events", .list (p.events.map Event.toJson)),
    ("next_after_event_id", EventId.toJson p.next), ("has_more", .bool p.hasMore)]

def ofJson? (v : Json) : Option Page := do
  let f ← v.fields? ["events", "next_after_event_id", "has_more"]
  return {
    events := ← f.required "events" (Json.listOf? Event.ofJson?)
    next := ← f.required "next_after_event_id" EventId.ofJson?
    hasMore := ← f.required "has_more" Json.bool? }

end Page

end Journal
