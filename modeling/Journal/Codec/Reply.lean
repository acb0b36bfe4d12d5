import Journal.Codec.Consumer
import Journal.Codec.Failure
import Journal.Codec.Guard
import Journal.Codec.Read
import Journal.Simulation.Reply

/-!
# Replies in JSON

Results of requests, and what is reported of consumers. Where events can be many, a list of their
positions can stand for them.
-/

namespace Journal

/-- Events as JSON: their positions, or all of them. -/
def Event.listToJson (brief : Bool) (es : List Event) : Json :=
  if brief then Simulation.positions es else .list (es.map Event.toJson)

def Guard.Verdict.toJson : Verdict → Json
  | .fresh => .text "fresh"
  | .conflict => .text "conflict"
  | .inFlight => .text "in_flight"
  | .replay r => .ofMembers [("replay", r.toJson)]

def Outcome.toJson (brief : Bool) (o : Outcome) : Json :=
  .ofMembers ([("replay", .bool o.isReplay), ("response", o.response.toJson)] ++
    match o with
    | .committed es _ => [("events", Event.listToJson brief es)]
    | .replayed _ => [])

def Consumer.Progress.toJson (p : Progress) : Json :=
  .ofMembers [("applied", .int p.applied), ("checkpoint", EventId.toJson p.position),
    ("caught_up", .bool p.caughtUp)]

namespace Simulation

def pageToJson (brief : Bool) (p : Page) : Json :=
  .ofMembers [("events", Event.listToJson brief p.events), ("empty", .bool p.events.isEmpty),
    ("next", EventId.toJson p.next), ("has_more", .bool p.hasMore)]

def Deed.parts : Deed → List Json
  | .filter => [.text "filter"]
  | .fail id => [.text "fail", EventId.toJson id]
  | .apply id => [.text "apply", EventId.toJson id]
  | .flush => [.text "flush"]
  | .clear => [.text "clear"]

def Entry.toJson (e : Entry) : Json :=
  .list (e.deed.parts ++
    match e.moment with
    | some (state, now) => [.text state.name, .int now]
    | none => [])

def projectionMembers : Except String (Tally × EventId) → Members
  | .ok (state, watermark) => [("state", state.toJson), ("watermark", EventId.toJson watermark)]
  | .error reason => failureMembers "handler" reason

def Report.members (r : Report) : Members :=
  [("state", .text r.state.name), ("trace", .list (r.trace.map Entry.toJson))] ++
    match r.projection with
    | none => []
    | some p => [("projection", .ofMembers (projectionMembers p))]

def crashMembers : Members := [("error", .text "panic")]

def Failure.members : Failure → Members
  | .store e => e.members
  | .checkpoint e => e.members
  | .consumer e => e.members
  | .crashed => crashMembers

end Simulation

end Journal
