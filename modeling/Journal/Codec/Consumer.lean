import Journal.Backoff
import Journal.Checkpoint
import Journal.Codec.Identity
import Journal.Consumer.Rebuild

/-!
# Consumers in JSON

Checkpoints, what they say about the distance to the head of the log, the progress of rebuilds and
how long to wait between attempts.
-/

namespace Journal

namespace Growth

def toJson (g : Growth) : Json := .text g.name

def ofJson? (v : Json) : Option Growth := v.choice?.bind Growth.ofName?

end Growth

namespace Backoff

def toJson (b : Backoff) : Json :=
  .ofMembers [("max_attempts", .int b.attempts), ("base_delay", b.base.toJson),
    ("max_delay", b.limit.toJson), ("strategy", b.growth.toJson), ("jitter", .float b.jitter)]

def ofJson? (v : Json) : Option Backoff := do
  let f ← v.fields? ["max_attempts", "base_delay", "max_delay", "strategy", "jitter"]
  return {
    attempts := ← f.required "max_attempts" (Json.nat? (2 ^ 32))
    base := ← f.required "base_delay" Duration.ofJson?
    limit := ← f.required "max_delay" Duration.ofJson?
    growth := ← f.required "strategy" Growth.ofJson?
    jitter := ← f.required "jitter" Json.float? }

end Backoff

namespace Checkpoint

def toJson (c : Checkpoint) : Json :=
  .ofMembers [("consumer", .text c.consumer), ("last_applied_event_id", EventId.toJson c.position),
    ("updated_at", c.updatedAt.toJson)]

def ofJson? (v : Json) : Option Checkpoint := do
  let f ← v.fields? ["consumer", "last_applied_event_id", "updated_at"]
  return ⟨← f.required "consumer" Json.text?, ← f.required "last_applied_event_id" EventId.ofJson?,
    ← f.required "updated_at" Instant.ofJson?⟩

end Checkpoint

namespace Lag

def toJson (l : Lag) : Json :=
  .ofMembers [("consumer", .text l.consumer), ("last_applied_event_id", EventId.toJson l.position),
    ("lag", .int l.lag)]

def ofJson? (v : Json) : Option Lag := do
  let f ← v.fields? ["consumer", "last_applied_event_id", "lag"]
  return ⟨← f.required "consumer" Json.text?, ← f.required "last_applied_event_id" EventId.ofJson?,
    ← f.required "lag" Json.word?⟩

end Lag

def Rebuild.Status.toJson (s : Status) : Json :=
  .ofMembers [("consumer", .text s.consumer), ("phase", .text s.phase.name),
    ("processed_events", .int s.processed), ("checkpoint", EventId.toJson s.position),
    ("target_event_id", EventId.toJson s.target), ("is_complete", .bool s.isComplete),
    ("error", .ofOption .text s.error)]

end Journal
