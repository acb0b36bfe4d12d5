import Journal.Projection

/-!
# Tracking what was delivered

A tracker delivers events to a projection and keeps its own place in the log. It may be pinned to
one organization: an event of another one, or of none, is then an error, whatever its position. What
is not beyond the tracker's place was delivered before and is passed over.
-/

namespace Journal

/-- A projection and the place up to which events were delivered to it. It may be for one
organization, whose events alone it then takes; its place is its own, beside the watermark of the
projection, and moves with every event that is applied. -/
structure Tracker (σ : Type) where
  projection : Projection σ
  org : Option OrgId
  last : EventId

inductive Delivery
  | applied
  | duplicate
  deriving DecidableEq, Repr

namespace Tracker

variable {σ : Type}

def start (projection : Projection σ) (org : Option OrgId) : Tracker σ :=
  ⟨projection, org, projection.watermark⟩

/-- The event is not for this tracker. An event of no organization is not for one that has an
organization either. -/
def mismatch? (t : Tracker σ) (e : Envelope Json) : Option ProjectionError :=
  match t.org with
  | some expected => if e.org = some expected then none else some (.orgMismatch expected e.org)
  | none => none

/-- Deliver one event. Whose it is comes first, so that a foreign event is told as such even when it
was delivered before; then its place, so that a handler is never asked about an event twice. -/
def deliver (t : Tracker σ) (e : Envelope Json) : Attempt ProjectionError (Delivery × Tracker σ) :=
  match t.mismatch? e with
  | some error => .error (.failed error)
  | none =>
    if e.id ≤ t.last then .ok (.duplicate, t)
    else (t.projection.apply e).map fun projection =>
      (.applied, { t with projection, last := e.id })

/-- Deliver events up to the first that fails; the number of those that were folded in, and the
tracker at the end. -/
def deliverAll (t : Tracker σ) : List (Envelope Json) → Attempt ProjectionError Nat × Tracker σ
  | [] => (.ok 0, t)
  | e :: rest =>
    match t.deliver e with
    | .error stop => (.error stop, t)
    | .ok (d, t) =>
      let (r, t) := deliverAll t rest
      (r.map fun n => if d = .applied then n + 1 else n, t)

def reset (t : Tracker σ) : Tracker σ := { t with projection := t.projection.reset, last := 0 }

/-- Build a projection anew from all events. No organization is asked for: whoever replays has the
events chosen already. -/
def rebuild (projection : Projection σ) (es : List (Envelope Json)) :
    Attempt ProjectionError (Tracker σ) :=
  match ((start projection none).reset).deliverAll es with
  | (.ok _, t) => .ok t
  | (.error stop, _) => .error stop

end Tracker

end Journal
