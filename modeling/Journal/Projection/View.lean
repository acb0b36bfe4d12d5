import Journal.Projection.Tracker
import Journal.Read

/-!
# A projection as a consumer's handler

A view gives a projection the name and the filter that a consumer needs. The view of a projection
that is pinned to an organization asks for the events of that organization, and no other filter can
take that back. A handler that crashes leaves the view poisoned; nothing can be read from it or
delivered to it afterwards.
-/

namespace Journal

/-- A projection with a name and a filter, as a consumer runs it. A handler that crashes leaves it
poisoned: the state may be half-way, so that nobody gets to see it any more. -/
structure View (σ : Type) where
  name : String
  filter : Filter
  tracker : Tracker σ
  poisoned : Bool

namespace View

variable {σ : Type}

def make (name : String) (tracker : Tracker σ) : View σ :=
  ⟨name, { Filter.all with org := tracker.org }, tracker, false⟩

/-- Ask for the events that another filter accepts, and keep to the organization. -/
def withFilter (v : View σ) (f : Filter) : View σ :=
  match v.filter.org with
  | some o => { v with filter := { f with org := some o } }
  | none => { v with filter := f }

def poisonedReason : String := "projection lock poisoned"

def read (v : View σ) : Except String (Projection σ) :=
  if v.poisoned then .error poisonedReason else .ok v.tracker.projection

/-- Deliver one event. An event that was delivered before is as good as applied; a failure is passed
on as text, since a consumer knows nothing of projections. -/
def apply (v : View σ) (e : Event) : Attempt String Unit × View σ :=
  if v.poisoned then (.error (.failed poisonedReason), v)
  else match v.tracker.deliver e.envelope with
    | .ok (_, tracker) => (.ok (), { v with tracker })
    | .error (.failed error) => (.error (.failed error.message), v)
    | .error .crashed => (.error .crashed, { v with poisoned := true })

/-- Make the effects of delivered events durable; they are as soon as they are in the state. -/
def flush (v : View σ) : Attempt String Unit × View σ := (.ok (), v)

def clear (v : View σ) : Attempt String Unit × View σ :=
  if v.poisoned then (.error (.failed poisonedReason), v)
  else (.ok (), { v with tracker := v.tracker.reset })

end View

end Journal
