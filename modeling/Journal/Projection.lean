import Journal.Projection.Registry

/-!
# Projections

A projection folds the events of the log into a state. Events may be delivered again after a crash;
the projection keeps the position of the last event it has taken beside its state and passes over
what is not beyond it, so that state and position never disagree. The state can be thrown away at
any time and built again from the first event.
-/

namespace Journal

/-- A state folded from events, and how far. The watermark is the position of the last event in the
state; the state before the first event is kept beside it, for when everything is folded anew. -/
structure Projection (σ : Type) where
  registry : Registry σ
  initial : σ
  state : σ
  watermark : EventId

namespace Projection

variable {σ : Type}

def start (registry : Registry σ) (initial : σ) : Projection σ := ⟨registry, initial, initial, 0⟩

/-- A projection with a state that was kept. Nothing can be checked about the state, and it is taken
to be the fold of the events up to the watermark. -/
def resume (registry : Registry σ) (initial state : σ) (watermark : EventId) : Projection σ :=
  ⟨registry, initial, state, watermark⟩

/-- Fold one event into the state, unless it is in it already. When the handler fails neither the
state nor the watermark has moved, so that the event can be delivered again. -/
def apply (p : Projection σ) (e : Envelope Json) : Attempt ProjectionError (Projection σ) :=
  if e.id ≤ p.watermark then .ok p
  else (p.registry.apply p.state e).map fun state => { p with state, watermark := e.id }

def reset (p : Projection σ) : Projection σ := { p with state := p.initial, watermark := 0 }

end Projection

end Journal
