import Journal.Keyed
import Journal.Outcome
import Journal.Projection.Error

/-!
# The registry of a projection's handlers

A handler takes the state one event further. Handlers are found by type and version, and a type can
be declared irrelevant in all its versions; every other event is an error, a new version of a known
type included. A type is never both handled and ignored.
-/

namespace Journal

/-- Code that folds one event into a state. It is supplied by whoever makes the projection, so that
it may fail, and crash. -/
abbrev Handler (σ : Type) := σ → Envelope Json → Attempt ProjectionError σ

structure Registry (σ : Type) where
  handlers : Keyed (String × Nat) (Handler σ)
  ignored : List String

namespace Registry

variable {σ : Type}

def empty : Registry σ := ⟨.empty, []⟩

def handles (r : Registry σ) (type : String) (version : Nat) : Bool :=
  r.handlers.contains (type, version)

def ignores (r : Registry σ) (type : String) : Bool := r.ignored.contains type

def size (r : Registry σ) : Nat := r.handlers.size

def handlesType (r : Registry σ) (type : String) : Bool := r.handlers.keys.any (·.1 == type)

/-- Add a handler for a type and version. A handler is never replaced, and a type that is ignored
gets none, since it could not be told then which of the two was meant. -/
def register (r : Registry σ) (type : String) (version : Nat) (h : Handler σ) :
    Except ProjectionError (Registry σ) :=
  if r.handles type version || r.ignores type then .error (.duplicateHandler type version)
  else .ok { r with handlers := r.handlers.insert (type, version) h }

/-- Add a handler that works on the decoded payload. A payload without the shape fails the delivery
before the handler sees anything. -/
def registerTyped (r : Registry σ) (shape : Payload.Shape)
    (h : σ → Envelope Payload.Fields → Attempt ProjectionError σ) :
    Except ProjectionError (Registry σ) :=
  r.register shape.type shape.version fun state e =>
    match shape.decode e.payload with
    | .ok fields => h state (e.withPayload fields)
    | .error fault => .error (.failed (.payload e.type e.version fault))

/-- Declare a type irrelevant, in all its versions. Doing so again changes nothing, and it is
refused for a type that has a handler in any version. -/
def ignore (r : Registry σ) (type : String) : Except ProjectionError (Registry σ) :=
  if r.handlesType type then .error (.duplicateHandler type 0)
  else if r.ignores type then .ok r
  else .ok { r with ignored := r.ignored ++ [type] }

/-- Fold one event into a state. An event that nobody has declared anything about is an error and
not passed over: a projection that missed it would be wrong without anyone knowing. -/
def apply (r : Registry σ) (state : σ) (e : Envelope Json) : Attempt ProjectionError σ :=
  if r.ignores e.type then .ok state
  else match r.handlers.get? (e.type, e.version) with
    | some h => h state e
    | none => .error (.failed (.unknownEvent e.type e.version))

def keyLE (a b : String × Nat) : Bool := a.1 < b.1 || (a.1 == b.1 && a.2 ≤ b.2)

/-- The registry as diagnostics show it. -/
def describe (r : Registry σ) : String :=
  let handler (k : String × Nat) : String := "(" ++ Text.quoted k.1 ++ ", " ++ toString k.2 ++ ")"
  "HandlerRegistry \x7b handlers: [" ++ ", ".intercalate
    ((r.handlers.keys.mergeSort keyLE).map handler) ++
    "], ignored: \x7b" ++ ", ".intercalate (r.ignored.map Text.quoted) ++ "\x7d \x7d"

end Registry

end Journal
