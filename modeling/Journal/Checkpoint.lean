import Journal.Keyed
import Journal.Store.Error
import Journal.Time.Instant

/-!
# Checkpoints

A checkpoint is the position of the last event whose effects a named consumer has made durable. A
consumer that was never seen is at zero; a checkpoint moves forward only, except that a rebuild
resets it to zero. `Checkpoints.positionOf` is the view: a map from names to positions that is zero
almost everywhere.
-/

namespace Journal

/-- A failure of a store of checkpoints. A regression is the only one of its own, and says where the
consumer is; the others are what the storage below has reported, told apart by whether waiting may
help. -/
inductive CheckpointError
  | regression (consumer : String) (current attempted : EventId)
  | unavailable (reason : String)
  | storage (reason : String)
  deriving DecidableEq

namespace CheckpointError

def isRetryable : CheckpointError → Bool
  | .unavailable _ => true
  | _ => false

/-- A failure of the storage below. Of all that can go wrong with a log only its being unavailable
is passed on as such: checkpoints know neither conflicts nor keys. -/
def ofStore : StoreError → CheckpointError
  | .unavailable reason => .unavailable reason
  | e => .storage e.message

def message : CheckpointError → String
  | .regression consumer current attempted =>
    s!"checkpoint regression for '{consumer}': at {current}, attempted {attempted}"
  | .unavailable reason => s!"checkpoint storage unavailable: {reason}"
  | .storage reason => s!"checkpoint storage error: {reason}"

end CheckpointError

structure Checkpoint where
  consumer : String
  position : EventId
  updatedAt : Instant
  deriving DecidableEq

structure Lag where
  consumer : String
  position : EventId
  lag : Nat
  deriving DecidableEq

/-- How far the consumer of a checkpoint is behind the head of the log. A head that was looked up
earlier may be behind the checkpoint, and then the consumer is not behind at all. -/
def Checkpoint.lagBehind (head : EventId) (c : Checkpoint) : Lag :=
  ⟨c.consumer, c.position, head - c.position⟩

structure Checkpoints where
  table : Keyed String Checkpoint

namespace Checkpoints

def empty : Checkpoints := ⟨.empty⟩

/-- Where a consumer is. One that nobody has seen is at the start of the log, and need not be
entered before it runs. -/
def positionOf (cs : Checkpoints) (consumer : String) : EventId :=
  match cs.table.get? consumer with
  | some c => c.position
  | none => 0

def place (cs : Checkpoints) (consumer : String) (position : EventId) (now : Instant) :
    Checkpoints :=
  ⟨cs.table.insert consumer ⟨consumer, position, now⟩⟩

/-- Move a consumer forward. Going back would deliver events again that were processed, and is
refused; staying where it is, is not, and renews the instant. -/
def advance (cs : Checkpoints) (consumer : String) (position : EventId) (now : Instant) :
    Except CheckpointError Checkpoints :=
  if position < cs.positionOf consumer then
    .error (.regression consumer (cs.positionOf consumer) position)
  else .ok (cs.place consumer position now)

/-- Put a consumer back to the start of the log. This is the one way back, and it is asked for by
name. -/
def reset (cs : Checkpoints) (consumer : String) (now : Instant) : Checkpoints :=
  cs.place consumer 0 now

def nameLE (a b : Checkpoint) : Bool := decide (a.consumer ≤ b.consumer)

def list (cs : Checkpoints) : List Checkpoint := cs.table.values.mergeSort nameLE

theorem positionOf_place (cs : Checkpoints) (c d : String) (p : EventId) (now : Instant) :
    (cs.place c p now).positionOf d = if d = c then p else cs.positionOf d := by
  by_cases h : d = c <;> simp [place, positionOf, Keyed.get?_insert, h]

end Checkpoints

end Journal
