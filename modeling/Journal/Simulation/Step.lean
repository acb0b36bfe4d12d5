import Journal.Simulation.World

/-!
# Steps

What can be done in a world, one step after the other. Most steps are actions by themselves; a
consumer can be left to poll beside a script of orders, and several steps can be taken side by side,
each from a time of its own.
-/

namespace Journal.Simulation

/-- Which guard is meant: the store's own or the one beside it. -/
inductive Table
  | store
  | standalone
  deriving DecidableEq, Repr

inductive StoreRequest
  | append (a : Aggregate) (expected : Seq) (drafts : List Draft)
  | read (after : EventId) (limit : Option Nat) (f : Filter) (s : Scope)
  | history (a : Aggregate)
  | latest (a : Aggregate)
  | head
  | find (k : Guard.Key)
  | commit (k : Guard.Key) (hash : String) (a : Aggregate) (expected : Seq) (drafts : List Draft)
      (r : Responder)
  | dispatch (q : Request) (d : Decider) (r : Responder) (b : Backoff)
  | position (consumer : String)
  | advance (consumer : String) (position : EventId)
  | reset (consumer : String)
  | list
  | lag (head : EventId)

inductive GuardRequest
  | reserve (k : Guard.Key) (hash : String)
  | record (k : Guard.Key) (hash : String) (r : Response)
  | release (k : Guard.Key) (hash : String)
  | lookup (k : Guard.Key)
  | purge (asked : Duration)

inductive Action
  | request (r : StoreRequest)
  | guard (t : Table) (r : GuardRequest)
  | clock (wall : Instant)
  | fault (c : Call) (e : StoreError) (times : Nat)
  | size
  | consumer (name : String) (config : Consumer.Config) (s : Scope) (h : Handler)
  | runOnce (consumer : String)
  | catchUp (consumer : String)
  | rebuild (consumer : String)
  | inspect (consumer : String)
  | rebuildApart (consumer : String) (cancel : Bool)
  | refused (e : StoreError)

/-- What a script does beside a consumer that polls: it asks it to stop or to look again, gives up
the means to ask it anything, or looks at its state. -/
inductive Order
  | stop
  | nudge
  | drop
  | state
  | act (a : Action)

/-- A step. Some start a task and are answered before it has ended, and some wait for what was
started before; steps that are taken together begin at their own times each. -/
inductive Step
  | act (a : Action)
  | poll (consumer : String) (stopped : Bool) (script : List (Nat × Order))
  | together (steps : List (Nat × Step))

/-- What runs beside the task that started it. A job cannot answer, so that each is given the
addresses at which its replies are to be left. -/
inductive Job
  | rebuild (runner number : Nat)
  | poll (runner signal address : Nat)
  | script (runner signal polling start : Nat) (orders : List ((Nat × Order) × Nat))
  | step (s : Step) (delay address : Nat)

/-- The consumer that a step is about, for the report that follows it. -/
def Step.consumer? : Step → Option String
  | .act (.runOnce c) | .act (.catchUp c) | .act (.rebuild c) | .act (.inspect c) | .act
      (.rebuildApart c _)
  | .poll c _ _ => some c
  | _ => none

end Journal.Simulation
