import Journal.Consumer
import Journal.Dispatch
import Journal.Simulation.Tally

/-!
# Supplied code by description

What a caller supplies as code is described by data here: handlers of consumers, decisions of
commands and the code that makes responses. A handler can be told to fail and to take its time, and
it notes what it is asked to do.
-/

namespace Journal.Simulation

/-! ## Responses -/

/-- Code that makes a response: a status, and a body that may list the positions of the events. It
can be told to crash instead, as the code of a caller may. -/
structure Responder where
  status : Nat
  body : Option Json
  listing : Bool
  crashing : Bool

def positions (es : List Event) : Json := .list (es.map fun e => .list [.int e.id, .int e.seq])

def Responder.respond (r : Responder) : Respond := fun es =>
  if r.crashing then .error .crashed
  else .ok ⟨r.status, if r.listing then some (positions es) else r.body⟩

/-! ## Decisions -/

/-- Code that decides a command. Before each decision another writer may append to the aggregate, so
that conflicts happen where a script wants them; a history that is long enough is refused. -/
structure Decider where
  drafts : List Draft
  intrusions : List (List Draft)
  refusal : Option (DomainError × Nat)

def Decider.decide (d : Decider) (history : List Event) : Except DomainError (List Draft) :=
  match d.refusal with
  | some (e, least) => if least ≤ history.length then .error e else .ok d.drafts
  | none => .ok d.drafts

/-! ## Handlers -/

inductive Deed
  | filter
  | fail (id : EventId)
  | apply (id : EventId)
  | flush
  | clear
  deriving DecidableEq, Repr

structure Entry where
  deed : Deed
  moment : Option (Consumer.State × Nat)
  deriving DecidableEq, Repr

/-- How a scripted handler behaves: which events fail, before anything is done or at the end of the
application, and how often; how long each takes; and on which event the last rebuild of the consumer
is asked to give up. -/
structure Script where
  filter : Filter
  failing : Keyed EventId Nat
  pauses : Keyed EventId Nat
  cancelOn : Option EventId
  failingAfter : Keyed EventId Nat
  flushFailures : Nat
  clearFailures : Nat

inductive Handler
  | scripted (s : Script)
  | plain
  | tally (v : View Tally)

/-- Count down under a key; nothing when the count has run out. -/
def countDown (m : Keyed EventId Nat) (id : EventId) : Option (Keyed EventId Nat) :=
  match m.get? id with
  | some (n + 1) => some (m.insert id n)
  | _ => none

end Journal.Simulation
