import Journal.Consumer.Rebuild
import Journal.Simulation.Script
import Journal.Store

/-!
# What a step comes to
-/

namespace Journal.Simulation

/-- How a consumer stands: its state, what its handler has noted since the last report, and what its
projection holds. -/
structure Report where
  state : Consumer.State
  trace : List Entry
  projection : Option (Except String (Tally × EventId))

inductive Failure
  | store (e : StoreError)
  | checkpoint (e : CheckpointError)
  | consumer (e : ConsumerError)
  | crashed

/-- What a step comes to. A signal is answered with whether anybody was listening to it, unless
nobody could send it any more. -/
inductive Reply
  | done
  | failed (f : Failure)
  | instant (t : Instant)
  | number (n : Nat)
  | size (n : Nat)
  | events (es : List Event)
  | page (p : Page)
  | verdict (v : Guard.Verdict)
  | record (r : Option Guard.Record)
  | outcome (o : Outcome)
  | dispatched (r : Dispatch.Result) (decisions : List Nat) (elapsed : Nat)
  | checkpoints (cs : List Checkpoint)
  | lags (ls : List Lag)
  | progress (p : Consumer.Progress)
  | state (s : Consumer.State)
  | listening (b : Option Bool)
  | inspected (name : String) (position head : Except ConsumerError EventId)
      (state : Consumer.State)
  | rebuilt (result : Except RebuildError Rebuild.Status) (first last : Rebuild.Status)
      (cancelled : Bool) (waited : Nat)
  | ran (result : Attempt ConsumerError Unit) (ended : Nat) (script : List Reply)
  | joined (results : List (Nat × Reply)) (reports : List (String × Report))
  | reported (r : Reply) (report : Report)

namespace Reply

def ofStore {α : Type} (f : α → Reply) : Except StoreError α → Reply
  | .ok a => f a
  | .error e => .failed (.store e)

def ofCheckpoints {α : Type} (f : α → Reply) : Except CheckpointError α → Reply
  | .ok a => f a
  | .error e => .failed (.checkpoint e)

def ofCommit : Attempt StoreError Outcome → Reply
  | .ok o => .outcome o
  | .error (.failed e) => .failed (.store e)
  | .error .crashed => .failed .crashed

def ofConsumer {α : Type} (f : α → Reply) : Attempt ConsumerError α → Reply
  | .ok a => f a
  | .error (.failed e) => .failed (.consumer e)
  | .error .crashed => .failed .crashed

/-- Code that crashed leaves nothing to report beside the crash. -/
def isCrash : Reply → Bool
  | .failed .crashed | .dispatched (.error .crashed) _ _ | .ran (.error .crashed) _ _ => true
  | _ => false

end Reply

end Journal.Simulation
