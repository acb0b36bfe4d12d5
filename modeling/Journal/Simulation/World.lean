import Journal.Simulation.Reply

/-!
# A world to run in

A world holds a store, checkpoints, a guard of its own and consumers, with a wall clock that stands
still until it is set. Failures can be laid in wait for calls of the store and the checkpoints: a
call that meets one fails with it and does not reach the store.
-/

namespace Journal.Simulation

inductive Call
  | append
  | read
  | history
  | latest
  | head
  | commit
  | find
  | position
  | advance
  | reset
  | list
  deriving DecidableEq, Repr

/-- A consumer and its handler. Tickets and their serving make the turn go to whoever asked first;
the trace is what the handler has noted since the last report. -/
structure Runner where
  name : String
  config : Consumer.Config
  scope : Scope
  handler : Handler
  state : Consumer.State
  trace : List Entry
  nextTicket : Nat
  serving : Nat
  rebuild : Option Nat

structure Background where
  status : Rebuild.Status
  cancelled : Bool

/-- A signal to stop, as its receiver sees it: how often it was sent, how often it had been sent
when the receiver last looked, and whether there is still anybody at either end. Sending the same
value twice counts twice, so that whoever waits is woken by both. -/
structure Signal where
  value : Bool
  version : Nat
  seen : Nat
  hasSender : Bool
  hasReceiver : Bool

/-- A world to run in. Consumers are kept by number and found by name; the letters are replies that
tasks leave for each other, with the time. -/
structure World where
  wall : Instant
  store : Store
  checkpoints : Checkpoints
  standalone : Guard
  faults : Keyed Call (List StoreError)
  runners : Array Runner
  names : Keyed String Nat
  rebuilds : Array Background
  signals : Array Signal
  letters : Array (Option (Nat × Reply))

namespace World

def new (wall : Instant) (policy : Policy) : World :=
  ⟨wall, .empty policy, .empty, .empty, .empty, #[], .empty, #[], #[], #[]⟩

/-! ## Failures in wait -/

/-- Let failures lie in wait for a call, and count those that wait for it. -/
def layFaults (w : World) (c : Call) (e : StoreError) (times : Nat) : Nat × World :=
  let waiting := (w.faults.get? c).getD [] ++ List.replicate times e
  (waiting.length, { w with faults := w.faults.insert c waiting })

/-- Make a call, unless a failure lies in wait for it. -/
def calling {α : Type} (c : Call) (f : World → Except StoreError α × World) (w : World) :
    Except StoreError α × World :=
  match w.faults.get? c with
  | some (e :: rest) => (.error e, { w with faults := w.faults.insert c rest })
  | _ => f w

/-! ## The store -/

def onStore {α : Type} (f : Store → α × Store) (w : World) : α × World :=
  let (a, store) := f w.store
  (a, { w with store })

def lookStore {α : Type} (f : Store → α) (w : World) : α × World := (f w.store, w)

def append (a : Aggregate) (expected : Seq) (drafts : List Draft) :
    World → Except StoreError (List Event) × World :=
  calling .append (onStore (·.append a expected drafts))

def read (after : EventId) (limit : Option Nat) (f : Filter) (s : Scope) :
    World → Except StoreError Page × World :=
  calling .read (lookStore (·.read after limit f s))

def history (a : Aggregate) : World → Except StoreError (List Event) × World :=
  calling .history (lookStore (·.history a))

def latest (a : Aggregate) : World → Except StoreError Seq × World :=
  calling .latest (lookStore (·.latest a))

def head : World → Except StoreError EventId × World := calling .head (lookStore (·.head))

def find (k : Guard.Key) : World → Except StoreError (Option Guard.Record) × World :=
  calling .find (lookStore (·.find k))

def commit (c : Command) (w : World) : Attempt StoreError Outcome × World :=
  match calling .commit (fun w => (.ok (), w)) w with
  | (.error e, w) => (.error (.failed e), w)
  | (.ok (), w) => onStore (·.commit c w.wall) w

def intrude (a : Aggregate) (drafts : List Draft) (w : World) : World :=
  if drafts.isEmpty then w
  else { w with store := (w.store.append a (w.store.log.latest a) drafts).2 }

/-! ## Checkpoints -/

/-- Make a call of the checkpoints, unless a failure lies in wait for it. -/
def callingCheckpoints {α : Type} (c : Call) (f : World → Except CheckpointError α × World)
    (w : World) : Except CheckpointError α × World :=
  match calling c (fun w => (.ok (), w)) w with
  | (.error e, w) => (.error (.ofStore e), w)
  | (.ok (), w) => f w

def position (consumer : String) : World → Except CheckpointError EventId × World :=
  callingCheckpoints .position fun w => (.ok (w.checkpoints.positionOf consumer), w)

def advance (consumer : String) (position : EventId) :
    World → Except CheckpointError Unit × World :=
  callingCheckpoints .advance fun w =>
    match w.checkpoints.advance consumer position w.wall with
    | .ok checkpoints => (.ok (), { w with checkpoints })
    | .error e => (.error e, w)

def reset (consumer : String) : World → Except CheckpointError Unit × World :=
  callingCheckpoints .reset fun w =>
    (.ok (), { w with checkpoints := w.checkpoints.reset consumer w.wall })

def list : World → Except CheckpointError (List Checkpoint) × World :=
  callingCheckpoints .list fun w => (.ok w.checkpoints.list, w)

/-! ## Consumers -/

def addRunner (name : String) (config : Consumer.Config) (scope : Scope) (handler : Handler)
    (w : World) : World :=
  { w with
    runners := w.runners.push ⟨name, config, scope, handler, .idle, [], 0, 0, none⟩
    names := w.names.insert name w.runners.size }

def changeRunner (i : Nat) (f : Runner → Runner) (w : World) : World :=
  { w with runners := w.runners.modify i f }

def handler? (i : Nat) (w : World) : Option Handler := (w.runners[i]?).map (·.handler)

def setHandler (i : Nat) (handler : Handler) : World → World :=
  changeRunner i fun r => { r with handler }

/-- Note a deed of a handler, with the moment. -/
def note (i : Nat) (d : Deed) (now : Nat) : World → World :=
  changeRunner i fun r => { r with trace := r.trace ++ [⟨d, some (r.state, now)⟩] }

/-- Note a deed of a handler that does not look at the moment. -/
def notePlain (i : Nat) (d : Deed) : World → World :=
  changeRunner i fun r => { r with trace := r.trace ++ [⟨d, none⟩] }

def cancelRebuild (i : Nat) (w : World) : World :=
  match (w.runners[i]?).bind (·.rebuild) with
  | some n => { w with rebuilds := w.rebuilds.modify n fun b => { b with cancelled := true } }
  | none => w

/-- How a consumer stands; its trace starts anew. -/
def report (i : Nat) (w : World) : Option Report × World :=
  match w.runners[i]? with
  | none => (none, w)
  | some r =>
    let projection := match r.handler with
      | .tally v => some (v.read.map fun p => (p.state, p.watermark))
      | _ => none
    (some ⟨r.state, r.trace, projection⟩, changeRunner i (fun r => { r with trace := [] }) w)

/-! ## Letters -/

def newLetter (w : World) : Nat × World :=
  (w.letters.size, { w with letters := w.letters.push none })

def newLetters (count : Nat) (w : World) : List Nat × World :=
  (List.range' w.letters.size count, { w with letters := w.letters ++ Array.replicate count none })

def post (address : Nat) (time : Nat) (r : Reply) (w : World) : World :=
  { w with letters := w.letters.setIfInBounds address (some (time, r)) }

def letter? (address : Nat) (w : World) : Option (Nat × Reply) := (w.letters[address]?).join

end World

end Journal.Simulation
