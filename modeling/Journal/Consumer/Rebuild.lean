import Journal.Consumer

/-!
# Rebuilds in the background

A rebuild resets its consumer and then makes cycles until the checkpoint has reached the head that
the log had after the reset, or a cycle has caught up. It can be asked to give up between two
cycles; the checkpoint then stays where the last one left it. What it has done so far is published
after every step.
-/

namespace Journal

namespace Rebuild

inductive Phase
  | resetting
  | replaying
  | complete
  | cancelled
  | failed
  deriving DecidableEq, Repr

def Phase.name : Phase → String
  | .resetting => "resetting"
  | .replaying => "replaying"
  | .complete => "complete"
  | .cancelled => "cancelled"
  | .failed => "failed"

/-- What a rebuild publishes about itself. The target is the head of the log as it was after the
reset: writers may go on, and a rebuild that ran after them would never end. Only the events of its
own cycles count, although other cycles of the consumer may come between them. -/
structure Status where
  consumer : String
  phase : Phase
  processed : Nat
  position : EventId
  target : EventId
  isComplete : Bool
  error : Option String
  deriving DecidableEq

def Status.start (consumer : String) : Status := ⟨consumer, .resetting, 0, 0, 0, false, none⟩

end Rebuild

/-- Why a rebuild did not complete. Having been asked to give up is a reason of its own, as nothing
is wrong with a consumer that stops there: it is in the middle of the log, and its next cycles go
on. -/
inductive RebuildError
  | consumer (e : ConsumerError)
  | cancelled
  | failed (reason : String)
  deriving DecidableEq

namespace RebuildError

def message : RebuildError → String
  | .consumer e => e.message
  | .cancelled => "replay cancelled"
  | .failed reason => s!"replay failed: {reason}"

end RebuildError

namespace Rebuild

/-- What a rebuild asks for. It drives the consumer through the same reset and cycles as anybody
else, and takes no part in them. -/
inductive Ask
  | reset
  | head
  | cancelled
  | cycle
  | publish (s : Status)

def calls : Interface where
  Ask := Ask
  Answer
    | .reset => Attempt ConsumerError Unit
    | .head => Except StoreError EventId
    | .cancelled => Bool
    | .cycle => Attempt ConsumerError Consumer.Progress
    | .publish _ => Unit

def Status.ended (s : Status) : Except RebuildError Unit → Status
  | .ok () => { s with isComplete := true, phase := .complete }
  | .error .cancelled => { s with isComplete := true, phase := .cancelled }
  | .error e => { s with isComplete := true, phase := .failed, error := some e.message }

/-- Publish how a rebuild ended. A rebuild that crashes publishes nothing more. -/
def finish (s : Status) (r : Except RebuildError Unit) : Program calls Unit :=
  .ask (.publish (s.ended r)) .done

def Status.afterCycle (s : Status) (p : Consumer.Progress) : Status :=
  { s with processed := s.processed + p.applied, position := p.position }

/-- Make cycles until the target is reached or there is nothing more to read, `rounds` of them at
most. Whether to give up is asked before every cycle and in none, so that the checkpoint is where
the last cycle left it. -/
def replay : Nat → Status → Program calls Unit
  | 0, _ => .done ()
  | rounds + 1, s =>
    .ask .cancelled fun (cancelled : Bool) =>
      if cancelled then finish s (.error .cancelled)
      else .ask .cycle fun
        | .error (.failed e) => finish s (.error (.consumer e))
        | .error .crashed => .done ()
        | .ok p =>
          let s := s.afterCycle p
          .ask (.publish s) fun _ =>
            if s.target ≤ p.position ∨ p.caughtUp then finish s (.ok ())
            else replay rounds s

/-- Rebuild a consumer: back to the start of the log, then cycles up to where its head was. The head
is looked at after the reset, and a reset that fails ends the rebuild before anything is
replayed. -/
def program (rounds : Nat) (consumer : String) : Program calls Unit :=
  let s := Status.start consumer
  .ask .reset fun
    | .error (.failed e) => finish s (.error (.consumer e))
    | .error .crashed => .done ()
    | .ok () =>
      .ask .head fun
        | .error e => finish s (.error (.consumer (.store e)))
        | .ok target =>
          let s := { s with phase := .replaying, target }
          .ask (.publish s) fun _ => replay rounds s

/-- The answer to somebody who waits for a rebuild, once it has ended. It is read off the status
that was published, so that whoever comes late gets the same one. -/
def Status.result? (s : Status) : Option (Except RebuildError Status) :=
  if s.isComplete then
    match s.phase with
    | .cancelled => some (.error .cancelled)
    | .failed => some (.error (.failed (s.error.getD "")))
    | _ => some (.ok s)
  else none

def pollInterval : Duration := .ofMillis 20

end Rebuild

end Journal
