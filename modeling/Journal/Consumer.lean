import Journal.Backoff
import Journal.Checkpoint
import Journal.Outcome
import Journal.Read

/-!
# Consumers

A consumer follows the log: it reads the events past its checkpoint, hands each to its handler, lets
the handler make their effects durable, and only then moves the checkpoint. When anything fails in
between, the events are delivered again in the next cycle. A rebuild puts the checkpoint back to
zero first and then has the handler drop what it derived.

The cycle asks for everything it does not decide itself. Cycles and rebuilds of one consumer exclude
each other: each asks for the turn before it starts and gives it back at its end, also when the
handler crashes.
-/

namespace Journal

namespace Consumer

/-- Where a consumer is in its cycle. Nothing is decided on it; it is there to be looked at from
outside, while a cycle is under way. -/
inductive State
  | idle
  | fetching
  | applying
  | checkpointing
  | rebuilding
  deriving DecidableEq, Repr

def State.name : State → String
  | .idle => "idle"
  | .fetching => "fetching"
  | .applying => "applying"
  | .checkpointing => "checkpointing"
  | .rebuilding => "rebuilding"

end Consumer

/-- Why a cycle or a rebuild ended early. What the handler refuses is told apart from what a store
refuses, since only the first is about the events; the checkpoint has not moved in any of these
cases, so that whatever was read is delivered again. -/
inductive ConsumerError
  | apply (consumer : String) (id : EventId) (reason : String)
  | flush (consumer : String) (reason : String)
  | clear (consumer : String) (reason : String)
  | store (e : StoreError)
  | checkpoint (e : CheckpointError)
  deriving DecidableEq

namespace ConsumerError

/-- Waiting and trying again may help. A handler that fails on an event may well succeed on its next
delivery, and so may one that could not make its effects durable; one that could not drop what it
derived is left to whoever asked for the rebuild. -/
def isRetryable : ConsumerError → Bool
  | .apply .. | .flush .. => true
  | .clear .. => false
  | .store e => e.isRetryable
  | .checkpoint e => e.isRetryable

def message : ConsumerError → String
  | .apply consumer id reason => s!"consumer '{consumer}' failed to apply event {id}: {reason}"
  | .flush consumer reason => s!"consumer '{consumer}' failed to flush: {reason}"
  | .clear consumer reason => s!"consumer '{consumer}' failed to clear derived state: {reason}"
  | .store e => e.message
  | .checkpoint e => e.message

end ConsumerError

namespace Consumer

/-- How a consumer is run: the most events of a cycle, the time between two looks at a log that has
nothing new, and the waiting times after failures. The attempts of the backoff are not counted, as a
consumer never gives up on what can be retried. -/
structure Config where
  batchSize : Nat
  pollInterval : Duration
  backoff : Backoff

/-- A hundred events at a time and ten looks in a second. After failures in a row the waiting time
grows to half a minute, and stays there. -/
def Config.standard : Config :=
  ⟨100, .ofMillis 100, .exponential (2 ^ 32 - 1) (.ofMillis 100) (.ofSeconds 30)⟩

/-- What a cycle or a rebuild asks for: the turn and its end, the two stores, and the handler. Each
is one question, so that whatever others do between any two of them is part of every statement about
a cycle. -/
inductive Ask
  | acquire
  | release
  | enter (s : State)
  | position
  | filter
  | read (after : EventId) (limit : Nat) (f : Filter)
  | apply (e : Event)
  | flush
  | advance (position : EventId)
  | reset
  | clear

/-- The answers to a cycle or a rebuild. A handler answers with an `Attempt`, since its code can
crash; a store can only fail. -/
def calls : Interface where
  Ask := Ask
  Answer
    | .acquire | .release | .enter _ => Unit
    | .position => Except CheckpointError EventId
    | .filter => Filter
    | .read .. => Except StoreError Page
    | .apply _ | .flush | .clear => Attempt String Unit
    | .advance _ | .reset => Except CheckpointError Unit

/-- What a cycle came to. Events count every time they are handed to the handler, redelivered ones
included; a consumer has caught up when there was nothing behind the page, whether or not anything
was on it. -/
structure Progress where
  applied : Nat
  position : EventId
  caughtUp : Bool
  deriving DecidableEq, Repr

def failed {α : Type} (e : ConsumerError) : Program calls (Attempt ConsumerError α) :=
  .done (.error (.failed e))

/-- Hand events to the handler one after the other. The first that fails ends it, with its number:
the events behind it are not delivered out of order. -/
def applyAll (name : String) : List Event → Program calls (Attempt ConsumerError Unit)
  | [] => .done (.ok ())
  | e :: rest =>
    .ask (.apply e) fun
      | .ok () => applyAll name rest
      | .error (.failed reason) => failed (.apply name e.id reason)
      | .error .crashed => .done (.error .crashed)

/-- Move the checkpoint past what was read. The effects of the events come first, since a checkpoint
that was moved before they are durable would lose them in a restart; a page without events has no
effects, and only moves the checkpoint past what the filter hides. -/
def settle (name : String) (position : EventId) (page : Page) :
    Program calls (Attempt ConsumerError Progress) :=
  let progress : Progress := ⟨page.events.length, max page.next position, !page.hasMore⟩
  let advance : Program calls (Attempt ConsumerError Progress) :=
    .ask (.advance page.next) fun
      | .ok () => .done (.ok progress)
      | .error e => failed (.checkpoint e)
  if position < page.next then
    .ask (.enter .checkpointing) fun _ =>
      if page.events.isEmpty then advance
      else .ask .flush fun
        | .ok () => advance
        | .error (.failed reason) => failed (.flush name reason)
        | .error .crashed => .done (.error .crashed)
  else .done (.ok progress)

/-- Read past the checkpoint, apply, make durable, move the checkpoint. This is the order that
delivers every event at least once: whatever fails, the checkpoint is still before the events that
were read. -/
def cycle (name : String) (batchSize : Nat) : Program calls (Attempt ConsumerError Progress) :=
  .ask (.enter .fetching) fun _ =>
    .ask .position fun
      | .error e => failed (.checkpoint e)
      | .ok position =>
        .ask .filter fun f =>
          .ask (.read position batchSize f) fun
            | .error e => failed (.store e)
            | .ok page =>
              .ask (.enter .applying) fun _ =>
                (applyAll name page.events).bind fun
                  | .ok () => settle name position page
                  | .error stop => .done (.error stop)

/-- Put the checkpoint back to zero and have the handler drop what it derived, in this order: when
the second fails, the events are only delivered once more. -/
def resetAndClear (name : String) : Program calls (Attempt ConsumerError Unit) :=
  .ask .reset fun
    | .error e => failed (.checkpoint e)
    | .ok () =>
      .ask .clear fun
        | .ok () => .done (.ok ())
        | .error (.failed reason) => failed (.clear name reason)
        | .error .crashed => .done (.error .crashed)

/-- Run alone among the cycles and rebuilds of the consumer. The turn is given back in every case;
the consumer is idle afterwards, unless the handler crashed, in which case it is left in the state
in which that happened. -/
def exclusively {α : Type} (body : Program calls (Attempt ConsumerError α)) :
    Program calls (Attempt ConsumerError α) :=
  .ask .acquire fun _ =>
    body.bind fun r =>
      match r with
      | .error .crashed => .ask .release fun _ => .done r
      | _ => .ask (.enter .idle) fun _ => .ask .release fun _ => .done r

def runOnce (name : String) (batchSize : Nat) : Program calls (Attempt ConsumerError Progress) :=
  exclusively (cycle name batchSize)

/-- Put the consumer back to the start of the log. Nothing is replayed here; the cycles that follow
do that, as with a consumer that has never run. -/
def rebuild (name : String) : Program calls (Attempt ConsumerError Unit) :=
  exclusively (.ask (.enter .rebuilding) fun _ => resetAndClear name)

/-- Run cycles until one has caught up with the log, and count the events applied. Writers can be
faster than a consumer for as long as they like, so that there is no bound from the log: `rounds` is
one, and nothing is returned when so many cycles were not enough. -/
def catchUp (name : String) (batchSize : Nat) :
    Nat → Nat → Program calls (Option (Attempt ConsumerError Nat))
  | 0, _ => .done none
  | rounds + 1, applied =>
    (runOnce name batchSize).bind fun
      | .ok p =>
        if p.caughtUp then .done (some (.ok (applied + p.applied)))
        else catchUp name batchSize rounds (applied + p.applied)
      | .error stop => .done (some (.error stop))

end Consumer

end Journal
