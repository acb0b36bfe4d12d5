import Journal.Consumer

/-!
# Polling

A consumer that runs by itself makes one cycle after the other: at once while there is more to read,
after the poll interval once it has caught up, and after a growing delay while cycles fail in a way
that may pass. It looks for a request to stop before each cycle and never leaves one half-way; any
other failure stops it with that failure. While it waits it can be woken early.
-/

namespace Journal.Consumer

/-- How a wait ended: the time had passed, somebody asked to look again, or nobody is left who could
ask to stop. The last is told apart because a consumer that cannot be stopped any more has to stop
by itself. -/
inductive Waking
  | elapsed
  | signalled
  | abandoned
  deriving DecidableEq, Repr

namespace Polling

/-- What polling asks for. Whether it has been asked to stop is a question of its own, put between
cycles and never in one, so that a cycle that has begun is finished. -/
inductive Ask
  | stopping
  | cycle
  | chance
  | wait (d : Duration)

abbrev calls : Interface where
  Ask := Ask
  Answer
    | .stopping => Bool
    | .cycle => Attempt ConsumerError Progress
    | .chance => Float
    | .wait _ => Waking

/-- The most failures in a row that are told apart: they are counted in thirty-two bits, and the
count stays at its end. -/
def mostFailures : Nat := 2 ^ 32 - 1

/-- What to do after a cycle. A rest follows a success and clears the failures in a row; backing off
keeps them, since the waiting time is computed from their number. -/
inductive Next
  | rest (d : Duration)
  | backOff (failures : Nat)
  | stop (s : Stop ConsumerError)

/-- What to do after a cycle that followed so many failures in a row. A failure that can be retried
is one more in the row; one that cannot ends the polling, and so does a crash. -/
def next (c : Config) (failures : Nat) : Attempt ConsumerError Progress → Next
  | .ok p => .rest (if p.caughtUp then c.pollInterval else .zero)
  | .error (.failed e) =>
    if e.isRetryable then .backOff (min (failures + 1) mostFailures) else .stop (.failed e)
  | .error .crashed => .stop .crashed

/-- Wait, if there is anything to wait for, and go on unless nobody is left who could ask to stop.
Without a wait nothing is asked, so that a consumer that is behind reads page after page. -/
def waitThen (d : Duration) (again : Program calls (Option (Attempt ConsumerError Unit))) :
    Program calls (Option (Attempt ConsumerError Unit)) :=
  if d = .zero then again
  else .ask (.wait d) fun
    | .abandoned => .done (some (.ok ()))
    | .elapsed | .signalled => again

end Polling

/-- Poll until asked to stop, after so many failures in a row. Polling has no end of its own:
`rounds` bounds the part of it that is looked at, and nothing is returned when so many rounds were
not enough. -/
def poll (c : Config) : Nat → Nat → Program Polling.calls (Option (Attempt ConsumerError Unit))
  | 0, _ => .done none
  | rounds + 1, failures =>
    .ask .stopping fun (stopping : Bool) =>
      if stopping then .done (some (.ok ()))
      else .ask .cycle fun r =>
        match Polling.next c failures r with
        | .stop s => .done (some (.error s))
        | .rest d => Polling.waitThen d (poll c rounds 0)
        | .backOff failures =>
          .ask .chance fun place => Polling.waitThen (c.backoff.delayAt failures place)
            (poll c rounds failures)

end Journal.Consumer
