import Journal.Program
import Journal.Store.Error
import Journal.Time.Duration

/-!
# Waiting before another attempt

A `Backoff` says how often something may be attempted and how long to wait after each failure:
always the same time, or twice as long after every failure up to a limit. The waiting time may be
spread at random around that value. It is computed in doubles, as nanoseconds, and cut off to a
whole number.

`retryOnConflict` attempts a write again as long as another writer was faster: only the caller can
read again and decide again, so that the store never does this by itself.
-/

namespace Journal

inductive Growth
  | fixed
  | exponential
  deriving DecidableEq, Repr

/-- How often to attempt, and how long to wait between attempts. The first attempt counts, and the
jitter is the part of the waiting time by which it is spread to both sides. -/
structure Backoff where
  attempts : Nat
  base : Duration
  limit : Duration
  growth : Growth
  jitter : Float
  deriving DecidableEq

namespace Growth

def name : Growth → String
  | .fixed => "fixed"
  | .exponential => "exponential"

def ofName? (s : String) : Option Growth :=
  if s = "fixed" then some .fixed
  else if s = "exponential" then some .exponential
  else none

@[simp] theorem ofName?_name (g : Growth) : ofName? g.name = some g := by
  cases g <;> decide

end Growth

namespace Backoff

def standardJitter : Float := 0.2

def standard : Backoff := ⟨5, .ofMillis 20, .ofSeconds 2, .exponential, standardJitter⟩

def once : Backoff := { standard with attempts := 1 }

def fixed (attempts : Nat) (delay : Duration) : Backoff := ⟨attempts, delay, delay, .fixed, 0⟩

def exponential (attempts : Nat) (base limit : Duration) : Backoff :=
  ⟨attempts, base, limit, .exponential, standardJitter⟩

/-- Doublings after which the waiting time grows no further. With at most thirty of them a double
holds the factor exactly, whatever the number of the attempt. -/
def mostDoublings : Nat := 30

def least (a b : Float) : Float := if b < a then b else a

def greatest (a b : Float) : Float := if a < b then b else a

/-- The waiting time after attempt number `attempt` (from one) in nanoseconds, before it is
spread. -/
def nanos (b : Backoff) (attempt : Nat) : Float :=
  let base := Float.ofNat b.base.nanos
  match b.growth with
  | .fixed => base
  | .exponential =>
    least (base * Float.ofNat (2 ^ min (attempt - 1) mostDoublings)) (Float.ofNat b.limit.nanos)

/-- The part by which the waiting time is spread. More than all of it would make waiting times
negative, and less than none would turn the spread around, so that it is kept between the two. -/
def spread (b : Backoff) : Float := least (greatest b.jitter 0) 1

/-- The waiting time after attempt number `attempt`, at a place between `-1` and `1` of the spread;
no time before the first attempt. Spreading may lead past the limit, and it is cut off there once
more: nobody waits longer than the limit, or than the base where that is larger. -/
def delayAt (b : Backoff) (attempt : Nat) (place : Float) : Duration :=
  if attempt = 0 then .zero
  else
    let n := b.nanos attempt
    let spreadOut := if 0 < b.spread && 0 < n then n + place * (n * b.spread) else n
    let most := greatest (Float.ofNat b.limit.nanos) (Float.ofNat b.base.nanos)
    ⟨(least (greatest spreadOut 0) most).toUInt64.toNat⟩

/-- The waiting time in the middle of the spread. -/
def delay (b : Backoff) (attempt : Nat) : Duration := b.delayAt attempt 0

/-- The waiting time is left to chance. -/
def isRandom (b : Backoff) (attempt : Nat) : Bool :=
  attempt != 0 && 0 < b.spread && 0 < b.nanos attempt

/-- Another attempt is allowed after attempt number `attempt`. -/
def mayRetry (b : Backoff) (attempt : Nat) : Bool := attempt < b.attempts

end Backoff

/-! ## Attempts that meet other writers -/

namespace Retry

/-- What a retried operation asks for: an attempt by its number, a place in the spread that is left
to chance, and a pause. -/
inductive Ask
  | attempt (number : Nat)
  | chance
  | pause (d : Duration)

abbrev calls (α : Type) : Interface where
  Ask := Ask
  Answer
    | .attempt _ => Except StoreError α
    | .chance => Float
    | .pause _ => Unit

/-- Attempt number `number`, and after a conflict the next one while another is allowed. Only a
conflict is worth another attempt at once: any other failure is one that the caller has to know
about. -/
def attempts {α : Type} (b : Backoff) (number : Nat) : Program (calls α) (Except StoreError α) :=
  .ask (.attempt number) fun
    | .ok a => .done (.ok a)
    | .error e =>
      if h : e.isConflict ∧ b.mayRetry number then
        .ask .chance fun place =>
          .ask (.pause (b.delayAt number place)) fun _ => attempts b (number + 1)
      else .done (.error e)
termination_by b.attempts - number
decreasing_by
  have : number < b.attempts := of_decide_eq_true h.2
  omega

end Retry

def retryOnConflict {α : Type} (b : Backoff) : Program (Retry.calls α) (Except StoreError α) :=
  Retry.attempts b 1

end Journal
