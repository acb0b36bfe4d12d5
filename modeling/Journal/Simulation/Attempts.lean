import Journal.Backoff
import Journal.Simulation.Pause

/-!
# Attempts with given outcomes

An operation whose outcomes are given beforehand is retried while the attempts are counted and the
pauses between them are added up.
-/

namespace Journal.Simulation

/-- The outcome of call number `n`, from one; the last outcome repeats. -/
def outcomeAt {α : Type} (standard : α) (outcomes : List α) (n : Nat) : α :=
  (outcomes[n - 1]?).getD ((outcomes.getLast?).getD standard)

structure Effort where
  calls : Nat
  slept : Nat
  deriving DecidableEq, Repr

/-- Answer an attempt from the given outcomes, together with its number; chance gives the middle of
the spread. -/
def answerAttempt {α : Type} (outcomes : List (Except StoreError α)) :
    (q : Retry.Ask) → Effort → (Retry.calls (α × Nat)).Answer q × Effort
  | .attempt number, s =>
    let outcome := outcomeAt (.error (.storage "no outcome")) outcomes (s.calls + 1)
    (outcome.map fun a => (a, number), { s with calls := s.calls + 1 })
  | .chance, s => ((0 : Float), s)
  | .pause d, s => ((), { s with slept := s.slept + pauseTicks d.ticks })

def retryWith {α : Type} (b : Backoff) (outcomes : List (Except StoreError α)) :
    Except StoreError (α × Nat) × Effort :=
  (retryOnConflict b).run (answerAttempt outcomes) ⟨0, 0⟩

end Journal.Simulation
