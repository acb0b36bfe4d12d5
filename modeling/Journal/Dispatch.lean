import Journal.Backoff
import Journal.Command

/-!
# Dispatching commands

A command that depends on what has happened to an aggregate is decided on its history and committed
against the place at which the history ends. When another writer was faster the history is loaded
and the command decided again, as often as the backoff allows. The key of the request is looked up
first: a stored response wins over deciding.

`dispatch` asks for everything it does not do itself: the store's records and events, the decision,
the commit, the pauses between attempts and the place of each in its spread.
-/

namespace Journal

structure Request where
  key : Guard.Key
  hash : String
  aggregate : Aggregate

/-- Why a request was not executed: the decision was to refuse it, or the store failed. Refusing is
the caller's own rule and final, whereas a store that fails has said nothing about the request. -/
inductive DispatchError
  | rejected (e : DomainError)
  | store (e : StoreError)
  deriving DecidableEq

namespace DispatchError

def message : DispatchError → String
  | .rejected e => s!"command rejected: {e.message}"
  | .store e => e.message

/-- Another writer was faster in the end. -/
def isConflict : DispatchError → Bool
  | .rejected _ => false
  | .store e => e.isConflict

end DispatchError

namespace Dispatch

/-- What a dispatch asks for: the record of its key, the history, the decision on it, the commit,
and pauses. A pause is spread at random, and the place in the spread after attempt number `number`
is asked for by that number. -/
inductive Ask
  | find (k : Guard.Key)
  | history (a : Aggregate)
  | decide (history : List Event)
  | commit (c : Command)
  | chance (number : Nat)
  | pause (d : Duration)

def calls : Interface where
  Ask := Ask
  Answer
    | .find _ => Except StoreError (Option Guard.Record)
    | .history _ => Except StoreError (List Event)
    | .decide _ => Except DomainError (List Draft)
    | .commit _ => Attempt StoreError Outcome
    | .chance _ => Float
    | .pause _ => Unit

abbrev Result := Attempt DispatchError Outcome

def failed (e : StoreError) : Program calls Result := .done (.error (.failed (.store e)))

/-- Decide and commit, for the attempt of the given number and `left` more. The record of the key is
not looked at again between attempts: the commit finds it if there is one by then. A decision for no
events is answered at once, and nothing is kept of it. -/
def attempts (b : Backoff) (r : Request) (respond : Respond) : Nat → Nat → Program calls Result
  | left, number =>
    .ask (.history r.aggregate) fun
      | .error e => failed e
      | .ok history =>
        .ask (.decide history) fun
          | .error e => .done (.error (.failed (.rejected e)))
          | .ok [] =>
            match respond [] with
            | .ok response => .done (.ok (.committed [] response))
            | .error _ => .done (.error .crashed)
          | .ok drafts =>
            let expected := (history.getLast?.map (·.seq)).getD 0
            .ask (.commit (.make r.key r.hash r.aggregate expected drafts respond)) fun
              | .ok outcome => .done (.ok outcome)
              | .error .crashed => .done (.error .crashed)
              | .error (.failed e) =>
                match left with
                | 0 => failed e
                | left + 1 =>
                  if e.isConflict then
                    .ask (.chance number) fun place =>
                      .ask (.pause (b.delayAt number place)) fun _ =>
                        attempts b r respond left (number + 1)
                  else failed e

end Dispatch

/-- Execute a request: answer it from its record, or decide and commit it. A stored response wins
over deciding, since the history now contains what the first execution wrote, and would be decided
on differently. -/
def dispatch (b : Backoff) (r : Request) (respond : Respond) :
    Program Dispatch.calls Dispatch.Result :=
  .ask (.find r.key) fun
    | .error e => Dispatch.failed e
    | .ok (some record) =>
      match record.resolve r.hash with
      | .ok response => .done (.ok (.replayed response))
      | .error e => Dispatch.failed e
    | .ok none => Dispatch.attempts b r respond (b.attempts - 1) 1

end Journal
