import Journal.Command
import Journal.Event.Batch
import Journal.Log

/-!
# The store in memory

A log and the guard of its commands, changed together. A command is one step: its key is looked up,
its events are written, its response is made and kept, or nothing happens at all. Only code that
makes a response can break that, by crashing after the events were written; the store is then
poisoned and answers nothing any more, except that requests which are refused before the store is
looked at are still refused.
-/

namespace Journal

/-- A store of events and of the records of commands. It is poisoned when code that a caller
supplied has crashed inside it: what it holds may be half-way then. -/
structure Store where
  policy : Policy
  log : Log
  guard : Guard
  poisoned : Bool

namespace Store

def empty (policy : Policy) : Store := ⟨policy, .empty, .empty, false⟩

/-- Look at the store, unless it is poisoned. -/
def look {α : Type} (s : Store) (f : Store → α) : Except StoreError α :=
  if s.poisoned then .error .poisoned else .ok (f s)

/-! ## Events -/

/-- Write a batch to the end of the log. The batch is checked first, so that a faulty one is refused
as such even by a store that is poisoned. -/
def append (s : Store) (a : Aggregate) (expected : Seq) (drafts : List Draft) :
    Except StoreError (List Event) × Store :=
  match Batch.check drafts with
  | .error e => (.error e, s)
  | .ok () =>
    if s.poisoned then (.error .poisoned, s)
    else match s.log.append a expected drafts with
      | .error e => (.error e, s)
      | .ok (committed, log) => (.ok committed, { s with log })

def read (s : Store) (after : EventId) (limit : Option Nat) (f : Filter) (scope : Scope) :
    Except StoreError Page := do
  let access ← Access.authorize after limit f scope s.policy
  s.look (·.log.page access)

def history (s : Store) (a : Aggregate) : Except StoreError (List Event) := s.look (·.log.history a)

def latest (s : Store) (a : Aggregate) : Except StoreError Seq := s.look (·.log.latest a)

def head (s : Store) : Except StoreError EventId := s.look (·.log.head)

def size (s : Store) : Except StoreError Nat := s.look (·.log.events.size)

/-! ## Commands -/

/-- Execute a command once. Its record is looked at before its aggregate: a repetition is answered
from the record wherever the aggregate is by then. The response is made before anything is kept, and
a crash in it poisons the store. -/
def commit (s : Store) (c : Command) (now : Instant) : Attempt StoreError Outcome × Store :=
  match Batch.check c.drafts with
  | .error e => (.error (.failed e), s)
  | .ok () =>
    if s.poisoned then (.error (.failed .poisoned), s)
    else match s.guard.precheck c.key c.hash with
      | .error e => (.error (.failed e), s)
      | .ok (some response) => (.ok (.replayed response), s)
      | .ok none =>
        match s.log.append c.aggregate c.expected c.drafts with
        | .error e => (.error (.failed e), s)
        | .ok (committed, log) =>
          match c.respond committed with
          | .error _ => (.error .crashed, { s with log, poisoned := true })
          | .ok response =>
            match s.guard.record c.key c.hash response now with
            | .error e => (.error (.failed e), { s with log })
            | .ok guard => (.ok (.committed committed response), { s with log, guard })

def find (s : Store) (k : Guard.Key) : Except StoreError (Option Guard.Record) :=
  s.look (·.guard.lookup k)

/-! ## The guard by itself -/

def reserve (s : Store) (k : Guard.Key) (hash : String) (now : Instant) :
    Except StoreError Guard.Verdict × Store :=
  if s.poisoned then (.error .poisoned, s)
  else
    let (verdict, guard) := s.guard.reserve k hash now
    (.ok verdict, { s with guard })

def record (s : Store) (k : Guard.Key) (hash : String) (response : Response) (now : Instant) :
    Except StoreError Unit × Store :=
  if s.poisoned then (.error .poisoned, s)
  else match s.guard.record k hash response now with
    | .error e => (.error e, s)
    | .ok guard => (.ok (), { s with guard })

def release (s : Store) (k : Guard.Key) (hash : String) : Except StoreError Unit × Store :=
  if s.poisoned then (.error .poisoned, s)
  else (.ok (), { s with guard := s.guard.release k hash })

def purge (s : Store) (asked : Duration) (now : Instant) : Except StoreError Nat × Store :=
  if s.poisoned then (.error .poisoned, s)
  else
    let (count, guard) := s.guard.purge asked now
    (.ok count, { s with guard })

end Store

end Journal
