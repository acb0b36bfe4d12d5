import Journal.Guard.Key
import Journal.Json
import Journal.Keyed
import Journal.Time.Instant

/-!
# The guard of idempotent requests

A record under a key holds the hash of the request that came first and, once there is one, the
response to it. A repetition of the request gets that response and is not executed again; another
request under the same key is refused. A record without a response is a reservation: it keeps others
out while the first request is executed, and only a reservation can be given up.
-/

namespace Journal

structure Response where
  status : Nat
  body : Option Json
  deriving DecidableEq

namespace Guard

/-- What is known about the request under a key. There is no response while the first request is
being executed; the record is a reservation then. -/
structure Record where
  key : Key
  hash : String
  response : Option Response
  createdAt : Instant
  deriving DecidableEq

/-- What the guard says to a request: there was no record, so that it is reserved now and to be
executed; it was answered before, in this way; its key belongs to a different request; or the same
request is under way. -/
inductive Verdict
  | fresh
  | replay (response : Response)
  | conflict
  | inFlight
  deriving DecidableEq

namespace Record

/-- What the guard says to a request when there is this record. The hash is compared first: a
different request learns nothing about the one that has the key. -/
def verdict (r : Record) (hash : String) : Verdict :=
  if r.hash = hash then
    match r.response with
    | some response => .replay response
    | none => .inFlight
  else .conflict

/-- The response to a repetition with the given hash, or why there is none. -/
def resolve (r : Record) (hash : String) : Except StoreError Response :=
  match r.verdict hash with
  | .replay response => .ok response
  | .conflict => .error r.key.reused
  | .inFlight | .fresh => .error r.key.inFlight

end Record

/-! ## Retention -/

def leastRetention : Duration := .ofHours 24

def retention (asked : Duration) : Duration := asked.max leastRetention

/-- The instant before which records have expired, if there is one. A retention that leads out of
the calendar reaches no record, and nothing expires then. -/
def expiry? (asked : Duration) (now : Instant) : Option Instant :=
  now.goBack? (retention asked)

end Guard

/-! ## The records -/

structure Guard where
  records : Keyed Guard.Key Guard.Record

namespace Guard

def empty : Guard := ⟨.empty⟩

def lookup (g : Guard) (k : Key) : Option Record := g.records.get? k

/-- Let a request pass, and reserve its key, when there is no record; otherwise say what the record
says. Both happen in one step, so that of two requests at once only one can be let pass. -/
def reserve (g : Guard) (k : Key) (hash : String) (now : Instant) : Verdict × Guard :=
  match g.lookup k with
  | some r => (r.verdict hash, g)
  | none => (.fresh, ⟨g.records.insert k ⟨k, hash, none, now⟩⟩)

/-- Keep a response; of two for the same request the first stays. A request without a record gets
one: its reservation may have been purged while it was executed, and its response counts all the
same. -/
def record (g : Guard) (k : Key) (hash : String) (response : Response) (now : Instant) :
    Except StoreError Guard :=
  match g.lookup k with
  | none => .ok ⟨g.records.insert k ⟨k, hash, some response, now⟩⟩
  | some r =>
    if r.hash = hash then
      match r.response with
      | some _ => .ok g
      | none => .ok ⟨g.records.insert k { r with response := some response }⟩
    else .error k.reused

/-- Give up a reservation of the request. A record with a response is not given up, whoever asks:
the request was executed. -/
def release (g : Guard) (k : Key) (hash : String) : Guard :=
  match g.lookup k with
  | some r => if r.hash = hash ∧ r.response = none then ⟨g.records.erase k⟩ else g
  | none => g

/-- Remove the records that have expired, and count them. Answers and reservations expire alike, so
that a request whose execution was cut off does not hold its key for ever. -/
def purge (g : Guard) (asked : Duration) (now : Instant) : Nat × Guard :=
  match expiry? asked now with
  | none => (0, g)
  | some cutoff =>
    let kept := g.records.filter fun _ r => !r.createdAt.before cutoff
    (g.records.size - kept.size, ⟨kept⟩)

/-- The response to a request that must not be executed again, if it is such a request, or why it is
refused. Nothing is reserved; this is what a command looks at before it writes. -/
def precheck (g : Guard) (k : Key) (hash : String) : Except StoreError (Option Response) :=
  match g.lookup k with
  | none => .ok none
  | some r => (r.resolve hash).map some

end Guard

end Journal
