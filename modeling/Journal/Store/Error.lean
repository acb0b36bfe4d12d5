import Journal.Identity

/-!
# Failures of a store

What a store can answer instead of a result. A conflict, a reused key and a refused request are
final answers to the request as it stands; only an unavailable storage may answer the same request
differently a moment later.
-/

namespace Journal

/-- A failure of a store. The aggregate may not be where the writer expected it, and where it is may
be unknown; the key may belong to a different request, or its first request may not have been
answered yet; the request may break a rule, or ask for what the reader may not see; and the storage
may be out of reach for the moment, or have failed. -/
inductive StoreError
  | aggregateConflict (aggregate : Aggregate) (expected : Seq) (actual : Option Seq)
  | keyReuse (endpoint key : String)
  | inFlight (endpoint key : String)
  | validation (reason : String)
  | forbidden (reason : String)
  | unavailable (reason : String)
  | storage (reason : String)
  deriving DecidableEq

namespace StoreError

/-- The same request may succeed if it is repeated unchanged. A conflict does not count: it takes a
new decision on the new history. -/
def isRetryable : StoreError → Bool
  | .unavailable _ => true
  | _ => false

def isConflict : StoreError → Bool
  | .aggregateConflict .. => true
  | _ => false

/-- A store in which supplied code crashed half-way answers nothing any more. -/
def poisoned : StoreError := .storage "lock poisoned"

/-- A refusal of the domain, as a store reports it: the reason without its kind. -/
def ofDomain (e : DomainError) : StoreError := .validation e.reason

def message : StoreError → String
  | .aggregateConflict aggregate expected actual =>
    let found := match actual with
      | some seq => toString seq
      | none => "a newer head"
    s!"aggregate conflict on {aggregate.text}: expected seq {expected}, found {found}"
  | .keyReuse endpoint key =>
    s!"idempotency key '{key}' reused with a different request on {endpoint}"
  | .inFlight endpoint key =>
    s!"request with idempotency key '{key}' on {endpoint} is still in flight"
  | .validation reason => s!"validation failed: {reason}"
  | .forbidden reason => s!"forbidden: {reason}"
  | .unavailable reason => s!"storage unavailable: {reason}"
  | .storage reason => s!"storage error: {reason}"

end StoreError

end Journal
