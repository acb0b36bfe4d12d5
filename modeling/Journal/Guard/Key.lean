import Journal.Store.Error

/-!
# Keys of idempotent requests

A request that may be repeated is known by the organization it is made for, the actor that makes it,
the endpoint and the key that the client chose. A request made for no organization has a scope of
its own, which is no organization's identifier.
-/

namespace Journal.Guard

/-- What identifies an idempotent request. The scope is that of an organization or the global one,
so that no key of one tenant is ever one of another. -/
structure Key where
  scope : String
  actor : String
  endpoint : String
  key : String
  deriving DecidableEq

namespace Key

def globalScope : String := "_global"

def mostBytes : Nat := 255

/-- A part is not blank and not too long. -/
def isAcceptable (part : String) : Bool :=
  !Text.blank part && part.utf8ByteSize ≤ mostBytes

/-- The scope of an organization, or of none. The global scope begins with an underscore, as no
identifier of an organization does. -/
def scopeOf : Option OrgId → String
  | some o => o.text
  | none => globalScope

def check (field part : String) : Except StoreError Unit :=
  if isAcceptable part then .ok () else .error (.validation s!"{field} must be 1..=255 bytes")

/-- The key of a request. Its parts are checked in the order in which they stand, so that of several
faults the first is told; the scope comes from an identifier and needs no check. -/
def make (org : Option OrgId) (actor endpoint key : String) : Except StoreError Key := do
  check "actor_id" actor
  check "endpoint_name" endpoint
  check "idempotency_key" key
  return ⟨scopeOf org, actor, endpoint, key⟩

/-- The key is in use for a different request. -/
def reused (k : Key) : StoreError := .keyReuse k.endpoint k.key

def inFlight (k : Key) : StoreError := .inFlight k.endpoint k.key

end Key

end Journal.Guard
