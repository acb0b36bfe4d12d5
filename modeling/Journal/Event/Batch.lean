import Journal.Event
import Journal.Event.Secret
import Journal.Store.Error

/-!
# Batches of drafts

Every batch is checked before anything is written: it is not empty, and each draft is well formed.
`Batch.fault?` is the first thing wrong with a batch; a batch is accepted exactly when there is
none.
-/

namespace Journal

inductive DraftFault
  | type (name : String) (fault : NameFault)
  | versionZero
  | blankActor
  | nilRequest
  | badIdempotencyKey
  | payloadNotObject
  | secret (path : String)
  deriving DecidableEq, Repr

inductive BatchFault
  | empty
  | draft (index : Nat) (fault : DraftFault)
  deriving DecidableEq, Repr

namespace Draft

def mostKeyBytes : Nat := 255

/-- A key is absent, or it is not blank and not too long. -/
def isAcceptableKey : Option String → Bool
  | none => true
  | some k => !Text.blank k && k.utf8ByteSize ≤ mostKeyBytes

/-- The first fault of a draft, in the order of its parts. The search for secrets comes last, in a
payload that is known to be an object by then. -/
def fault? (d : Draft) : Option DraftFault :=
  match Name.fault? d.type with
  | some f => some (.type d.type f)
  | none =>
    if d.version = 0 then some .versionZero
    else if Text.blank d.provenance.actor then some .blankActor
    else if d.provenance.request.uuid.isNil then some .nilRequest
    else if !isAcceptableKey d.provenance.idempotencyKey then some .badIdempotencyKey
    else if !d.payload.isObject then some .payloadNotObject
    else (Secret.path? "" d.payload).map .secret

end Draft

namespace Batch

/-- The first fault of the drafts of a batch, the first of which has the given index. -/
def draftFault? (index : Nat) : List Draft → Option BatchFault
  | [] => none
  | d :: rest =>
    match d.fault? with
    | some f => some (.draft index f)
    | none => draftFault? (index + 1) rest

def fault? : List Draft → Option BatchFault
  | [] => some .empty
  | d :: rest => draftFault? 0 (d :: rest)

end Batch

def DraftFault.message : DraftFault → String
  | .type name f => f.message "event_type" name
  | .versionZero => "event_version must be at least 1"
  | .blankActor => "actor_id must not be empty"
  | .nilRequest => "request_id must not be nil"
  | .badIdempotencyKey => "idempotency_key must be 1..=255 bytes"
  | .payloadNotObject => "payload must be a JSON object"
  | .secret path => s!"payload key '{path}' looks like secret material"

def BatchFault.message : BatchFault → String
  | .empty => "append requires at least one event"
  | .draft index f => s!"event {index}: {f.message}"

/-- Refuse a batch that breaks a rule. One fault refuses all of it, and is told with the index of
the draft that it was found in. -/
def Batch.check (drafts : List Draft) : Except StoreError Unit :=
  match Batch.fault? drafts with
  | none => .ok ()
  | some f => .error (.validation f.message)

end Journal
