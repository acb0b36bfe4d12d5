import Journal.Event
import Journal.Guard
import Journal.Outcome
import Journal.Text.Quoted

/-!
# Commands

A command is an append that is executed once however often it is sent: it comes with the key and the
hash of its request, and with code that makes the response from the events that were committed.
-/

namespace Journal

/-- Code that makes the response to a command from the events that were committed for it. It belongs
to the caller, and like all code of a caller it may crash. -/
abbrev Respond := List Event → Attempt Empty Response

/-- An append to one aggregate that is executed once. The hash is that of the whole request: under
one key a second request is the same one or a mistake. -/
structure Command where
  key : Guard.Key
  hash : String
  aggregate : Aggregate
  expected : Seq
  drafts : List Draft
  respond : Respond

/-- A draft carries the key of the command that it belongs to, unless it carries another. -/
def Draft.underKey (key : String) (d : Draft) : Draft :=
  { d with provenance := { d.provenance with
      idempotencyKey := some (d.provenance.idempotencyKey.getD key) } }

namespace Command

def make (key : Guard.Key) (hash : String) (aggregate : Aggregate) (expected : Seq)
    (drafts : List Draft) (respond : Respond) : Command :=
  ⟨key, hash, aggregate, expected, drafts.map (.underKey key.key), respond⟩

/-- The command as diagnostics show it. -/
def describe (c : Command) : String :=
  let q := Text.quoted
  "CommandRequest \x7b key: IdempotencyKey \x7b org_scope: " ++ q c.key.scope ++
    ", actor_id: " ++ q c.key.actor ++ ", endpoint_name: " ++ q c.key.endpoint ++
    ", idempotency_key: " ++ q c.key.key ++ " \x7d, request_hash: " ++ q c.hash ++
    ", aggregate: AggregateRef \x7b aggregate_type: AggregateType(" ++ q c.aggregate.kind.name ++
    "), aggregate_id: " ++ q c.aggregate.id ++ " \x7d, expected_seq: ExpectedSeq(" ++
    toString c.expected ++ "), events: " ++ toString c.drafts.length ++ ", .. \x7d"

end Command

/-- What a command came to: its events were written and its response kept, or it was a repetition,
nothing was written, and this is the response that was kept. -/
inductive Outcome
  | committed (events : List Event) (response : Response)
  | replayed (response : Response)
  deriving DecidableEq

namespace Outcome

def response : Outcome → Response
  | .committed _ r | .replayed r => r

def isReplay : Outcome → Bool
  | .committed .. => false
  | .replayed _ => true

end Outcome

end Journal
