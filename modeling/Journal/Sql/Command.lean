import Journal.Command
import Journal.Sql.Guard
import Journal.Sql.Log

/-!
# Commands on a database

The reservation of the key, the events and the response of a command are one transaction: either all
of them are there afterwards or none. A command whose key has a record undoes its transaction and
answers from the record.
-/

namespace Journal.Sql

def mayCrash {α : Type} (w : Work StoreError α) : Work (Stop StoreError) α := w.mapError .failed

/-- The answer to a command whose key has a record. There is none when the record was deleted after
it had stood in the way of the reservation. -/
def outcomeOf (hash : String) : Option Guard.Record → Except StoreError Outcome
  | some r => (r.resolve hash).map .replayed
  | none => .error recordChanged

def commit (c : Command) : Work (Stop StoreError) Outcome := do
  mayCrash (liftM (Batch.check c.drafts))
  transaction (fun operation e => .failed (e.report operation)) do
    if ← mayCrash (reserveHere c.key c.hash) then
      let events ← mayCrash (appendHere c.aggregate c.expected c.drafts)
      match c.respond events with
      | .error _ => throw .crashed
      | .ok r =>
        let _ ← mayCrash (execute "complete_idempotency" (.complete c.key c.hash r.status r.body))
        return .commit (.committed events r)
    else
      let record ← mayCrash (lookup c.key)
      return .rollback ((outcomeOf c.hash record).mapError .failed)

end Journal.Sql
