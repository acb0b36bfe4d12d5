import Journal.Sql.Statement

/-!
# Migrations

The tables are made by one migration, which is noted when it has been applied. A database that notes
something else was made by somebody else: it is left alone.
-/

namespace Journal.Sql

def eventLog : Migration := ⟨1, "event log", true⟩

/-- Why a migration failed is not passed on. -/
def migrationFailed : StoreError := .storage "migrations failed: "

def connectionFailed (e : Error) : StoreError := e.report "connect"

def applied : Work StoreError (List Migration) :=
  ExceptT.mk (.ask .migrations fun (r : Except Error (List Migration)) =>
    .done (r.mapError fun _ => migrationFailed))

def note (m : Migration) : Work StoreError Unit :=
  ExceptT.mk (.ask (.note m) fun (r : Except Error Unit) =>
    .done (r.mapError fun _ => migrationFailed))

/-- Make the tables if they are not there. That they are made is noted in the same transaction, so
that a migration which was cut off is made again from the start. -/
def migrate : Work StoreError Unit := do
  let applied ← applied
  if applied.isEmpty then
    transaction (fun _ _ => migrationFailed) do
      let _ ← (execute "migration" .migrate).mapError fun _ => migrationFailed
      note eventLog
      return .commit ()
  else if applied.all (· = eventLog) then return ()
  else throw migrationFailed

def ping : Work StoreError Unit := do
  let _ ← execute "health_check" .ping

end Journal.Sql
