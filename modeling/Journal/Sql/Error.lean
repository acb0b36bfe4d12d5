import Journal.Store.Error

/-!
# Failures of a database

A statement can be refused by the server, with a code of five characters, or the connection to the
server can fail. `Error.report` says what each means to a store: some refusals and all failures of
the connection pass by themselves, so that the storage is only unavailable; everything else is a
failure for good.
-/

namespace Journal.Sql

/-- What comes from a database instead of a result. A server that refuses a statement says why with
a code; a connection that could not be made or was lost, a pool that has none to give, and a row
that is not what was asked for have none. -/
inductive Error
  | refused (code message : String)
  | disconnected
  | timedOut
  | closed
  | unexpected
  deriving DecidableEq, Repr

namespace Error

/-- A refusal that passes by itself: the transaction met another one, the server is going up or
down, or there are too many connections or a failed one. -/
def isTransientCode (code : String) : Bool :=
  ["40001", "40P01", "57P01", "57P02", "57P03", "53300"].contains code || "08".isPrefixOf code

/-- A row was refused because there is another with the same key. -/
def isDuplicate : Error → Bool
  | .refused code _ => code == "23505"
  | _ => false

/-- The failure of an operation, as a store reports it. Whoever calls the store only needs to know
whether waiting may help; what has happened is in the text. -/
def report (operation : String) : Error → StoreError
  | .refused code message =>
    let reason := s!"database error in {operation}: {message}"
    if isTransientCode code then .unavailable reason else .storage reason
  | .disconnected => .unavailable s!"i/o error in {operation}: "
  | .timedOut => .unavailable s!"connection pool timed out in {operation}"
  | .closed => .unavailable s!"connection pool closed in {operation}"
  | .unexpected => .storage s!"sqlx error in {operation}: "

end Error

end Journal.Sql
