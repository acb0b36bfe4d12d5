import Journal.Sql.Statement

/-!
# Checkpoints on a database

A checkpoint is moved by one statement that changes nothing when the consumer is already further;
where it is then is looked up for the report.
-/

namespace Journal.Sql

def executeForCheckpoints (operation : String) (s : Statement) : Work CheckpointError s.Answer :=
  (execute operation s).mapError .ofStore

/-- The position in the first of some rows; a consumer without a row has not begun, and is at
zero. -/
def readPosition : List (Option Int) → Except StoreError EventId
  | [] => .ok 0
  | rows => (scalar "get_checkpoint" rows).map ofColumn

def position (consumer : String) : Work CheckpointError EventId := do
  let rows ← executeForCheckpoints "get_checkpoint" (.position consumer)
  (readPosition rows).mapError CheckpointError.ofStore

def advance (consumer : String) (attempted : EventId) : Work CheckpointError Unit := do
  let changed : Nat ← executeForCheckpoints "set_checkpoint"
    (.advance consumer (toColumn attempted))
  if changed = 0 then throw (.regression consumer (← position consumer) attempted)

def reset (consumer : String) : Work CheckpointError Unit := do
  let _ ← executeForCheckpoints "reset_checkpoint" (.reset consumer)

def checkpoints : Work CheckpointError (List Checkpoint) := do
  let rows ← executeForCheckpoints "list_checkpoints" .checkpoints
  liftM (List.mapM CheckpointRow.toCheckpoint rows)

end Journal.Sql
