import Journal.Proofs.Checkpoint.Positions
import Journal.Proofs.Sql.Mirror
import Journal.Sql.Checkpoint
import Mathlib.Data.Option.Basic

/-!
# The same checkpoints in two places

Checkpoints in memory are compared before they are moved. On a database one statement moves a
checkpoint unless it is further, and only when no row has changed is the checkpoint looked up for
the report.

`Tables.Copies` says that the rows are those of the checkpoints, in the same order, and **every call
at one instant has the same answer from both and leaves the rows a copy** (`Copies.agree`). In
memory the answers are those of a map, which no instant changes; so **both give the answers of the
map to every sequence of calls**, each at times of its own (`checkpoints_alike`).
-/

namespace Journal

namespace CheckpointCall

def ofDatabase (now : Instant) : CheckpointCall → Sql.Database → CheckpointReply × Sql.Database
  | position consumer, db =>
    ((Sql.position consumer).against (Sql.answering now) db).map .position id
  | advance consumer attempted, db =>
    ((Sql.advance consumer attempted).against (Sql.answering now) db).map .ended id
  | reset consumer, db => ((Sql.reset consumer).against (Sql.answering now) db).map .ended id
  | list, db => (Sql.checkpoints.against (Sql.answering now) db).map
    (.listed ∘ Except.map (·.map Checkpoint.place)) id
  | lag head, db =>
    (Sql.checkpoints.against (Sql.answering now) db).map
      (.lags ∘ Except.map (·.map (·.lagBehind head))) id

/-- A position to move to fits into its column. One that does not would be stored as the largest
value, and be read back as another position. -/
def Fits : CheckpointCall → Prop
  | advance _ attempted => attempted < 2 ^ 63
  | _ => True

end CheckpointCall

namespace Sql

variable {now : Instant} {t : Tables} {db : Database} {cs : Checkpoints} {c : String} {p : EventId}

/-! ## Rows of checkpoints -/

def CheckpointRow.ofCheckpoint (c : Checkpoint) : CheckpointRow :=
  ⟨c.consumer, some (toColumn c.position), c.updatedAt⟩

theorem CheckpointRow.toCheckpoint_ofCheckpoint {c : Checkpoint} (fits : c.position < 2 ^ 63) :
    (ofCheckpoint c).toCheckpoint = .ok c := by
  have hposition : ofColumn (toColumn c.position) = c.position :=
    (ofColumn_toColumn_eq_iff _).mpr fits
  simp only [ofCheckpoint, toCheckpoint, required, bind, Except.bind, hposition]
  rfl

/-- The rows are those of the checkpoints. -/
structure Tables.Copies (t : Tables) (cs : Checkpoints) : Prop where
  rows : t.checkpoints.entries = cs.table.entries.map (Prod.map some .ofCheckpoint)
  fits : ∀ e ∈ cs.table.entries, e.2.position < 2 ^ 63

/-! ## What the statements come to -/

theorem answering_position (now : Instant) (c : String) (db : Database) :
    (position c).against (answering now) db =
      ((readPosition ((db.tables.checkpoint c).toList.map (·.position))).mapError .ofStore, db) :=
  rfl

def advanceHere (c : String) (p : EventId) : Work CheckpointError Nat :=
  executeForCheckpoints "set_checkpoint" (.advance c (toColumn p))

theorem advance_eq (c : String) (p : EventId) :
    advance c p = (advanceHere c p >>= fun changed =>
      if changed = 0 then position c >>= fun current => throw (.regression c current p)
        else pure ()) := rfl

theorem answering_advanceHere (now : Instant) (c : String) (p : EventId) (db : Database) :
    (advanceHere c p).against (answering now) db =
      (.ok (db.tables.advance c (toColumn p) now).1,
        { db with tables := (db.tables.advance c (toColumn p) now).2 }) := rfl

theorem answering_reset (now : Instant) (c : String) (db : Database) :
    (reset c).against (answering now) db =
      (.ok (), { db with tables := db.tables.putCheckpoint ⟨c, some 0, now⟩ }) := rfl

theorem answering_checkpoints (now : Instant) (db : Database) :
    checkpoints.against (answering now) db =
      (db.tables.listed.mapM CheckpointRow.toCheckpoint, db) := rfl

namespace Tables.Copies

theorem empty (h : t.checkpoints.entries = []) : t.Copies .empty where
  rows := h
  fits _ he := absurd he List.not_mem_nil

theorem checkpoint_eq (h : t.Copies cs) (c : String) :
    t.checkpoint c = (cs.table.get? c).map .ofCheckpoint := by
  rw [checkpoint, Keyed.get?, h.rows]
  exact Keyed.find?_map_entries (Option.some_injective _) _ c _

theorem fits_of_get? (h : t.Copies cs) {found : Checkpoint} (hget : cs.table.get? c = some found) :
    found.position < 2 ^ 63 := h.fits (c, found) (Keyed.mem_of_find? hget)

theorem place (h : t.Copies cs) (c : String) (fits : p < 2 ^ 63) (now : Instant) :
    (t.putCheckpoint ⟨c, some (toColumn p), now⟩).Copies (cs.place c p now) where
  rows := by
    change Keyed.put (some c) (CheckpointRow.ofCheckpoint ⟨c, p, now⟩) t.checkpoints.entries = _
    rw [h.rows]
    exact Keyed.put_map_entries (Option.some_injective _) _ c _ _
  fits e he := by
    rcases Keyed.mem_put he with rfl | he
    · exact fits
    · exact h.fits e he

theorem listed_eq (h : t.Copies cs) : t.listed = cs.list.map .ofCheckpoint := by
  rw [listed, Keyed.values_of_map_entries h.rows, Checkpoints.list]
  exact (List.map_mergeSort (f := CheckpointRow.ofCheckpoint) fun _ _ _ _ => rfl).symm

theorem mapM_toCheckpoint (h : t.Copies cs) :
    t.listed.mapM CheckpointRow.toCheckpoint = .ok cs.list := by
  rw [h.listed_eq]
  refine mapM_map_eq_ok fun c hc => ?_
  obtain ⟨e, he, rfl⟩ := List.mem_map.mp ((List.mergeSort_perm _ _).mem_iff.mp hc)
  exact CheckpointRow.toCheckpoint_ofCheckpoint (h.fits e he)

theorem position_eq (h : db.tables.Copies cs) (now : Instant) (c : String) :
    (position c).against (answering now) db = (.ok (cs.positionOf c), db) := by
  rw [answering_position, h.checkpoint_eq, Checkpoints.positionOf]
  cases hget : cs.table.get? c with
  | none => rfl
  | some found =>
    refine congrArg (fun p => (Except.ok p, db)) ?_
    exact (ofColumn_toColumn_eq_iff _).mpr (h.fits_of_get? hget)

/-- The statement changes a row unless the checkpoint is further. -/
theorem advance_eq (h : t.Copies cs) (now : Instant) (c : String) (fits : p < 2 ^ 63) :
    t.advance c (toColumn p) now =
      if p < cs.positionOf c then (0, t) else (1, t.putCheckpoint ⟨c, some (toColumn p), now⟩) := by
  rw [advance, h.checkpoint_eq, Checkpoints.positionOf]
  cases hget : cs.table.get? c with
  | none => rfl
  | some found =>
    have hcolumns : (CheckpointRow.ofCheckpoint found).position.any (· ≤ toColumn p) =
        !decide (p < found.position) := by
      rw [CheckpointRow.ofCheckpoint, Option.any_some, toColumn_of_lt fits,
        toColumn_of_lt (h.fits_of_get? hget), ← decide_not, decide_eq_decide]
      exact Int.ofNat_le.trans Nat.not_lt.symm
    dsimp only [Option.map_some]
    rw [hcolumns]
    by_cases hlt : p < found.position
    · rw [if_neg (by simp [hlt]), if_pos hlt]
    · rw [if_pos (by simp [hlt]), if_neg hlt]

/-- **Two tables that hold the same answer a call alike**, and hold the same afterwards. -/
theorem agree (h : db.tables.Copies cs) (now : Instant) {call : CheckpointCall} (fits : call.Fits) :
    (call.ofDatabase now db).1 = (call.ofMemory now cs).1 ∧
      (call.ofDatabase now db).2.tables.Copies (call.ofMemory now cs).2 := by
  cases call with
  | position c =>
    rw [CheckpointCall.ofDatabase, h.position_eq]
    exact ⟨rfl, h⟩
  | advance c p =>
    rw [CheckpointCall.ofDatabase, CheckpointCall.ofMemory, Sql.advance_eq, Work.against_bind,
      answering_advanceHere, h.advance_eq now c fits, Checkpoints.advance]
    by_cases hlt : p < cs.positionOf c
    -- No row is changed, and the checkpoint that is looked up is the one that was compared.
    · rw [if_pos hlt, if_pos hlt]
      dsimp only
      rw [if_pos rfl, Work.against_bind, h.position_eq]
      exact ⟨rfl, h⟩
    · rw [if_neg hlt, if_neg hlt]
      exact ⟨rfl, h.place c fits now⟩
  | reset c =>
    rw [CheckpointCall.ofDatabase, answering_reset]
    exact ⟨rfl, h.place c (by decide : 0 < 2 ^ 63) now⟩
  | list =>
    rw [CheckpointCall.ofDatabase, answering_checkpoints, h.mapM_toCheckpoint]
    exact ⟨rfl, h⟩
  | lag head =>
    rw [CheckpointCall.ofDatabase, answering_checkpoints, h.mapM_toCheckpoint]
    exact ⟨rfl, h⟩

theorem replies_eq (h : db.tables.Copies cs) (clock : Nat → Instant) {calls : List CheckpointCall}
    (fits : ∀ call ∈ calls, call.Fits) :
    (makeCalls CheckpointCall.ofDatabase clock db calls).1 =
      (makeCalls CheckpointCall.ofMemory clock cs calls).1 := by
  refine (makeCalls_alike (fun (db : Database) cs => db.tables.Copies cs) (fun _ call => call.Fits)
    ?_ h clock ?_).1
  · exact fun now _ _ _ hcopies fits => hcopies.agree now fits
  · exact fun n call hcall => fits call (List.mem_of_getElem? hcall)

end Tables.Copies

/-! ## Sequences of calls -/

/-- **Checkpoints on a database and in memory give the same answers, and they are those of a map**
that moves back in a reset only, whatever is asked of them and whenever. -/
theorem checkpoints_alike (empty : db.tables.checkpoints.entries = []) (clock later : Nat → Instant)
    {calls : List CheckpointCall} (fits : ∀ call ∈ calls, call.Fits) :
    (makeCalls CheckpointCall.ofDatabase clock db calls).1 =
        (makeCalls CheckpointCall.ofMemory later .empty calls).1 ∧
      Positions.unknown.Told calls (makeCalls CheckpointCall.ofMemory later .empty calls).1 ∧
      Positions.Course calls := by
  have htold := Checkpoints.told_of_shows Checkpoints.shows_empty clock calls
  have hlater := Checkpoints.told_of_shows Checkpoints.shows_empty later calls
  -- In memory the instants make no difference, as there is only one answer that the map gives to a
  -- call.
  have hsame := (Tables.Copies.empty empty).replies_eq clock fits
  exact ⟨hsame.trans (htold.unique hlater), hlater, Positions.course calls⟩

def rounds : List CheckpointCall :=
  [.position "orgs", .advance "orgs" 10, .advance "apps" 40, .advance "orgs" 9, .lag 42,
    .reset "orgs", .advance "orgs" 3, .list]

theorem fits_rounds : ∀ call ∈ rounds, call.Fits := by
  simp [rounds, CheckpointCall.Fits]

/-- The consumers' rounds, made hour by hour on a database and at once in memory. -/
theorem checkpoints_alike_rounds :
    let replies := (makeCalls CheckpointCall.ofMemory (fun _ => ⟨0, 0⟩) .empty rounds).1
    Database.empty.tables.checkpoints.entries = [] ∧ (∀ call ∈ rounds, call.Fits) ∧
      (makeCalls CheckpointCall.ofDatabase (fun n => ⟨3600 * n, 0⟩) .empty rounds).1 = replies ∧
      Positions.unknown.Told rounds replies ∧ Positions.Course rounds ∧
      replies[3]? = some (.ended (.error (.regression "orgs" 10 9))) := by
  intro replies
  have hempty : Database.empty.tables.checkpoints.entries = [] := rfl
  obtain ⟨hsame, htold, hcourse⟩ :=
    checkpoints_alike hempty (fun n => ⟨3600 * n, 0⟩) (fun _ => ⟨0, 0⟩) fits_rounds
  exact ⟨hempty, fits_rounds, hsame, htold, hcourse, by decide +kernel⟩

end Sql

end Journal
