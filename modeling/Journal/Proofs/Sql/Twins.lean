import Journal.Proofs.Sql.Mirror
import Journal.Proofs.Store.Once

/-!
# Two stores that know the same

A store on a database and a store in memory are asked the same. They keep what they know in
different forms, and they go different ways: the one inserts a reservation and undoes it when there
is a record already, the other looks first; the one searches its rows for the last number of an
aggregate, the other counts places.

`Mirrors` says that a database and a store know the same, up to the instants at which records were
made. **Every call is answered alike by both and leaves them knowing the same** (`agree_append`,
`agree_commit_of_unrecorded` and their siblings).
-/

namespace Journal.Sql

variable {now later : Instant} {p : Policy} {db after : Database} {s : Store} {a : Aggregate}
  {expected : Seq} {drafts : List Draft} {c : Command}

/-! ## Transactions -/

theorem answering_transaction {ε α : Type} (now : Instant) (report : String → Error → ε)
    (work : Work ε (Ending ε α)) (db : Database) :
    (transaction report work).against (answering now) db =
      match work.against (answering now) db.start with
      | (.error e, after) => (.error e, after.undo)
      | (.ok (.commit a), after) => (.ok a, { after with saved := none })
      | (.ok (.rollback r), after) => (r, after.undo) := by
  have hstart : answering now (.execute .start) db = (.ok (0 : Nat), db.start) := rfl
  rw [Work.against_transaction, hstart]
  dsimp only
  rcases work.against (answering now) db.start with ⟨e | a | r, after⟩
  · rfl
  · rfl
  · rfl

/-! ## Records -/

/-- The row is that of the record, whenever it was made. -/
def RecordRow.Tells (row : RecordRow) (r : Guard.Record) : Prop :=
  ∃ made, row.toRecord = .ok { r with createdAt := made }

theorem RecordRow.tells_completed {k : Guard.Key} {hash : String} {r : Response}
    (status : r.status < 2 ^ 16) (now later : Instant) :
    (completed k hash r now).Tells ⟨k, hash, some r, later⟩ := by
  have hstatus : statusOfColumn r.status = r.status := by
    rw [statusOfColumn, if_pos (by omega), Int.toNat_natCast]
  refine ⟨now, ?_⟩
  obtain ⟨status, body⟩ := r
  dsimp only at hstatus
  simp only [completed, toRecord, KeyColumns.ofKey, required, bind, Except.bind,
    Option.map_some, hstatus]
  rfl

theorem KeyColumns.ofKey_eq_iff {k l : Guard.Key} : ofKey k = ofKey l ↔ k = l := by
  obtain ⟨_, _, _, _⟩ := k
  obtain ⟨_, _, _, _⟩ := l
  simp [ofKey]

/-! ## Knowing the same -/

/-- A database without a transaction and a store with a policy that know the same. The store is not
poisoned, for one that is knows nothing any more that it would tell. -/
structure Mirrors (p : Policy) (db : Database) (s : Store) : Prop where
  idle : db.saved = none
  lastId : db.lastId = s.log.head
  events : db.tables.Holds s.log
  records : ∀ k, Option.Rel RecordRow.Tells (db.tables.fetch k) (s.guard.lookup k)
  policy : s.policy = p
  alive : s.poisoned = false

theorem mirrors_empty (p : Policy) : Mirrors p .empty (.empty p) where
  idle := rfl
  lastId := rfl
  events := Tables.holds_empty
  records _ := .none
  policy := rfl
  alive := rfl

def Agree {α : Type} (p : Policy) (x : α × Database) (y : α × Store) : Prop :=
  x.1 = y.1 ∧ Mirrors p x.2 y.2

namespace Mirrors

/-- A transaction that is undone has at most used up positions. -/
theorem undo_eq (h : Mirrors p db s) (tables : Tables) (lastId : Int) :
    Database.undo ⟨tables, lastId, db.start.saved⟩ = { db with lastId } := by
  obtain ⟨_, _, _⟩ := db
  cases h.idle
  rfl

theorem close_eq (h : Mirrors p db s) (tables : Tables) (lastId : Int) :
    ⟨tables, lastId, none⟩ = { db with tables, lastId } := by
  obtain ⟨_, _, _⟩ := db
  cases h.idle
  rfl

theorem fetch_eq_none (h : Mirrors p db s) {k : Guard.Key} (hnone : s.guard.lookup k = none) :
    db.tables.fetch k = none := by
  have hrel := h.records k
  rw [hnone] at hrel
  generalize db.tables.fetch k = row at hrel
  cases hrel
  rfl

theorem fetch_eq_some (h : Mirrors p db s) {k : Guard.Key} {r : Guard.Record}
    (hsome : s.guard.lookup k = some r) :
    ∃ row made, db.tables.fetch k = some row ∧ row.toRecord = .ok { r with createdAt := made } := by
  have hrel := h.records k
  rw [hsome] at hrel
  generalize db.tables.fetch k = row at hrel
  cases hrel with
  | some htells =>
    obtain ⟨made, hrow⟩ := htells
    exact ⟨_, made, rfl, hrow⟩

/-- Both have written the same batch. -/
theorem written (h : Mirrors p db s) (made : a.Made) (fits : ∀ d ∈ drafts, d.Fits)
    (room : s.log.head + drafts.length < 2 ^ 63) {tables : Tables} {guard : Guard}
    (events : tables.events = db.tables.events ++ (s.log.extend a drafts).1.map .ofEvent)
    (records : ∀ k, Option.Rel RecordRow.Tells (tables.fetch k) (guard.lookup k)) :
    Mirrors p { db.grown ((s.log.extend a drafts).1.map .ofEvent) with tables }
      { s with log := (s.log.extend a drafts).2, guard } where
  idle := h.idle
  lastId := by
    have hhead : (s.log.extend a drafts).2.head = s.log.head + drafts.length :=
      Log.head_extend s.log a drafts
    rw [hhead, Database.grown, List.length_map, Log.fst_extend, Log.length_number, h.lastId,
      Int.natCast_add]
  events := (h.events.extend made fits room).of_events_eq events
  records := records
  policy := h.policy
  alive := h.alive

end Mirrors

/-! ## Calls that read -/

theorem agree_latest (h : Mirrors p db s) (now : Instant) (a : Aggregate) :
    Agree p ((latest a).against (answering now) db) (s.latest a, s) := by
  refine ⟨?_, h⟩
  rw [Store.latest, Store.look, h.alive]
  exact congrArg Except.ok (h.events.latest_eq a)

theorem agree_head (h : Mirrors p db s) (now : Instant) : Agree p (head.against (answering now) db)
    (s.head, s) := by
  refine ⟨?_, h⟩
  rw [Store.head, Store.look, h.alive]
  exact congrArg Except.ok h.events.head_eq

theorem agree_history (h : Mirrors p db s) (now : Instant) (a : Aggregate) :
    Agree p ((history a).against (answering now) db) (s.history a, s) := by
  refine ⟨?_, h⟩
  have hread :=
    h.events.mapM_toEvent (List.filter_sublist (p := fun e => decide (e.aggregate = a))).subset
  rw [Store.history, Store.look, h.alive, h.events.ordered.history a]
  rw [← Log.eventsOf, ← h.events.history_eq a] at hread
  exact hread

def readHere (access : Access) : Work StoreError (Ending StoreError Page) := do
  let _ ← execute "set_transaction" .readSnapshot
  let rows ← execute "read_events" (.read (.ofAccess access))
  let events ← liftM (List.mapM EventRow.toEvent rows)
  return .commit (access.page events (← headHere))

theorem answering_readHere {l : Log} (h : db.tables.Holds l) (now : Instant) (access : Access) :
    (readHere access).against (answering now) db = (.ok (.commit (l.page access)), db) := by
  have hsub : (l.accepted access).take (access.limit + 1) ⊆ l.toList := fun e he =>
    List.mem_of_mem_filter (List.mem_of_mem_take he)
  have hsnapshot : (execute "set_transaction" .readSnapshot).against (answering now) db =
    (.ok (0 : Nat), db) := rfl
  have hrows : (execute "read_events" (.read (.ofAccess access))).against (answering now) db =
      (.ok (((l.accepted access).take (access.limit + 1)).map EventRow.ofEvent), db) :=
    congrArg (fun rows => (Except.ok rows, db)) (h.read_eq access)
  rw [readHere, Work.against_bind, hsnapshot]
  dsimp only
  rw [Work.against_bind, hrows]
  dsimp only
  rw [Work.against_bind, Work.against_lift, h.mapM_toEvent hsub]
  dsimp only
  rw [Work.against_bind, answering_headHere, h.head_eq, Log.page, Log.filter_drop_accepts h.ordered]
  rfl

theorem agree_read (h : Mirrors p db s) (now : Instant) (position : EventId) (limit : Option Nat)
    (f : Filter) (scope : Scope) :
    Agree p ((read p position limit f scope).against (answering now) db)
    (s.read position limit f scope, s) := by
  have hread : read p position limit f scope =
      (liftM (Access.authorize position limit f scope p) >>= fun access =>
      transaction Error.report (readHere access)) := rfl
  rw [hread, Work.against_bind, Work.against_lift, Store.read, h.policy]
  cases Access.authorize position limit f scope p with
  | error e => exact ⟨rfl, h⟩
  | ok access =>
    have hstart : db.start.tables.Holds s.log := h.events
    have hlook : (s.look fun s => s.log.page access) = .ok (s.log.page access) :=
      if_neg (by simp [h.alive])
    have hclose : Mirrors p ⟨db.tables, db.lastId, none⟩ s :=
      (h.close_eq db.tables db.lastId).symm ▸ h
    dsimp only
    rw [answering_transaction, answering_readHere hstart]
    exact ⟨hlook.symm, hclose⟩

def contentOf (r : Guard.Record) : Guard.Key × String × Option Response :=
  (r.key, r.hash, r.response)

theorem agree_find (h : Mirrors p db s) (now : Instant) (k : Guard.Key) :
    Agree p (Prod.map (Except.map (Option.map contentOf)) id
      ((lookup k).against (answering now) db)) ((s.find k).map (Option.map contentOf), s) := by
  refine ⟨?_, h⟩
  have hlook : s.find k = .ok (s.guard.lookup k) := if_neg (by simp [h.alive])
  rw [answering_lookup, hlook]
  cases hlookup : s.guard.lookup k with
  | none =>
    rw [h.fetch_eq_none hlookup]
    rfl
  | some r =>
    obtain ⟨row, made, hfetch, hrow⟩ := h.fetch_eq_some hlookup
    rw [hfetch, Option.toList_some, readRecord, hrow]
    rfl

/-! ## Calls that write -/

theorem answering_append (h : Mirrors p db s) (checked : Batch.check drafts = .ok ())
    (room : expected = s.log.latest a → s.log.head + drafts.length < 2 ^ 63) (now : Instant) :
    (append a expected drafts).against (answering now) db =
      if expected = s.log.latest a then
        (.ok (s.log.extend a drafts).1, db.grown ((s.log.extend a drafts).1.map .ofEvent))
      else (.error (.aggregateConflict a expected (some (s.log.latest a))), db) := by
  have hstart : db.start.tables.Holds s.log := h.events
  rw [append_eq, Work.against_bind, Work.against_lift, checked]
  dsimp only
  rw [answering_transaction, Work.against_bind, answering_appendHere_of_holds hstart h.lastId room]
  by_cases hexpected : expected = s.log.latest a
  · rw [if_pos hexpected, if_pos hexpected]
    exact congrArg (Prod.mk _) (h.close_eq _ _)
  · rw [if_neg hexpected, if_neg hexpected]
    exact congrArg (Prod.mk _) (h.undo_eq _ _)

theorem append_of_checked (alive : s.poisoned = false) (checked : Batch.check drafts = .ok ()) :
    s.append a expected drafts =
      if expected = s.log.latest a then (.ok (s.log.extend a drafts).1,
        { s with log := (s.log.extend a drafts).2 })
      else (.error (.aggregateConflict a expected (some (s.log.latest a))), s) := by
  rw [Store.append, checked]
  dsimp only
  rw [alive, Log.append]
  by_cases hexpected : expected = s.log.latest a
  · rw [if_pos hexpected, if_pos hexpected]
    rfl
  · rw [if_neg hexpected, if_neg hexpected]
    rfl

/-- **Both write a batch, or both refuse it.** -/
theorem agree_append (h : Mirrors p db s) (now : Instant) (made : a.Made)
    (fits : ∀ d ∈ drafts, d.Fits) (room : (s.append a expected drafts).2.log.head < 2 ^ 63) :
    Agree p ((append a expected drafts).against (answering now) db)
    (s.append a expected drafts) := by
  cases hcheck : Batch.check drafts with
  | error e =>
    rw [append_eq, Work.against_bind, Work.against_lift, Store.append, hcheck]
    exact ⟨rfl, h⟩
  | ok _ =>
    rw [append_of_checked h.alive hcheck] at room ⊢
    by_cases hexpected : expected = s.log.latest a
    · rw [if_pos hexpected] at room ⊢
      have hroom : s.log.head + drafts.length < 2 ^ 63 := Log.head_extend s.log a drafts ▸ room
      rw [answering_append h hcheck fun _ => hroom, if_pos hexpected]
      exact ⟨rfl, h.written made fits hroom rfl h.records⟩
    · rw [if_neg hexpected, answering_append h hcheck fun hex => absurd hex hexpected,
        if_neg hexpected]
      exact ⟨rfl, h⟩

/-! ## Commands -/

/-- **Both answer a command from its record**, or refuse it because of the record. -/
theorem agree_commit_of_recorded (h : Mirrors p db s) (now later : Instant) {r : Guard.Record}
    (recorded : s.guard.lookup c.key = some r) :
    Agree p ((commit c).against (answering now) db) (s.commit c later) := by
  rw [commit_eq, Work.against_bind, mayCrash, Work.against_mapError, Work.against_lift,
    Store.commit_of_recorded recorded, h.alive]
  cases Batch.check c.drafts with
  | error e => exact ⟨rfl, h⟩
  | ok _ =>
    obtain ⟨row, made, hfetch, hrow⟩ := h.fetch_eq_some recorded
    have hstart : db.start.tables.fetch c.key = some row := hfetch
    have hresolve :
        ({ r with createdAt := made } : Guard.Record).resolve c.hash = r.resolve c.hash := rfl
    have hundo := h.undo_eq db.tables db.lastId
    dsimp only [mapError_ok]
    rw [answering_transaction, answering_commitHere_of_some hstart, hrow]
    dsimp only [outcomeOf]
    rw [hresolve]
    cases r.resolve c.hash with
    | error e => exact ⟨rfl, hundo ▸ h⟩
    | ok response => exact ⟨rfl, hundo ▸ h⟩

theorem answering_commit_of_unrecorded (h : Mirrors p db s)
    (unrecorded : s.guard.lookup c.key = none) (checked : Batch.check c.drafts = .ok ())
    (room : c.expected = s.log.latest c.aggregate → s.log.head + c.drafts.length < 2 ^ 63)
    (now : Instant) : (commit c).against (answering now) db =
      if c.expected = s.log.latest c.aggregate then
        let after := db.grown ((s.log.extend c.aggregate c.drafts).1.map .ofEvent)
        match c.respond (s.log.extend c.aggregate c.drafts).1 with
        | .error _ => (.error .crashed, { after with tables := db.tables })
        | .ok r => (.ok (.committed (s.log.extend c.aggregate c.drafts).1 r),
          { after with tables := after.tables.putRecord (.completed c.key c.hash r now) })
      else
        (.error
          (.failed (.aggregateConflict c.aggregate c.expected (some (s.log.latest c.aggregate)))),
          db) := by
  have hfetch : db.start.tables.fetch c.key = none := h.fetch_eq_none unrecorded
  let reserved : Database :=
    { db.start with tables := db.start.tables.putRecord (.reserved c.key c.hash now) }
  have hreserved : reserved.tables.Holds s.log := h.events.of_events_eq rfl
  have happend := answering_appendHere_of_holds hreserved h.lastId room now
  rw [commit_eq, Work.against_bind, mayCrash, Work.against_mapError, Work.against_lift, checked]
  dsimp only [mapError_ok]
  rw [answering_transaction, answering_commitHere_of_none hfetch, happend]
  -- The batch is written beside the reservation, which its response then replaces.
  by_cases hexpected : c.expected = s.log.latest c.aggregate
  · rw [if_pos hexpected, if_pos hexpected]
    dsimp only
    cases c.respond (s.log.extend c.aggregate c.drafts).1 with
    | error stop => exact congrArg (Prod.mk _) (h.undo_eq _ _)
    | ok r =>
      have hcomplete := Tables.complete_reserved
        (db.grown ((s.log.extend c.aggregate c.drafts).1.map .ofEvent)).tables c.key c.hash r now
      refine congrArg (Prod.mk _) ((h.close_eq _ _).trans ?_)
      exact congrArg (fun tables => { db.grown _ with tables : Database })
        (congrArg Prod.snd hcomplete)
  · rw [if_neg hexpected, if_neg hexpected]
    exact congrArg (Prod.mk _) (h.undo_eq _ _)

theorem commit_of_unrecorded (alive : s.poisoned = false) (unrecorded : s.guard.lookup c.key = none)
    (checked : Batch.check c.drafts = .ok ()) (later : Instant) :
    s.commit c later =
      if c.expected = s.log.latest c.aggregate then
        match c.respond (s.log.extend c.aggregate c.drafts).1 with
        | .error _ =>
          (.error .crashed,
            { s with log := (s.log.extend c.aggregate c.drafts).2, poisoned := true })
        | .ok r => (.ok (.committed (s.log.extend c.aggregate c.drafts).1 r),
          { s with
            log := (s.log.extend c.aggregate c.drafts).2
            guard := ⟨s.guard.records.insert c.key ⟨c.key, c.hash, some r, later⟩⟩ })
      else
        (.error
          (.failed (.aggregateConflict c.aggregate c.expected (some (s.log.latest c.aggregate)))),
          s) := by
  have hprecheck : s.guard.precheck c.key c.hash = .ok none := by rw [Guard.precheck, unrecorded]
  have hrecord (r : Response) : s.guard.record c.key c.hash r later =
      .ok ⟨s.guard.records.insert c.key ⟨c.key, c.hash, some r, later⟩⟩ := by
    rw [Guard.record, unrecorded]
  rw [Store.commit, checked]
  dsimp only
  rw [alive, hprecheck, Log.append]
  by_cases hexpected : c.expected = s.log.latest c.aggregate
  · rw [if_pos hexpected, if_pos hexpected]
    dsimp only
    cases c.respond (s.log.extend c.aggregate c.drafts).1 with
    | error stop => rfl
    | ok r =>
      dsimp only
      rw [hrecord]
      rfl
  · rw [if_neg hexpected, if_neg hexpected]
    rfl

/-- **Both execute a command without a record, or both refuse it.** A crash parts them. -/
theorem agree_commit_of_unrecorded (h : Mirrors p db s) (now later : Instant)
    (unrecorded : s.guard.lookup c.key = none) (made : c.aggregate.Made)
    (fits : ∀ d ∈ c.drafts, d.Fits)
    (status : ∀ committed r, c.respond committed = .ok r → r.status < 2 ^ 16)
    (room : (s.commit c later).2.log.head < 2 ^ 63) :
    ((commit c).against (answering now) db).1 = (s.commit c later).1 ∧
      ((s.commit c later).1 ≠ .error .crashed →
        Mirrors p ((commit c).against (answering now) db).2 (s.commit c later).2) := by
  cases hcheck : Batch.check c.drafts with
  | error e =>
    rw [commit_eq, Work.against_bind, mayCrash, Work.against_mapError, Work.against_lift,
      Store.commit, hcheck]
    exact ⟨rfl, fun _ => h⟩
  | ok _ =>
    rw [commit_of_unrecorded h.alive unrecorded hcheck] at room ⊢
    by_cases hexpected : c.expected = s.log.latest c.aggregate
    · rw [if_pos hexpected] at room ⊢
      have hroom : s.log.head + c.drafts.length < 2 ^ 63 := by
        rw [← Log.head_extend s.log c.aggregate c.drafts]
        cases hrespond : c.respond (s.log.extend c.aggregate c.drafts).1 with
        | error stop =>
          rw [hrespond] at room
          exact room
        | ok r =>
          rw [hrespond] at room
          exact room
      rw [answering_commit_of_unrecorded h unrecorded hcheck (fun _ => hroom), if_pos hexpected]
      dsimp only
      cases hrespond : c.respond (s.log.extend c.aggregate c.drafts).1 with
      | error stop => exact ⟨rfl, fun hcalm => absurd rfl hcalm⟩
      | ok r =>
        refine ⟨rfl, fun _ => h.written made fits hroom rfl fun k => ?_⟩
        -- Of the records only the one under the command's key has changed.
        have hkey : (RecordRow.completed c.key c.hash r now).key = .ofKey c.key := rfl
        rw [Tables.fetch_putRecord, Guard.lookup_insert, hkey]
        by_cases hk : k = c.key
        · rw [if_pos (KeyColumns.ofKey_eq_iff.mpr hk), if_pos hk]
          exact .some (RecordRow.tells_completed (status _ r hrespond) now later)
        · rw [if_neg (fun hcolumns => hk (KeyColumns.ofKey_eq_iff.mp hcolumns)), if_neg hk]
          exact h.records k
    · rw [if_neg hexpected,
        answering_commit_of_unrecorded h unrecorded hcheck (fun hex => absurd hex hexpected),
        if_neg hexpected]
      exact ⟨rfl, fun _ => h⟩

end Journal.Sql
