import Journal.Proofs.Sql.ReadBack
import Journal.Sql.Command

/-!
# What writers leave in the tables

The parts of which an append and a command are made, one after the other, on a database that answers
everything. Each of them comes to something that can be said in a line, and `rowsFrom` and
`eventsFrom` say at once what a whole batch becomes: rows at the next positions of the table, and
the events that the writer is told of.

**A batch that is written at all is written as it stands** (`answering_insertAll_of_ok`), and a
writer that begins after the last event of its aggregate is not refused
(`answering_insertAll_of_free`).
-/

namespace Journal.Sql

def answering (now : Instant) : (q : calls.Ask) → Database → calls.Answer q × Database :=
  Database.answer now

variable {now : Instant} {t : Tables} {db after : Database} {a : Aggregate}
  {expected seq : Seq} {d : Draft}
  {drafts : List Draft} {events : List Event} {k : Guard.Key} {hash : String} {c : Command}

/-! ## Records -/

def RecordRow.reserved (k : Guard.Key) (hash : String) (now : Instant) : RecordRow :=
  ⟨.ofKey k, hash, none, none, now⟩

def RecordRow.completed (k : Guard.Key) (hash : String) (r : Response) (now : Instant) :
    RecordRow :=
  ⟨.ofKey k, hash, some r.status, r.body, now⟩

namespace Tables

theorem fetch_putRecord (t : Tables) (r : RecordRow) (k : Guard.Key) :
    (t.putRecord r).fetch k = if .ofKey k = r.key then some r else t.fetch k :=
    Keyed.get?_insert _ _ _ _

theorem putRecord_putRecord (t : Tables) {r s : RecordRow} (h : r.key = s.key) :
    (t.putRecord r).putRecord s = t.putRecord s := by
  rw [putRecord, putRecord, putRecord, h]
  exact congrArg (fun records => { t with records }) (Keyed.insert_insert _ _ _ _)

theorem reserve_of_fetch_none (hnone : t.fetch k = none) (hash : String) (now : Instant) :
    t.reserve k hash now = ([some now], t.putRecord (.reserved k hash now)) := by
  rw [reserve, hnone]
  rfl

theorem reserve_of_fetch_some {r : RecordRow} (hsome : t.fetch k = some r) (hash : String)
    (now : Instant) :
    t.reserve k hash now = ([], t) := by
  rw [reserve, hsome]

/-- A reservation is completed by its own request, and nothing of it is left. -/
theorem complete_reserved (t : Tables) (k : Guard.Key) (hash : String) (r : Response)
    (now : Instant) :
    (t.putRecord (.reserved k hash now)).complete k hash r.status r.body =
      (1, t.putRecord (.completed k hash r now)) := by
  have hfetch : (t.putRecord (.reserved k hash now)).fetch k = some (.reserved k hash now) :=
    (fetch_putRecord t _ k).trans (if_pos rfl)
  rw [complete, hfetch]
  exact (if_pos rfl).trans
    (congrArg (Prod.mk 1) (putRecord_putRecord t (s := .completed k hash r now) rfl))

end Tables

theorem answering_reserveHere (now : Instant) (k : Guard.Key) (hash : String) (db : Database) :
    (reserveHere k hash).against (answering now) db =
      (.ok (!(db.tables.reserve k hash now).1.isEmpty),
        { db with tables := (db.tables.reserve k hash now).2 }) := rfl

theorem answering_lookup (now : Instant) (k : Guard.Key) (db : Database) :
    (lookup k).against (answering now) db = (readRecord (db.tables.fetch k).toList, db) := rfl

/-! ## Where an aggregate and the log are -/

def Tables.latest (t : Tables) (a : Aggregate) : Seq :=
  ofColumn (largest (·.seq) (t.events.filter (isOf a.kind.name a.id)))

def Tables.head (t : Tables) : EventId := ofColumn (largest (·.id) t.events)

theorem answering_latestHere (now : Instant) (a : Aggregate) (db : Database) :
    (latestHere a).against (answering now) db = (.ok (db.tables.latest a), db) := rfl

theorem answering_headHere (now : Instant) (db : Database) :
    headHere.against (answering now) db = (.ok db.tables.head, db) := rfl

/-! ## Events -/

def rowsFrom (a : Aggregate) : Int → Seq → List Draft → List EventRow
  | _, _, [] => []
  | last, seq, d :: rest =>
    ⟨.ofDraft a seq d, some (last + 1)⟩ :: rowsFrom a (last + 1) (seq + 1) rest

def eventsFrom (a : Aggregate) : Int → Seq → List Draft → List Event
  | _, _, [] => []
  | last, seq, d :: rest =>
    .ofDraft (ofColumn (last + 1)) a seq d :: eventsFrom a (last + 1) (seq + 1) rest

theorem kept_from (a : Aggregate) (last : Int) (seq : Seq) (drafts : List Draft) :
    Kept a drafts (rowsFrom a last seq drafts) (eventsFrom a last seq drafts) := by
  induction drafts generalizing last seq with
  | nil => exact ⟨rfl, fun e he => absurd he List.not_mem_nil, .nil⟩
  | cons d rest ih => exact (ih (last + 1) (seq + 1)).cons rfl rfl ⟨rfl, rfl⟩

namespace Database

def grown (db : Database) (rows : List EventRow) : Database :=
  { db with
    lastId := db.lastId + rows.length
    tables := { db.tables with events := db.tables.events ++ rows } }

theorem grown_nil (db : Database) : db.grown [] = db := by simp [grown]

theorem grown_grown (db : Database) (rows more : List EventRow) :
    (db.grown rows).grown more = db.grown (rows ++ more) := by
  simp [grown, Int.add_assoc]

end Database

theorem answering_insert (now : Instant) (a : Aggregate) (expected seq : Seq) (d : Draft)
    (db : Database) :
    (insert a expected seq d).against (answering now) db =
      if db.tables.isTaken (.ofDraft a seq d) then
        (.error (.aggregateConflict a expected none), { db with lastId := db.lastId + 1 })
      else
        (.ok (.ofDraft (ofColumn (db.lastId + 1)) a seq d),
            db.grown [⟨.ofDraft a seq d, some (db.lastId + 1)⟩]) := by
  rw [Work.against, insert, ExceptT.run_mk]
  dsimp only [Program.run, answering, Database.answer, Database.execute, Database.insert]
  by_cases htaken : db.tables.isTaken (.ofDraft a seq d) = true
  · rw [if_pos htaken, if_pos htaken]
    rfl
  · rw [if_neg htaken, if_neg htaken]
    rfl

/-- **A batch that is written is written as it stands.** -/
theorem answering_insertAll_of_ok
    (h : (insertAll a expected seq drafts).against (answering now) db = (.ok events, after)) :
    events = eventsFrom a db.lastId seq drafts ∧
    after = db.grown (rowsFrom a db.lastId seq drafts) := by
  induction drafts generalizing seq db events with
  | nil =>
    cases h
    exact ⟨rfl, (Database.grown_nil _).symm⟩
  | cons d rest ih =>
    obtain ⟨e, between, hfirst, hmore⟩ := Work.of_bind_eq_ok h
    obtain ⟨others, last, hrest, hend⟩ := Work.of_bind_eq_ok hmore
    cases hend
    rw [answering_insert] at hfirst
    split at hfirst
    · cases hfirst
    · obtain ⟨hevent, rfl⟩ := Prod.mk.inj hfirst
      cases hevent
      -- The rest was written into the table that the first row had grown.
      obtain ⟨rfl, rfl⟩ := ih hrest
      exact ⟨rfl, Database.grown_grown _ _ _⟩

/-- The places of an aggregate from a number on are free, and there are enough of them for
drafts. -/
structure Tables.HasRoom (t : Tables) (a : Aggregate) (seq : Seq) (drafts : List Draft) : Prop where
  free : ∀ r ∈ t.events, Tables.isOf a.kind.name a.id r → ∀ n ∈ r.seq, n < (seq : Int)
  enough : seq + drafts.length ≤ 2 ^ 63

namespace Tables.HasRoom

theorem not_isTaken (h : t.HasRoom a seq (d :: drafts)) : t.isTaken (.ofDraft a seq d) = false := by
  have hcolumn : toColumn seq = seq := by
    have := h.enough
    rw [List.length_cons] at this
    rw [toColumn, largestColumn]
    lia
  rw [isTaken, List.any_eq_false]
  intro r hr hclash
  simp only [clashes, EventColumns.ofDraft, hcolumn, Bool.and_eq_true, beq_iff_eq] at hclash
  -- A row with the same kind, identifier and number would be one of the aggregate's, whose numbers
  -- are all smaller.
  obtain ⟨⟨⟨⟨⟨_, hkind⟩, _⟩, hid⟩, _⟩, hseq⟩ := hclash
  have hlt := h.free r hr (by simp [isOf, hkind, hid]) seq hseq
  exact absurd hlt (by omega)

theorem tail (h : t.HasRoom a seq (d :: drafts)) (id : Option Int) :
    { t with events := t.events ++ [⟨.ofDraft a seq d, id⟩] : Tables }.HasRoom a
    (seq + 1) drafts where
  free r hr hof n hn := by
    rcases List.mem_append.mp hr with hr | hr
    · have := h.free r hr hof n hn
      omega
    · obtain rfl := List.mem_singleton.mp hr
      have : toColumn seq = n := Option.some.inj hn
      simp only [toColumn] at this
      omega
  enough := by
    have := h.enough
    rw [List.length_cons] at this
    lia

end Tables.HasRoom

theorem answering_insertAll_of_free (now : Instant) (expected : Seq)
    (h : db.tables.HasRoom a seq drafts) :
    (insertAll a expected seq drafts).against (answering now) db =
      (.ok (eventsFrom a db.lastId seq drafts), db.grown (rowsFrom a db.lastId seq drafts)) := by
  induction drafts generalizing seq db with
  | nil => exact congrArg (Prod.mk _) (Database.grown_nil _).symm
  | cons d rest ih =>
    have hfirst := answering_insert now a expected seq d db
    rw [h.not_isTaken, if_neg Bool.false_ne_true] at hfirst
    have htail : (db.grown [⟨.ofDraft a seq d, some (db.lastId + 1)⟩]).tables.HasRoom a (seq + 1)
      rest := h.tail _
    rw [insertAll, Work.against_bind, hfirst]
    dsimp only
    rw [Work.against_bind, ih htail]
    exact congrArg (Prod.mk _) (Database.grown_grown _ _ _)

theorem answering_appendHere (now : Instant) (a : Aggregate) (expected : Seq) (drafts : List Draft)
    (db : Database) :
    (appendHere a expected drafts).against (answering now) db =
      if expected = db.tables.latest a then
        (insertAll a expected (firstAssigned expected) drafts).against (answering now) db
      else (.error (.aggregateConflict a expected (some (db.tables.latest a))), db) := by
  have hlock : (execute "advisory_lock" (.lock appendLock)).against (answering now) db =
    (.ok (1 : Nat), db) := rfl
  rw [appendHere, Work.against_bind, hlock]
  dsimp only
  rw [Work.against_bind, answering_latestHere]
  dsimp only
  split
  · rfl
  · rfl

/-- An append that succeeds has written its batch where the aggregate was expected. -/
theorem answering_appendHere_of_ok
    (h : (appendHere a expected drafts).against (answering now) db = (.ok events, after)) :
    ∃ rows, after = db.grown rows ∧ Kept a drafts rows events := by
  rw [answering_appendHere] at h
  split at h
  · obtain ⟨rfl, rfl⟩ := answering_insertAll_of_ok h
    exact ⟨_, rfl, kept_from a db.lastId (firstAssigned expected) drafts⟩
  · cases h

/-! ## Appends and commands -/

theorem append_eq (a : Aggregate) (expected : Seq) (drafts : List Draft) :
    append a expected drafts = (liftM (Batch.check drafts) >>= fun _ =>
      transaction Error.report (appendHere a expected drafts >>= fun events =>
          pure (.commit events))) := by
  rw [append, ← bind_pure_comp]

def commitHere (c : Command) : Work (Stop StoreError) (Ending (Stop StoreError) Outcome) := do
  if ← mayCrash (reserveHere c.key c.hash) then
    let events ← mayCrash (appendHere c.aggregate c.expected c.drafts)
    match c.respond events with
    | .error _ => throw .crashed
    | .ok r =>
      let _ ← mayCrash (execute "complete_idempotency" (.complete c.key c.hash r.status r.body))
      return .commit (.committed events r)
  else
    let record ← mayCrash (lookup c.key)
    return .rollback ((outcomeOf c.hash record).mapError .failed)

theorem commit_eq (c : Command) :
    commit c = (mayCrash (liftM (Batch.check c.drafts)) >>= fun _ =>
      transaction (fun operation e => .failed (e.report operation)) (commitHere c)) := rfl

/-- A command whose key has a record answers from it. -/
theorem answering_commitHere_of_some {r : RecordRow} (hsome : db.tables.fetch c.key = some r) :
    (commitHere c).against (answering now) db =
      (match r.toRecord with
        | .ok record => .ok (.rollback ((outcomeOf c.hash (some record)).mapError .failed))
        | .error e => .error (.failed e), db) := by
  have hreserve : (reserveHere c.key c.hash).against (answering now) db = (.ok false, db) := by
    rw [answering_reserveHere, Tables.reserve_of_fetch_some hsome]
    rfl
  have hlookup : (lookup c.key).against (answering now) db = (r.toRecord.map some, db) := by
    rw [answering_lookup, hsome]
    rfl
  rw [commitHere, Work.against_bind, mayCrash, Work.against_mapError, hreserve]
  change Work.against _ (mayCrash (lookup c.key) >>= _) _ = _
  rw [Work.against_bind, mayCrash, Work.against_mapError, hlookup]
  cases r.toRecord with
  | error e => rfl
  | ok record => rfl

/-- A command whose key has none writes its reservation, its batch and its response. -/
theorem answering_commitHere_of_none (hnone : db.tables.fetch c.key = none) :
    (commitHere c).against (answering now) db =
      match (appendHere c.aggregate c.expected c.drafts).against (answering now)
          { db with tables := db.tables.putRecord (.reserved c.key c.hash now) } with
      | (.error e, db) => (.error (.failed e), db)
      | (.ok events, db) => match c.respond events with
        | .error _ => (.error .crashed, db)
        | .ok r => (.ok (.commit (.committed events r)),
          { db with tables := (db.tables.complete c.key c.hash r.status r.body).2 }) := by
  have hreserve : (reserveHere c.key c.hash).against (answering now) db =
      (.ok true, { db with tables := db.tables.putRecord (.reserved c.key c.hash now) }) := by
    rw [answering_reserveHere, Tables.reserve_of_fetch_none hnone]
    rfl
  rw [commitHere, Work.against_bind, mayCrash, Work.against_mapError, hreserve]
  change Work.against _ (mayCrash (appendHere c.aggregate c.expected c.drafts) >>= _) _ = _
  rw [Work.against_bind, mayCrash, Work.against_mapError]
  rcases (appendHere c.aggregate c.expected c.drafts).against (answering now) _ with
    ⟨e | events, written⟩
  · rfl
  · dsimp only [mapError_ok]
    cases c.respond events with
    | error stop => rfl
    | ok r => rfl

/-- **What a command can come to in its transaction**: it fails, or answers from its record, or has
written the rows of its events and its record, which is not the reservation any more. -/
theorem answering_commitHere_cases (now : Instant) (c : Command) (db : Database) :
    (∃ e after, (commitHere c).against (answering now) db = (.error e, after)) ∨
    (∃ record, (commitHere c).against (answering now) db =
      (.ok (.rollback ((outcomeOf c.hash (some record)).mapError .failed)), db)) ∨
    (∃ events r rows after, (commitHere c).against (answering now) db =
      (.ok (.commit (.committed events r)), after) ∧
      db.tables.fetch c.key = none ∧ Kept c.aggregate c.drafts rows events ∧
      after.tables =
        { db.tables with events := db.tables.events ++ rows }.putRecord
        (.completed c.key c.hash r now)) := by
  cases hfetch : db.tables.fetch c.key with
  | some row =>
    rw [answering_commitHere_of_some hfetch]
    cases row.toRecord with
    | error e => exact Or.inl ⟨.failed e, db, rfl⟩
    | ok record => exact Or.inr (Or.inl ⟨record, rfl⟩)
  | none =>
    rw [answering_commitHere_of_none hfetch]
    rcases happend : (appendHere c.aggregate c.expected c.drafts).against (answering now)
      { db with tables := db.tables.putRecord (.reserved c.key c.hash now) } with
      ⟨e | events, written⟩
    · exact Or.inl ⟨.failed e, written, rfl⟩
    · obtain ⟨rows, rfl, hkept⟩ := answering_appendHere_of_ok happend
      dsimp only
      cases c.respond events with
      | error stop => exact Or.inl ⟨.crashed, _, rfl⟩
      | ok r =>
        have hcomplete :=
          Tables.complete_reserved { db.tables with events := db.tables.events ++ rows }
            c.key c.hash r now
        exact Or.inr (Or.inr ⟨events, r, rows, _, rfl, rfl, hkept, congrArg Prod.snd hcomplete⟩)

end Journal.Sql
