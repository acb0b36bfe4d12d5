import Journal.Proofs.Sql.Work
import Journal.Proofs.Sql.Writing

/-!
# Writers whose statements fail

Every statement of a writer can fail, with whatever error: a schedule says which do, one entry for
each statement that is executed. `failing` answers by a schedule; a statement that is made to fail
does nothing, but a transaction that cannot be ended is undone, and so is one whose connection is
lost.

Work inside a transaction is `Brittle`: whatever the schedule is, it fails, or it comes to what it
comes to when no statement fails, and in both cases what the transaction would go back to is still
there. Sequences of brittle work are brittle, so that nothing has to be said about where in a
sequence something failed.

**A write is all there or not at all** (`Write.allOrNothing`).
-/

namespace Journal.Sql

/-! ## Failures -/

/-- The statement ends a transaction, also when it fails. -/
def Statement.endsTransaction : Statement → Bool
  | .commit | .rollback => true
  | _ => false

def Database.fail (db : Database) (q : Statement) (e : Error) : Database :=
  if q.endsTransaction ∨ e = .disconnected then db.undo else db

/-- The errors of the statements to come, where they have any. Beginning and ending a transaction
are statements like others, so that a commit can fail as well. -/
abbrev Schedule := List (Option Error)

/-- A database at an instant, whose statements fail by a schedule. -/
def failing (now : Instant) : (q : calls.Ask) → Schedule × Database →
    calls.Answer q × (Schedule × Database)
  | .execute q, (some e :: rest, db) => (.error e, (rest, db.fail q e))
  | .execute q, (schedule, db) => ((db.execute now q).1, (schedule.tail, (db.execute now q).2))
  | q, (schedule, db) => ((answering now q db).1, (schedule, (answering now q db).2))

namespace Database

variable {db : Database} {tables : Tables}

theorem tables_undo_of_saved (h : db.saved = some tables) : db.undo.tables = tables := by
  rw [undo, h]
  rfl

theorem undo_undo (db : Database) : db.undo.undo = db.undo := rfl

theorem undo_fail (db : Database) (q : Statement) (e : Error) : (db.fail q e).undo = db.undo := by
  rw [fail]
  split
  · exact db.undo_undo
  · rfl

theorem fail_of_ends {q : Statement} (hq : q.endsTransaction = true) (db : Database) (e : Error) :
    db.fail q e = db.undo := if_pos (Or.inl hq)

theorem fail_of_idle (h : db.saved = none) (q : Statement) (e : Error) : db.fail q e = db := by
  have hundo : db.undo = db := by
    obtain ⟨_, _, _⟩ := db
    cases h
    rfl
  rw [fail, hundo, ite_self]

end Database

variable {ε ε' α β : Type} {now : Instant} {schedule : Schedule} {db : Database} {tables : Tables}
  {lastId : Int}

/-- A statement fails, or is executed. -/
theorem failing_execute (now : Instant) (q : Statement) (schedule : Schedule) (db : Database) :
    (∃ e rest, failing now (.execute q) (schedule, db) = (.error e, (rest, db.fail q e))) ∨
      ∃ rest, failing now (.execute q) (schedule, db) =
        ((db.execute now q).1, (rest, (db.execute now q).2)) := by
  rcases schedule with _ | ⟨_ | e, rest⟩
  · exact Or.inr ⟨[], rfl⟩
  · exact Or.inr ⟨rest, rfl⟩
  · exact Or.inl ⟨e, rest, rfl⟩

/-! ## Brittle work -/

/-- Inside a transaction, the work fails or comes to what it comes to when no statement fails; what
the transaction would go back to stays the same. -/
def Brittle (now : Instant) (w : Work ε α) : Prop :=
  ∀ (schedule : Schedule) (db : Database) (tables : Tables), db.saved = some tables →
    (∃ e rest after, w.against (failing now) (schedule, db) = (.error e, (rest, after)) ∧
      after.undo.tables = tables) ∨
    (∃ a rest after, w.against (failing now) (schedule, db) = (.ok a, (rest, after)) ∧
      w.against (answering now) db = (.ok a, after) ∧ after.saved = some tables)

namespace Brittle

theorem pure (a : α) : Brittle now (pure a : Work ε α) := fun schedule db _ saved =>
  Or.inr ⟨a, schedule, db, rfl, rfl, saved⟩

theorem throw (e : ε) : Brittle now (throw e : Work ε α) := fun schedule db _ saved =>
  Or.inl ⟨e, schedule, db, rfl, Database.tables_undo_of_saved saved⟩

theorem lift (r : Except ε α) : Brittle now (liftM r : Work ε α) := by
  cases r with
  | error e => exact throw e
  | ok a => exact pure a

theorem mapError {w : Work ε α} (h : Brittle now w) (f : ε → ε') : Brittle now (w.mapError f) := by
  intro schedule db tables saved
  rw [Work.against_mapError, Work.against_mapError]
  rcases h schedule db tables saved with
    ⟨e, rest, after, hfails, hundo⟩ | ⟨a, rest, after, hruns, hcalm, hsaved⟩
  · rw [hfails]
    exact Or.inl ⟨f e, rest, after, rfl, hundo⟩
  · rw [hruns, hcalm]
    exact Or.inr ⟨a, rest, after, rfl, rfl, hsaved⟩

theorem bind {w : Work ε α} {f : α → Work ε β} (h : Brittle now w) (hf : ∀ a, Brittle now (f a)) :
    Brittle now (w >>= f) := by
  intro schedule db tables saved
  rw [Work.against_bind, Work.against_bind]
  rcases h schedule db tables saved with
    ⟨e, rest, after, hfails, hundo⟩ | ⟨a, rest, after, hruns, hcalm, hsaved⟩
  · rw [hfails]
    exact Or.inl ⟨e, rest, after, rfl, hundo⟩
  · rw [hruns, hcalm]
    exact hf a rest after tables hsaved

/-- One statement is brittle that leaves the transaction open and whose failure is one of the
work. -/
theorem ask {q : Statement} {next : Except Error q.Answer → Program calls (Except ε α)}
    (inside : ∀ db : Database, (db.execute now q).2.saved = db.saved)
    (ends : ∀ r, (∃ e, next r = .done (.error e)) ∨ ∃ rows a, r = .ok rows ∧
      next r = .done (.ok a)) :
    Brittle now (ExceptT.mk (.ask (.execute q) next) : Work ε α) := by
  intro schedule db tables saved
  have hinside : (db.execute now q).2.saved = some tables := (inside db).trans saved
  rcases failing_execute now q schedule db with ⟨error, rest, hfails⟩ | ⟨rest, hruns⟩
  -- A failure of the statement is one of the work, so `next` cannot have gone on with rows.
  · obtain ⟨e, he⟩ : ∃ e, next (.error error) = .done (.error e) := by
      rcases ends (.error error) with he | ⟨rows, a, hok, _⟩
      · exact he
      · cases hok
    refine Or.inl ⟨e, rest, db.fail q error, ?_, ?_⟩
    · rw [Work.against_ask, hfails, he]
      rfl
    · rw [Database.undo_fail]
      exact Database.tables_undo_of_saved saved
  · rcases ends (db.execute now q).1 with ⟨e, he⟩ | ⟨rows, a, _, ha⟩
    · refine Or.inl ⟨e, rest, (db.execute now q).2, ?_, Database.tables_undo_of_saved hinside⟩
      rw [Work.against_ask, hruns, he]
      rfl
    · refine Or.inr ⟨a, rest, (db.execute now q).2, ?_, ?_, hinside⟩
      · rw [Work.against_ask, hruns, ha]
        rfl
      · change Work.against _ (ExceptT.mk (next (db.execute now q).1)) _ = _
        rw [ha]
        rfl

theorem execute (operation : String) {q : Statement}
    (inside : ∀ db : Database, (db.execute now q).2.saved = db.saved) :
    Brittle now (execute operation q) := by
  refine ask inside fun r => ?_
  cases r with
  | error e => exact Or.inl ⟨e.report operation, rfl⟩
  | ok rows => exact Or.inr ⟨rows, rows, rfl, rfl⟩

/-! ## What writers do inside their transactions -/

theorem reserveHere (k : Guard.Key) (hash : String) : Brittle now (reserveHere k hash) :=
  bind (execute _ fun _ => rfl) fun _ => pure _

theorem lookup (k : Guard.Key) : Brittle now (lookup k) :=
  bind (execute _ fun _ => rfl) fun _ => lift _

theorem latestHere (a : Aggregate) : Brittle now (latestHere a) :=
  bind (execute _ fun _ => rfl) fun _ => bind (lift _) fun _ => pure _

theorem insert (a : Aggregate) (expected seq : Seq) (d : Draft) :
    Brittle now (insert a expected seq d) := by
  refine ask (fun db => ?_) fun r => ?_
  · simp only [Database.execute, Database.insert]
    split
    · rfl
    · rfl
  · rcases r with e | _ | ⟨_ | id, more⟩
    · exact Or.inl ⟨_, rfl⟩
    · exact Or.inl ⟨_, rfl⟩
    · exact Or.inl ⟨_, rfl⟩
    · exact Or.inr ⟨some id :: more, _, rfl, rfl⟩

theorem insertAll (a : Aggregate) (expected seq : Seq) (drafts : List Draft) :
    Brittle now (insertAll a expected seq drafts) := by
  induction drafts generalizing seq with
  | nil => exact pure _
  | cons d rest ih =>
    exact bind (insert a expected seq d) fun _ =>
      bind (ih (seq + 1)) fun _ => pure _

theorem appendHere (a : Aggregate) (expected : Seq) (drafts : List Draft) :
    Brittle now (appendHere a expected drafts) := by
  refine bind (execute _ fun _ => rfl) fun _ => bind (latestHere a) fun latest => ?_
  by_cases h : expected = latest
  · rw [if_pos h]
    exact insertAll a expected (firstAssigned expected) drafts
  · rw [if_neg h]
    exact throw _

theorem commitHere (c : Command) : Brittle now (commitHere c) := by
  refine bind (mapError (reserveHere c.key c.hash) _) fun reserved => ?_
  cases reserved with
  | false => exact bind (mapError (lookup c.key) _) fun _ => pure _
  | true =>
    refine bind (mapError (appendHere c.aggregate c.expected c.drafts) _) fun events => ?_
    cases c.respond events with
    | error stop => exact throw _
    | ok r => exact bind (mapError (execute _ fun _ => rfl) _) fun _ => pure _

end Brittle

/-! ## Transactions -/

/-- **A transaction whose statements may fail** keeps what its work has done when it succeeds with
it, and otherwise nothing; its work was then not disturbed. -/
theorem failing_transaction_cases (report : String → Error → ε) {work : Work ε (Ending ε α)}
    (brittle : Brittle now work) (schedule : Schedule) (tables : Tables) (lastId : Int) :
    ∃ r rest after, (transaction report work).against (failing now)
    (schedule, ⟨tables, lastId, none⟩) =
      (r, (rest, after)) ∧ after.saved = none ∧
      ((∃ e, r = .error e ∧ after.tables = tables) ∨
        (∃ written, work.against (answering now) ⟨tables, lastId, some tables⟩ =
          (.ok (.rollback r), written) ∧ after.tables = tables) ∨
        (∃ a written, work.against (answering now) ⟨tables, lastId, some tables⟩ =
          (.ok (.commit a), written) ∧ r = .ok a ∧ after.tables = written.tables)) := by
  rw [Work.against_transaction]
  rcases failing_execute now .start schedule ⟨tables, lastId, none⟩ with
    ⟨e, rest, hfails⟩ | ⟨rest, hstarts⟩
  · rw [hfails, Database.fail_of_idle rfl]
    exact ⟨_, rest, _, rfl, rfl, Or.inl ⟨_, rfl, rfl⟩⟩
  rw [hstarts]
  dsimp only [Database.execute, Database.start]
  rcases brittle rest ⟨tables, lastId, some tables⟩ tables rfl with
    ⟨e, rest, after, hfails, hundo⟩ | ⟨ending, rest, written, hruns, hcalm, hsaved⟩
  · rw [hfails]
    exact ⟨_, rest, after.undo, rfl, rfl, Or.inl ⟨e, rfl, hundo⟩⟩
  have hundo : written.undo.tables = tables := Database.tables_undo_of_saved hsaved
  rw [hruns]
  -- The work has succeeded; now it is for the end of the transaction to fail.
  cases ending with
  | commit a =>
    rcases failing_execute now .commit rest written with ⟨e, later, hfails⟩ | ⟨later, hcommits⟩
    · dsimp only
      rw [hfails, Database.fail_of_ends rfl]
      exact ⟨_, later, _, rfl, rfl, Or.inl ⟨_, rfl, hundo⟩⟩
    · dsimp only
      rw [hcommits]
      exact ⟨_, later, _, rfl, rfl, Or.inr (Or.inr ⟨a, written, hcalm, rfl, rfl⟩)⟩
  | rollback r =>
    rcases failing_execute now .rollback rest written with ⟨e, later, hfails⟩ | ⟨later, hundoes⟩
    · dsimp only
      rw [hfails, Database.fail_of_ends rfl]
      exact ⟨_, later, _, rfl, rfl, Or.inl ⟨_, rfl, hundo⟩⟩
    · dsimp only
      rw [hundoes]
      exact ⟨_, later, _, rfl, rfl, Or.inr (Or.inl ⟨written, hcalm, hundo⟩)⟩

/-! ## Writes -/

inductive Write
  | append (a : Aggregate) (expected : Seq) (drafts : List Draft)
  | commit (c : Command)

namespace Write

def Failure : Write → Type
  | append .. => StoreError
  | commit _ => Stop StoreError

def Result : Write → Type
  | append .. => List Event
  | commit _ => Outcome

def work : (w : Write) → Work w.Failure w.Result
  | append a expected drafts => Sql.append a expected drafts
  | commit c => Sql.commit c

def Added (a : Aggregate) (drafts : List Draft) (events : List Event)
    (before after : Tables) : Prop :=
  ∃ rows, Kept a drafts rows events ∧ after = { before with events := before.events ++ rows }

/-- The rows of events, and nothing else, have been added to the tables together with the record of
a command, which had none before. -/
structure Executed (c : Command) (now : Instant) (events : List Event) (r : Response)
    (before after : Tables) :
    Prop where
  unrecorded : before.fetch c.key = none
  recorded : after.fetch c.key = some (.completed c.key c.hash r now)
  added : ∃ rows, Kept c.aggregate c.drafts rows events ∧
    after = { before with events := before.events ++ rows }.putRecord
    (.completed c.key c.hash r now)

def Accounts (now : Instant) : (w : Write) → Except w.Failure w.Result → Tables → Tables → Prop
  | append a _ drafts, .ok events, before, after => Added a drafts events before after
  | commit c, .ok (.committed events r), before, after => Executed c now events r before after
  | commit _, .ok (.replayed _), before, after => after = before
  | append .., .error _, before, after => after = before
  | commit _, .error _, before, after => after = before

variable (now) (schedule) (tables) (lastId)

theorem accounts_append (a : Aggregate) (expected : Seq) (drafts : List Draft) :
    ∃ answer rest after,
      (Sql.append a expected drafts).against (failing now) (schedule, ⟨tables, lastId, none⟩) =
        (answer, (rest, after)) ∧
      Accounts now (.append a expected drafts) answer tables after.tables ∧ after.saved = none := by
  rw [append_eq, Work.against_bind, Work.against_lift]
  cases Batch.check drafts with
  | error e => exact ⟨.error e, schedule, _, rfl, rfl, rfl⟩
  | ok _ =>
    have hbrittle : Brittle now (appendHere a expected drafts >>= fun events =>
        (pure (.commit events) : Work StoreError (Ending StoreError (List Event)))) :=
      .bind (.appendHere a expected drafts) fun _ => .pure _
    obtain ⟨r, rest, after, hruns, hsaved, hcases⟩ :=
      failing_transaction_cases Error.report hbrittle schedule tables lastId
    refine ⟨r, rest, after, hruns, ?_, hsaved⟩
    rcases hcases with
      ⟨e, rfl, hsame⟩ | ⟨written, hcalm, _⟩ | ⟨events, written, hcalm, rfl, hwritten⟩
    · exact hsame
    -- An append never asks to be undone.
    · obtain ⟨events, between, _, hend⟩ := Work.of_bind_eq_ok hcalm
      cases hend
    · obtain ⟨events, between, happend, hend⟩ := Work.of_bind_eq_ok hcalm
      cases hend
      obtain ⟨rows, rfl, hkept⟩ := answering_appendHere_of_ok happend
      exact ⟨rows, hkept, hwritten⟩

/-- A command that is answered from its record has been refused, or is a repetition. -/
theorem accounts_of_outcomeOf {c : Command} (record : Guard.Record) :
    Accounts now (.commit c) ((outcomeOf c.hash (some record)).mapError .failed) tables tables := by
  rw [outcomeOf]
  cases record.resolve c.hash with
  | error e => rfl
  | ok response => rfl

theorem accounts_commit (c : Command) :
    ∃ answer rest after,
      (Sql.commit c).against (failing now) (schedule, ⟨tables, lastId, none⟩) =
        (answer, (rest, after)) ∧
      Accounts now (.commit c) answer tables after.tables ∧ after.saved = none := by
  rw [commit_eq, Work.against_bind, mayCrash, Work.against_mapError, Work.against_lift]
  cases Batch.check c.drafts with
  | error e => exact ⟨.error (.failed e), schedule, _, rfl, rfl, rfl⟩
  | ok _ =>
    obtain ⟨r, rest, after, hruns, hsaved, hcases⟩ := failing_transaction_cases
      (fun operation e => .failed (e.report operation)) (.commitHere c) schedule tables lastId
    refine ⟨r, rest, after, hruns, ?_, hsaved⟩
    rcases hcases with
      ⟨e, rfl, hsame⟩ | ⟨written, hcalm, hsame⟩ | ⟨o, written, hcalm, rfl, hwritten⟩
    · exact hsame
    -- Undisturbed work of a command is undone only after its record was found, and kept only after
    -- all was written.
    · rcases answering_commitHere_cases now c ⟨tables, lastId, some tables⟩ with
        ⟨e, _, hwork⟩ | ⟨record, hwork⟩ | ⟨_, _, _, _, hwork, _⟩
      · cases hcalm.symm.trans hwork
      · cases hcalm.symm.trans hwork
        rw [hsame]
        exact accounts_of_outcomeOf now tables record
      · cases hcalm.symm.trans hwork
    · rcases answering_commitHere_cases now c ⟨tables, lastId, some tables⟩ with
        ⟨e, _, hwork⟩ | ⟨record, hwork⟩ | ⟨events, response, rows, done, hwork, hnone,
          hkept, htables⟩
      · cases hcalm.symm.trans hwork
      · cases hcalm.symm.trans hwork
      · cases hcalm.symm.trans hwork
        refine ⟨hnone, ?_, rows, hkept, hwritten.trans htables⟩
        rw [hwritten, htables, Tables.fetch_putRecord]
        exact if_pos rfl

/-- **A write is all there or not at all**: whichever of its statements fail, in whatever tables, a
write that is answered has added exactly what the answer says, and one that is refused, fails,
crashes or is answered from its record has left the tables as they were. A commit that fails counts
as one that has not been made. -/
theorem allOrNothing (w : Write) :
    ∃ answer rest after,
      w.work.against (failing now) (schedule, ⟨tables, lastId, none⟩) = (answer, (rest, after)) ∧
      w.Accounts now answer tables after.tables ∧ after.saved = none := by
  cases w with
  | append a expected drafts => exact accounts_append now schedule tables lastId a expected drafts
  | commit c => exact accounts_commit now schedule tables lastId c

end Write

end Journal.Sql
