import Journal.Proofs.Sql.Row
import Journal.Proofs.Sql.Work
import Journal.Proofs.Store.Operation
import Mathlib.Data.List.Forall2
import Journal.Sql.Database

/-!
# Reading back what was appended

An append answers with the events as they were submitted, and the rows are read much later and by
somebody else. Nothing is assumed here about the database but that a row holds what was written:
`recording` notes the rows that were inserted beside whatever answers the questions, and answers for
the rest as it likes.

**Every event that an append answers with has its row, and the row gives back the event exactly when
the numbers of the event fit into their columns** (`readBack_iff`). The batch is checked before it
is written, but not for this: a version is refused when it is zero and not when it is too large
(`cut_version`).
-/

namespace Journal.Sql

variable {σ : Type} {answer : (q : calls.Ask) → σ → calls.Answer q × σ}

/-- Answer as before, and note each row that is inserted: what was bound, at the position that was
given. -/
def recording (answer : (q : calls.Ask) → σ → calls.Answer q × σ) :
    (q : calls.Ask) → σ × List EventRow → calls.Answer q × (σ × List EventRow)
  | .execute (.insert c), (s, rows) =>
    match (answer (.execute (.insert c)) s : Except Error (List (Option Int)) × σ) with
    | (.ok (id :: more), s) =>
      ((.ok (id :: more) : Except Error (List (Option Int))), (s, rows ++ [⟨c, id⟩]))
    | (r, s) => (r, (s, rows))
  | q, (s, rows) => ((answer q s).1, ((answer q s).2, rows))

/-- What an append answers in a transaction, and the rows that it inserts. -/
def appended (answer : (q : calls.Ask) → σ → calls.Answer q × σ) (s : σ) (a : Aggregate)
    (expected : Seq) (drafts : List Draft) : Except StoreError (List Event) × List EventRow :=
  let (result, (_, rows)) := (appendHere a expected drafts).against (recording answer) (s, [])
  (result, rows)

/-- The rows were written for the events, which are those of an aggregate and come from the drafts,
in order. -/
structure Kept (a : Aggregate) (drafts : List Draft) (rows : List EventRow)
    (events : List Event) : Prop where
  drafts : events.map (·.draft) = drafts
  aggregate : ∀ e ∈ events, e.aggregate = a
  rows : List.Forall₂ (fun e r => r.Keeps e) events rows

variable {a : Aggregate} {expected seq : Seq} {d : Draft} {drafts : List Draft} {s t : σ}
  {rows after : List EventRow} {e : Event} {events : List Event}

theorem Kept.cons {r : EventRow} (h : Kept a drafts rows events) (hdraft : e.draft = d)
    (haggregate : e.aggregate = a) (hkeeps : r.Keeps e) :
    Kept a (d :: drafts) (r :: rows) (e :: events) where
  drafts := by rw [List.map_cons, hdraft, h.drafts]
  aggregate := List.forall_mem_cons.mpr ⟨haggregate, h.aggregate⟩
  rows := .cons hkeeps h.rows

theorem kept_insert (h : (insert a expected seq d).against (recording answer) (s, rows) =
      (.ok e, (t, after))) :
    ∃ r, after = rows ++ [r] ∧ r.Keeps e ∧ e.aggregate = a ∧ e.draft = d := by
  rw [Work.against, insert, ExceptT.run_mk] at h
  dsimp only [Program.run, recording] at h
  -- Only a row with a position is an answer from which an event is made.
  rcases hanswer : answer (.execute (.insert (.ofDraft a seq d))) s with
    ⟨error | _ | ⟨_ | id, more⟩, u⟩
  · rw [hanswer] at h
    cases h
  · rw [hanswer] at h
    cases h
  · rw [hanswer] at h
    cases h
  · rw [hanswer] at h
    cases h
    exact ⟨⟨.ofDraft a seq d, some id⟩, rfl, ⟨rfl, rfl⟩, rfl, rfl⟩

theorem kept_insertAll
    (h : (insertAll a expected seq drafts).against (recording answer) (s, rows) =
      (.ok events, (t, after))) :
    ∃ new, after = rows ++ new ∧ Kept a drafts new events := by
  induction drafts generalizing seq s rows events with
  | nil =>
    cases h
    exact ⟨[], (List.append_nil _).symm, rfl, fun e he => absurd he List.not_mem_nil, .nil⟩
  | cons d rest ih =>
    obtain ⟨e, ⟨u, between⟩, hfirst, hmore⟩ := Work.of_bind_eq_ok h
    obtain ⟨others, ⟨v, last⟩, hrest, hend⟩ := Work.of_bind_eq_ok hmore
    cases hend
    obtain ⟨r, rfl, hkeeps, haggregate, hdraft⟩ := kept_insert hfirst
    obtain ⟨new, rfl, hnew⟩ := ih hrest
    exact ⟨r :: new, List.append_assoc rows [r] new, hnew.cons hdraft haggregate hkeeps⟩

theorem notes_execute {operation : String} {q : Statement} (hq : ∀ c, q ≠ .insert c)
    {result : Except StoreError q.Answer}
    (h : (execute operation q).against (recording answer) (s, rows) = (result, (t, after))) :
    after = rows := by
  rw [Work.against_execute] at h
  cases q with
  | insert c => exact absurd rfl (hq c)
  | _ => exact (congrArg (fun r => r.2.2) h).symm

theorem kept_appendHere
    (h : (appendHere a expected drafts).against (recording answer) (s, rows) =
      (.ok events, (t, after))) :
    ∃ new, after = rows ++ new ∧ Kept a drafts new events := by
  obtain ⟨_, ⟨u, notes⟩, hlock, hlooked⟩ := Work.of_bind_eq_ok h
  obtain ⟨latest, ⟨v, between⟩, hlatest, hwritten⟩ := Work.of_bind_eq_ok hlooked
  obtain ⟨numbers, ⟨_, still⟩, hnumbers, hread⟩ := Work.of_bind_eq_ok hlatest
  obtain ⟨number, _, hscalar, hnumber⟩ := Work.of_bind_eq_ok hread
  obtain rfl := notes_execute (fun c => by simp) hlock
  obtain rfl := notes_execute (fun c => by simp) hnumbers
  obtain ⟨_, rfl⟩ := Prod.mk.inj ((Work.against_lift _ _).symm.trans hscalar)
  cases hnumber
  by_cases hexpected : expected = ofColumn number
  · rw [if_pos hexpected] at hwritten
    exact kept_insertAll hwritten
  · rw [if_neg hexpected] at hwritten
    cases hwritten

theorem kept_appended (h : appended answer s a expected drafts = (.ok events, rows)) :
    Kept a drafts rows events := by
  rcases hrun : (appendHere a expected drafts).against (recording answer) (s, []) with
    ⟨result, t, after⟩
  rw [appended, hrun] at h
  obtain ⟨rfl, rfl⟩ := Prod.mk.inj h
  obtain ⟨new, rfl, hkept⟩ := kept_appendHere hrun
  exact hkept

/-! ## Every event is read back, if its numbers fit -/

/-- **An append answers with its drafts as events, and each of them is read back exactly when its
numbers fit into their columns**, whatever else the database does. The rows are those that were
bound, so that nothing is assumed about how the database keeps them beyond that it gives them
back. -/
theorem readBack_iff {kind : AggregateKind} {id : String} (made : Aggregate.make kind id = .ok a)
    (h : appended answer s a expected drafts = (.ok events, rows)) :
    events.map (·.draft) = drafts ∧
      List.Forall₂ (fun e r => r.toEvent = .ok e ↔ e.Fits) events rows := by
  have hkept := kept_appended h
  refine ⟨hkept.drafts, ?_⟩
  refine List.Forall₂.imp ?_ ((List.forall₂_and_left events rows).mpr ⟨hkept.aggregate, hkept.rows⟩)
  rintro e r ⟨haggregate, hkeeps⟩
  have hmade : e.aggregate.Made := haggregate.symm ▸ Aggregate.made_of_make made
  exact EventRow.toEvent_eq_ok_iff hmade hkeeps

def edition (version : Nat) : Draft := { Sample.posting with version }

def firstRow (d : Draft) : EventRow := ⟨.ofDraft Sample.account 1 d, some 1⟩

/-- The largest version that fits is read back. -/
theorem readBack_largest :
    Aggregate.make Sample.account.kind "acct-1" = .ok Sample.account ∧
      appended (Database.answer Sample.noon) .empty Sample.account 0 [edition 2147483647] =
        (.ok [.ofDraft 1 Sample.account 1 (edition 2147483647)], [firstRow (edition 2147483647)]) ∧
      (firstRow (edition 2147483647)).toEvent =
          .ok (.ofDraft 1 Sample.account 1 (edition 2147483647)) := by
  have hmade : Aggregate.make Sample.account.kind "acct-1" = .ok Sample.account := by decide +kernel
  have happended : appended (Database.answer Sample.noon) .empty Sample.account 0
      [edition 2147483647] =
      (.ok [.ofDraft 1 Sample.account 1 (edition 2147483647)],
        [firstRow (edition 2147483647)]) := by decide +kernel
  have hread := (List.forall₂_cons.mp (readBack_iff hmade happended).2).1
  refine ⟨hmade, happended, hread.mpr ⟨by decide, by decide, fun c hc => ?_⟩⟩
  cases hc

/-- A batch with the next version is accepted and written, and the event that is read back has
another version than the event of the answer. Nothing refuses a version for its size before the
column cuts it. -/
theorem cut_version :
    Batch.check [edition 2147483648] = .ok () ∧
      appended (Database.answer Sample.noon) .empty Sample.account 0 [edition 2147483648] =
        (.ok [.ofDraft 1 Sample.account 1 (edition 2147483648)], [firstRow (edition 2147483648)]) ∧
      (firstRow (edition 2147483648)).toEvent =
        .ok (.ofDraft 1 Sample.account 1 (edition 2147483647)) ∧
      (firstRow (edition 2147483648)).toEvent ≠
          .ok (.ofDraft 1 Sample.account 1 (edition 2147483648)) :=
  ⟨by decide +kernel, by decide +kernel, by decide +kernel, by decide +kernel⟩

end Journal.Sql
