import Journal.Proofs.Calls
import Journal.Proofs.Sql.Twins

/-!
# The same session with two stores

A session is a sequence of calls, each at an instant of its own. It can be had with a store in
memory and with a store on a database, and nobody can tell from the answers which of the two it was:
**the answer to a call is the same from both, as long as no call before it has crashed**
(`Session.alike`). The instants need not be the same for the two; they show in nothing but the
records, of which an answer does not say when they were made.

A crash parts the two for good (`Session.parted_by_crash`): the store in memory does not answer any
more, and the database has forgotten the call.
-/

namespace Journal.Sql

inductive Call
  | append (a : Aggregate) (expected : Seq) (drafts : List Draft)
  | commit (c : Command)
  | read (position : EventId) (limit : Option Nat) (f : Filter) (scope : Scope)
  | history (a : Aggregate)
  | latest (a : Aggregate)
  | head
  | find (k : Guard.Key)

/-- An answer to a call. Of a record it does not say when it was made: two stores are used at
different times, and differ in nothing else. -/
inductive Reply
  | events (r : Except StoreError (List Event))
  | outcome (r : Attempt StoreError Outcome)
  | page (r : Except StoreError Page)
  | number (r : Except StoreError Nat)
  | record (r : Except StoreError (Option (Guard.Key × String × Option Response)))
  deriving DecidableEq

def Reply.crash : Reply := .outcome (.error .crashed)

namespace Call

def ofStore (now : Instant) : Call → Store → Reply × Store
  | append a expected drafts, s => (s.append a expected drafts).map .events id
  | commit c, s => (s.commit c now).map .outcome id
  | read position limit f scope, s => (.page (s.read position limit f scope), s)
  | history a, s => (.events (s.history a), s)
  | latest a, s => (.number (s.latest a), s)
  | head, s => (.number s.head, s)
  | find k, s => (.record ((s.find k).map (Option.map contentOf)), s)

def ofDatabase (p : Policy) (now : Instant) : Call → Database → Reply × Database
  | append a expected drafts, db =>
    ((Sql.append a expected drafts).against (answering now) db).map .events id
  | commit c, db => ((Sql.commit c).against (answering now) db).map .outcome id
  | read position limit f scope, db =>
    ((Sql.read p position limit f scope).against (answering now) db).map .page id
  | history a, db => ((Sql.history a).against (answering now) db).map .events id
  | latest a, db => ((Sql.latest a).against (answering now) db).map .number id
  | head, db => (Sql.head.against (answering now) db).map .number id
  | find k, db =>
    ((lookup k).against (answering now) db).map (.record ∘ Except.map (Option.map contentOf)) id

/-- What the call submits fits into the columns, and is for an aggregate that can be made. What does
not fit is cut by a database and kept as it is in memory. -/
def Fits : Call → Prop
  | append a _ drafts => a.Made ∧ ∀ d ∈ drafts, d.Fits
  | commit c => c.aggregate.Made ∧ (∀ d ∈ c.drafts, d.Fits) ∧
    ∀ committed r, c.respond committed = .ok r → r.status < 2 ^ 16
  | _ => True

variable {p : Policy} {db : Database} {s : Store}

theorem exists_after_ofStore (call : Call) (now : Instant) (s : Store) :
    ∃ ops, (call.ofStore now s).2 = s.after ops := by
  cases call with
  | append a expected drafts => exact ⟨[.append a expected drafts], rfl⟩
  | commit c => exact ⟨[.commit c now], rfl⟩
  | read | history | latest | head | find => exact ⟨[], rfl⟩

theorem head_le_ofStore (call : Call) (now : Instant) (s : Store) :
    s.log.head ≤ (call.ofStore now s).2.log.head := by
  obtain ⟨ops, hafter⟩ := call.exists_after_ofStore now s
  rw [hafter]
  exact (Store.prefix_after s ops).length_le

/-- **Two stores that know the same answer a call alike**, and unless it crashes they know the same
afterwards. -/
theorem agree (h : Mirrors p db s) (now later : Instant) {call : Call} (fits : call.Fits)
    (room : (call.ofStore later s).2.log.head < 2 ^ 63) :
    (call.ofDatabase p now db).1 = (call.ofStore later s).1 ∧
      ((call.ofStore later s).1 ≠ .crash →
        Mirrors p (call.ofDatabase p now db).2 (call.ofStore later s).2) := by
  cases call with
  | append a expected drafts =>
    obtain ⟨hsame, hmirrors⟩ := agree_append h now fits.1 fits.2 room
    exact ⟨congrArg Reply.events hsame, fun _ => hmirrors⟩
  | commit c =>
    obtain ⟨made, hdrafts, hstatus⟩ := fits
    cases hlookup : s.guard.lookup c.key with
    | some r =>
      obtain ⟨hsame, hmirrors⟩ := agree_commit_of_recorded (c := c) h now later hlookup
      exact ⟨congrArg Reply.outcome hsame, fun _ => hmirrors⟩
    | none =>
      obtain ⟨hsame, hmirrors⟩ :=
        agree_commit_of_unrecorded h now later hlookup made hdrafts hstatus room
      exact ⟨congrArg Reply.outcome hsame, fun hcalm => hmirrors fun hcrash =>
        hcalm (congrArg Reply.outcome hcrash)⟩
  | read position limit f scope =>
    obtain ⟨hsame, hmirrors⟩ := agree_read h now position limit f scope
    exact ⟨congrArg Reply.page hsame, fun _ => hmirrors⟩
  | history a =>
    obtain ⟨hsame, hmirrors⟩ := agree_history h now a
    exact ⟨congrArg Reply.events hsame, fun _ => hmirrors⟩
  | latest a =>
    obtain ⟨hsame, hmirrors⟩ := agree_latest h now a
    exact ⟨congrArg Reply.number hsame, fun _ => hmirrors⟩
  | head =>
    obtain ⟨hsame, hmirrors⟩ := agree_head h now
    exact ⟨congrArg Reply.number hsame, fun _ => hmirrors⟩
  | find k =>
    obtain ⟨hsame, hmirrors⟩ := agree_find h now k
    exact ⟨congrArg Reply.record hsame, fun _ => hmirrors⟩

end Call

/-! ## Sessions -/

namespace Session

variable {p : Policy} {db : Database} {s : Store} {calls : List Call}

theorem head_le_makeCalls (clock : Nat → Instant) (s : Store) (calls : List Call) :
    s.log.head ≤ (makeCalls Call.ofStore clock s calls).2.log.head :=
  makeCalls_keep (fun t : Store => s.log.head ≤ t.log.head)
    (fun now call t hle => Nat.le_trans hle (call.head_le_ofStore now t)) clock calls
    (Nat.le_refl _)

theorem alike_of_mirrors (h : Mirrors p db s) (clock later : Nat → Instant)
    (fits : ∀ call ∈ calls, call.Fits)
    (room : (makeCalls Call.ofStore later s calls).2.log.head < 2 ^ 63) {n : Nat}
    (calm : .crash ∉ (makeCalls Call.ofStore later s calls).1.take n) :
    (makeCalls (Call.ofDatabase p) clock db calls).1[n]? =
      (makeCalls Call.ofStore later s calls).1[n]? := by
  induction calls generalizing db s clock later n with
  | nil => rfl
  | cons call rest ih =>
    have hroom : (call.ofStore (later 0) s).2.log.head < 2 ^ 63 :=
      Nat.lt_of_le_of_lt (head_le_makeCalls _ _ rest) room
    obtain ⟨hsame, hmirrors⟩ :=
      call.agree h (clock 0) (later 0) (fits call List.mem_cons_self) hroom
    cases n with
    | zero => exact congrArg some hsame
    | succ n =>
      -- The first call has not crashed, so that both know the same when the rest begins.
      rw [makeCalls, List.take_succ_cons, List.mem_cons, not_or] at calm
      exact ih (hmirrors (Ne.symm calm.1)) _ _ (fun c hc => fits c (List.mem_cons_of_mem call hc))
        room calm.2

/-- **A session has the same answers from both stores**, as far as the first crash. It is asked that
there is room for the events in the columns of a database; the instants of the two are different
ones, and nothing depends on them. -/
theorem alike (p : Policy) (clock later : Nat → Instant) (fits : ∀ call ∈ calls, call.Fits)
    (room : (makeCalls Call.ofStore later (.empty p) calls).2.log.head < 2 ^ 63) {n : Nat}
    (calm : .crash ∉ (makeCalls Call.ofStore later (.empty p) calls).1.take n) :
    (makeCalls (Call.ofDatabase p) clock .empty calls).1[n]? =
      (makeCalls Call.ofStore later (.empty p) calls).1[n]? :=
  alike_of_mirrors (mirrors_empty p) clock later fits room calm

/-- An account's business: a posting that comes too late, a payment that is sent again and once more
as another, a batch without events, pages before and beyond the head, and what is known at the
end. -/
def business : List Call :=
  [.append Sample.account 0 [Sample.posting, Sample.posting],
    .append Sample.savings 4 [Sample.posting], .commit Sample.payment, .commit Sample.payment,
    .commit { Sample.payment with hash := "h2" }, .append Sample.account 3 [],
    .read 0 (some 2) .all (.org Sample.org), .read (2 ^ 64 - 1) none .all .elevated,
    .history Sample.account, .latest Sample.savings, .head, .find Sample.key]

theorem made_account : Sample.account.Made := by
  unfold Aggregate.Made
  decide +kernel

theorem made_savings : Sample.savings.Made := by
  unfold Aggregate.Made
  decide +kernel

theorem fits_posting : Sample.posting.Fits :=
  ⟨by decide, by simp [Sample.posting, Provenance.system]⟩

theorem fits_commit {c : Command} (aggregate : c.aggregate = Sample.account)
    (drafts : c.drafts = Sample.payment.drafts)
    (status : ∀ committed r, c.respond committed = .ok r → r.status < 2 ^ 16) :
    (Call.commit c).Fits := by
  refine ⟨aggregate ▸ made_account, fun d hd => ?_, status⟩
  rw [drafts] at hd
  obtain rfl : d = Sample.posting.underKey Sample.key.key := List.mem_singleton.mp hd
  exact ⟨fits_posting.version, fits_posting.causation⟩

theorem fits_business : ∀ call ∈ business, call.Fits := by
  have hpostings : ∀ d ∈ [Sample.posting, Sample.posting], d.Fits := by simp [fits_posting]
  have hstatus : ∀ (committed : List Event) (r : Response),
      Sample.payment.respond committed = .ok r → r.status < 2 ^ 16 := by
    rintro committed _ ⟨⟩
    decide
  simp only [business, List.forall_mem_cons]
  refine ⟨⟨made_account, hpostings⟩, ⟨made_savings, by simp [fits_posting]⟩,
    fits_commit rfl rfl hstatus, fits_commit rfl rfl hstatus, fits_commit rfl rfl hstatus,
    ⟨made_account, by simp⟩, ?_⟩
  simp [Call.Fits]

/-- The business has the same answers from both stores, at whatever time it is done. -/
theorem alike_business :
    (∀ call ∈ business, call.Fits) ∧
      (makeCalls Call.ofStore (fun _ => Sample.noon) (.empty .standard) business).2.log.head < 2 ^
      63 ∧ .crash ∉ (makeCalls Call.ofStore (fun _ => Sample.noon) (.empty .standard) business).1 ∧
      (makeCalls (Call.ofDatabase .standard) (fun n => ⟨n, 0⟩) .empty business).1 =
        (makeCalls Call.ofStore (fun _ => Sample.noon) (.empty .standard) business).1 := by
  have hroom : (makeCalls Call.ofStore (fun _ => Sample.noon) (.empty .standard)
      business).2.log.head < 2 ^ 63 := by
    decide +kernel
  have hcalm : .crash ∉ (makeCalls Call.ofStore (fun _ => Sample.noon) (.empty .standard)
    business).1 := by decide +kernel
  refine ⟨fits_business, hroom, hcalm, List.ext_getElem? fun n => ?_⟩
  exact alike .standard _ _ fits_business hroom fun hmem => hcalm (List.mem_of_mem_take hmem)

def broken : Command := { Sample.payment with expected := 0, respond := fun _ => .error .crashed }

/-- After a crash the store in memory is poisoned, and the one on a database is as it was. -/
theorem parted_by_crash :
    (∀ call ∈ [Call.commit broken, .head], call.Fits) ∧
      (makeCalls (Call.ofDatabase .standard) (fun _ => Sample.noon) .empty
        [.commit broken, .head]).1 = [.crash, .number (.ok 0)] ∧
      (makeCalls Call.ofStore (fun _ => Sample.noon) (.empty .standard) [.commit broken, .head]).1 =
        [.crash, .number (.error .poisoned)] := by
  refine ⟨?_, by decide +kernel, by decide +kernel⟩
  have hbroken : (Call.commit broken).Fits := fits_commit rfl rfl fun _ _ hok => nomatch hok
  exact List.forall_mem_cons.mpr ⟨hbroken, List.forall_mem_singleton.mpr trivial⟩

end Session

end Journal.Sql
