import Journal.Proofs.Sql.Work
import Journal.Proofs.Sql.Writing
import Journal.Sql.Guard

/-!
# A reservation that is not alone

To reserve a key is to insert its row and, where there is one already, to fetch it. The two are
statements of their own, and a row may go when the first has met it, so that the pair is tried
twice. What other clients do before each statement is any change of the tables at all; a `Step`
keeps a statement of the call with the tables that it met and those that it left.

`Tries` is what the steps of a call can be, and what it answers after them. **The answer is right at
some moment of the call** (`reservation_right`): the key is the caller's exactly when one of its own
insertions made the row; every other verdict is that on a row which one of its fetches has found;
the call gives up exactly when it met a row twice that was gone twice; and unless it made the row it
has changed nothing.
-/

namespace Journal.Sql

variable {k : Guard.Key} {hash : String} {tries : Nat}

/-! ## Among others -/

structure Step where
  statement : Statement
  before : Tables
  after : Tables

/-- A database that others change before each statement, and the steps so far. What they do is a
function of the number of the statement and of the tables, so that they may react to whatever they
see. -/
structure Shared where
  db : Database
  steps : List Step

namespace Shared

def met (others : Nat → Tables → Tables) (s : Shared) : Database :=
  { s.db with tables := others s.steps.length s.db.tables }

/-- Answer a question at the instant of the next statement; only statements are steps. -/
def answer (clock : Nat → Instant) (others : Nat → Tables → Tables) :
    (q : calls.Ask) → Shared → calls.Answer q × Shared
  | .execute statement, s =>
    let (r, after) := answering (clock s.steps.length) (.execute statement) (s.met others)
    (r, ⟨after, s.steps ++ [⟨statement, (s.met others).tables, after.tables⟩]⟩)
  | q, s =>
    let (r, after) := answering (clock s.steps.length) q s.db
    (r, ⟨after, s.steps⟩)

end Shared

def reserveAmong (clock : Nat → Instant) (others : Nat → Tables → Tables) (k : Guard.Key)
    (hash : String) (db : Database) : Except StoreError Guard.Verdict × List Step :=
  ((reserve k hash).against (Shared.answer clock others) ⟨db, []⟩).map id Shared.steps

/-! ## Steps -/

namespace Step

structure Creates (k : Guard.Key) (hash : String) (s : Step) : Prop where
  statement : s.statement = .reserve k hash
  free : s.before.fetch k = none
  created : ∃ now, s.after = s.before.putRecord (.reserved k hash now) ∧
    s.after.fetch k = some (.reserved k hash now)

structure Collides (k : Guard.Key) (hash : String) (s : Step) : Prop where
  statement : s.statement = .reserve k hash
  taken : (s.before.fetch k).isSome = true
  unchanged : s.after = s.before

structure Finds (k : Guard.Key) (row : Option RecordRow) (s : Step) : Prop where
  statement : s.statement = .fetch k
  found : s.before.fetch k = row
  unchanged : s.after = s.before

/-- The step fetches the row of the key, and it is that of a record which says this to the
request. -/
def Tells (k : Guard.Key) (hash : String) (v : Guard.Verdict) (s : Step) : Prop :=
  ∃ row record, s.Finds k (some row) ∧ row.toRecord = .ok record ∧ record.verdict hash = v

theorem not_tells_of_reserve {s : Step} {v : Guard.Verdict} (h : s.statement = .reserve k hash) :
    ¬ s.Tells k hash v := by
  rintro ⟨row, _, hfinds, _⟩
  cases h.symm.trans hfinds.statement

theorem Finds.tells_iff {s : Step} {row : RecordRow} {v : Guard.Verdict}
    (h : s.Finds k (some row)) :
    s.Tells k hash v ↔ ∃ record, row.toRecord = .ok record ∧ record.verdict hash = v := by
  constructor
  · rintro ⟨same, record, hfinds, hrecord⟩
    cases h.found.symm.trans hfinds.found
    exact ⟨record, hrecord⟩
  · rintro ⟨record, hrecord⟩
    exact ⟨row, record, h, hrecord⟩

theorem Finds.not_tells {s : Step} {v : Guard.Verdict} (h : s.Finds k none) :
    ¬ s.Tells k hash v := by
  rintro ⟨row, _, hfinds, _⟩
  cases h.found.symm.trans hfinds.found

theorem Collides.not_creates {s : Step} (h : s.Collides k hash) : ¬ s.Creates k hash := by
  intro hcreates
  have htaken := h.taken
  rw [hcreates.free] at htaken
  cases htaken

theorem Finds.not_creates {s : Step} {row : Option RecordRow} (h : s.Finds k row) :
    ¬ s.Creates k hash := by
  intro hcreates
  cases h.statement.symm.trans hcreates.statement

end Step

/-- What the steps of so many tries can be, and what they come to. A try makes the row, or collides
and finds a row, readable or not, or collides and finds that the row has gone; there is one
constructor for each, and every claim about a call is an induction on them. -/
inductive Tries (k : Guard.Key) (hash : String) : Nat → List Step →
    Except StoreError Guard.Verdict → Prop
  | spent : Tries k hash 0 [] (.error recordChanged)
  | created {tries : Nat} {s : Step} (insertion : s.Creates k hash) : Tries k hash (tries + 1)
      [s] (.ok .fresh)
  | found {tries : Nat} {s f : Step} {row : RecordRow} {record : Guard.Record}
      (insertion : s.Collides k hash)
    (fetch : f.Finds k (some row)) (read : row.toRecord = .ok record) :
    Tries k hash (tries + 1) [s, f] (.ok (record.verdict hash))
  | unreadable {tries : Nat} {s f : Step} {row : RecordRow} {e : StoreError}
      (insertion : s.Collides k hash)
    (fetch : f.Finds k (some row)) (read : row.toRecord = .error e) : Tries k hash (tries + 1)
      [s, f] (.error e)
  | gone {tries : Nat} {s f : Step} {rest : List Step} {r : Except StoreError Guard.Verdict}
    (insertion : s.Collides k hash) (fetch : f.Finds k none) (again : Tries k hash tries rest r) :
    Tries k hash (tries + 1) (s :: f :: rest) r

/-! ## The call takes such steps -/

theorem shared_reserveHere (clock : Nat → Instant) (others : Nat → Tables → Tables) (k : Guard.Key)
    (hash : String) (s : Shared) :
    ∃ step made after, (reserveHere k hash).against (Shared.answer clock others) s =
        (.ok made, ⟨after, s.steps ++ [step]⟩) ∧
      if made then step.Creates k hash else step.Collides k hash := by
  let now := clock s.steps.length
  let t := (s.met others).tables
  have hrun : (reserveHere k hash).against (Shared.answer clock others) s =
      (.ok (!(t.reserve k hash now).1.isEmpty),
        ⟨{ s.met others with tables := (t.reserve k hash now).2 },
          s.steps ++ [⟨.reserve k hash, t, (t.reserve k hash now).2⟩]⟩) := rfl
  refine ⟨_, _, _, hrun, ?_⟩
  cases hfetch : t.fetch k with
  | none =>
    rw [Tables.reserve_of_fetch_none hfetch]
    exact ⟨rfl, hfetch, now, rfl, (Tables.fetch_putRecord t _ k).trans (if_pos rfl)⟩
  | some row =>
    rw [Tables.reserve_of_fetch_some hfetch]
    exact ⟨rfl, by rw [hfetch, Option.isSome_some], rfl⟩

theorem shared_lookup (clock : Nat → Instant) (others : Nat → Tables → Tables) (k : Guard.Key)
    (s : Shared) :
    ∃ step row after, (lookup k).against (Shared.answer clock others) s =
        (readRecord row.toList, ⟨after, s.steps ++ [step]⟩) ∧ step.Finds k row :=
  ⟨⟨.fetch k, (s.met others).tables, (s.met others).tables⟩, _, _, rfl, rfl, rfl, rfl⟩

/-- Where nothing is made, the row is fetched, and the key is tried again when there is none. -/
theorem tryReserve_succ (k : Guard.Key) (hash : String) (tries : Nat) :
    tryReserve k hash (tries + 1) = (reserveHere k hash >>= fun made =>
      if made then pure .fresh else lookup k >>= fun found => match found with
        | some r => pure (r.verdict hash)
        | none => tryReserve k hash tries) := rfl

/-- **The steps are those of so many tries**, whatever the others do. -/
theorem tries_of_tryReserve (clock : Nat → Instant) (others : Nat → Tables → Tables) (k : Guard.Key)
    (hash : String) (tries : Nat) (s : Shared) :
    ∃ steps, Tries k hash tries steps
    ((tryReserve k hash tries).against (Shared.answer clock others) s).1 ∧
      ((tryReserve k hash tries).against (Shared.answer clock others) s).2.steps =
        s.steps ++ steps := by
  induction tries generalizing s with
  | zero => exact ⟨[], .spent, (List.append_nil _).symm⟩
  | succ tries ih =>
    obtain ⟨insertion, made, after, hinsert, hstep⟩ := shared_reserveHere clock others k hash s
    rw [tryReserve_succ, Work.against_bind, hinsert]
    cases made with
    | true => exact ⟨[insertion], .created hstep, rfl⟩
    | false =>
      obtain ⟨fetch, row, last, hlookup, hfinds⟩ :=
        shared_lookup clock others k ⟨after, s.steps ++ [insertion]⟩
      dsimp only
      rw [if_neg Bool.false_ne_true, Work.against_bind, hlookup]
      cases row with
      | some row =>
        rw [Option.toList_some, readRecord]
        cases hrow : row.toRecord with
        | error e => exact ⟨[insertion, fetch], .unreadable hstep hfinds hrow, List.append_assoc ..⟩
        | ok record => exact ⟨[insertion, fetch], .found hstep hfinds hrow, List.append_assoc ..⟩
      | none =>
        obtain ⟨rest, htries, hrest⟩ := ih ⟨last, s.steps ++ [insertion] ++ [fetch]⟩
        refine ⟨insertion :: fetch :: rest, .gone hstep hfinds htries, ?_⟩
        rw [Option.toList_none, readRecord]
        dsimp only
        rw [hrest, List.append_assoc, List.append_assoc]
        rfl

theorem tries_of_reserveAmong (clock : Nat → Instant) (others : Nat → Tables → Tables)
    (k : Guard.Key) (hash : String) (db : Database) :
    Tries k hash 2 (reserveAmong clock others k hash db).2
    (reserveAmong clock others k hash db).1 := by
  obtain ⟨steps, htries, hsteps⟩ := tries_of_tryReserve clock others k hash 2 ⟨db, []⟩
  have hsame : (reserveAmong clock others k hash db).2 = steps := hsteps
  rw [hsame]
  exact htries

/-! ## What tries come to -/

theorem verdict_ne_fresh (r : Guard.Record) (hash : String) : r.verdict hash ≠ .fresh := by
  rw [Guard.Record.verdict]
  split
  · split
    · rintro ⟨⟩
    · rintro ⟨⟩
  · rintro ⟨⟩

theorem required_ne_unavailable {α β : Type} {column : Option α} {next : α → Except StoreError β}
    {reason : String} (h : ∀ a, next a ≠ .error (.unavailable reason)) :
    (required RecordRow.undecodable column >>= next) ≠ .error (.unavailable reason) := by
  cases column with
  | none => rintro ⟨⟩
  | some a => exact h a

theorem toRecord_ne_unavailable (row : RecordRow) (reason : String) :
    row.toRecord ≠ .error (.unavailable reason) := by
  -- The four columns of the key, the hash and the instant are required.
  iterate 6 refine required_ne_unavailable fun _ => ?_
  rintro ⟨⟩

namespace Tries

variable {steps : List Step} {r : Except StoreError Guard.Verdict}

theorem fresh_iff (h : Tries k hash tries steps r) :
    r = .ok .fresh ↔ ∃ s ∈ steps, s.Creates k hash := by
  induction h with
  | spent => exact iff_of_false (by rintro ⟨⟩) (by simp)
  | created insertion => exact iff_of_true rfl ⟨_, List.mem_singleton_self _, insertion⟩
  | @found _ _ _ _ record insertion fetch _ =>
    refine iff_of_false (fun hfresh => verdict_ne_fresh record hash (Except.ok.inj hfresh)) ?_
    simp [insertion.not_creates, fetch.not_creates]
  | unreadable insertion fetch _ =>
    exact iff_of_false (by rintro ⟨⟩) (by simp [insertion.not_creates, fetch.not_creates])
  | gone insertion fetch _ ih => simp [ih, insertion.not_creates, fetch.not_creates]

/-- A verdict on a record is that of a row that was found. -/
theorem seen_iff (h : Tries k hash tries steps r) {v : Guard.Verdict} (seen : v ≠ .fresh) :
    r = .ok v ↔ ∃ f ∈ steps, f.Tells k hash v := by
  induction h with
  | spent => exact iff_of_false (by rintro ⟨⟩) (by simp)
  | created insertion =>
    refine iff_of_false (fun h => seen (Except.ok.inj h).symm) ?_
    simp [Step.not_tells_of_reserve insertion.statement]
  | found insertion fetch read =>
    simp [Step.not_tells_of_reserve insertion.statement, fetch.tells_iff, read]
  | unreadable insertion fetch read =>
    simp [Step.not_tells_of_reserve insertion.statement, fetch.tells_iff, read]
  | gone insertion fetch _ ih =>
    simp [ih, Step.not_tells_of_reserve insertion.statement, fetch.not_tells]

/-- Only a call that makes the row changes anything. -/
theorem unchanged (h : Tries k hash tries steps r) (seen : r ≠ .ok .fresh) :
    ∀ s ∈ steps, s.after = s.before := by
  induction h with
  | spent => simp
  | created => exact absurd rfl seen
  | found insertion fetch _ | unreadable insertion fetch _ =>
    simp [insertion.unchanged, fetch.unchanged]
  | gone insertion fetch _ ih => simpa [insertion.unchanged, fetch.unchanged] using ih seen

/-- There is an answer unless the tries are spent or a row cannot be read. -/
theorem error_cases (h : Tries k hash tries steps r) {e : StoreError} (error : r = .error e) :
    e = recordChanged ∨ ∃ f ∈ steps, ∃ row, f.Finds k (some row) ∧ row.toRecord = .error e := by
  induction h with
  | spent => exact Or.inl (Except.error.inj error).symm
  | created | found => cases error
  | @unreadable _ s f row _ insertion fetch read =>
    cases error
    exact Or.inr ⟨f, by simp, row, fetch, read⟩
  | gone _ _ _ ih =>
    rcases ih error with hspent | ⟨f, hmem, hfinds⟩
    · exact Or.inl hspent
    · exact Or.inr ⟨f, by simp [hmem], hfinds⟩

theorem length_le (h : Tries k hash tries steps r) : steps.length ≤ 2 * tries := by
  induction h with
  | spent => exact Nat.le_refl 0
  | created =>
    rw [List.length_singleton]
    omega
  | found | unreadable =>
    rw [List.length_cons, List.length_singleton]
    omega
  | gone _ _ _ ih =>
    rw [List.length_cons, List.length_cons]
    omega

/-- Two tries come to nothing exactly when each has met a row that was gone when it was fetched. -/
theorem unavailable_iff (h : Tries k hash 2 steps r) :
    (∃ reason, r = .error (.unavailable reason)) ↔ ∃ s f t g, steps = [s, f, t, g] ∧
      s.Collides k hash ∧ f.Finds k none ∧ t.Collides k hash ∧ g.Finds k none := by
  constructor
  · rintro ⟨reason, rfl⟩
    cases h with
    | unreadable _ _ read => exact absurd read (toRecord_ne_unavailable _ reason)
    | gone insertion fetch again =>
      cases again with
      | unreadable _ _ read => exact absurd read (toRecord_ne_unavailable _ reason)
      | gone second refetch last =>
        cases last
        exact ⟨_, _, _, _, rfl, insertion, fetch, second, refetch⟩
  · rintro ⟨s, f, t, g, rfl, -, -, -, hgone⟩
    cases h with
    | gone _ _ again =>
      cases again with
      | found _ fetch _ | unreadable _ fetch _ =>
        exact absurd (fetch.found.symm.trans hgone.found) (by simp)
      | gone _ _ last =>
        cases last
        exact ⟨_, rfl⟩

end Tries

/-- What a caller is told about a key is right at some moment of these steps. -/
structure Justified (k : Guard.Key) (hash : String) (answer : Except StoreError Guard.Verdict)
    (steps : List Step) :
    Prop where
  fresh : answer = .ok .fresh ↔ ∃ s ∈ steps, s.Creates k hash
  seen : ∀ v, v ≠ .fresh → (answer = .ok v ↔ ∃ f ∈ steps, f.Tells k hash v)
  unchanged : answer ≠ .ok .fresh → ∀ s ∈ steps, s.after = s.before
  unavailable : (∃ reason, answer = .error (.unavailable reason)) ↔
    ∃ s f t g, steps = [s, f, t, g] ∧
    s.Collides k hash ∧ f.Finds k none ∧ t.Collides k hash ∧ g.Finds k none
  otherwise : ∀ e, answer = .error e →
    e = recordChanged ∨ ∃ f ∈ steps, ∃ row, f.Finds k (some row) ∧ row.toRecord = .error e
  few : steps.length ≤ 4

/-- **What a caller is told about a key is right at some moment of the call**, whatever others do to
the tables between its statements, of which there are at most four. -/
theorem reservation_right (clock : Nat → Instant) (others : Nat → Tables → Tables) (k : Guard.Key)
    (hash : String) (db : Database) :
    Justified k hash (reserveAmong clock others k hash db).1
    (reserveAmong clock others k hash db).2 := by
  have htries := tries_of_reserveAmong clock others k hash db
  exact {
    fresh := htries.fresh_iff
    seen := fun v seen => htries.seen_iff seen
    unchanged := htries.unchanged
    unavailable := htries.unavailable_iff
    otherwise := fun e error => htries.error_cases error
    few := htries.length_le }

/-- Another request has the key when the call begins, and gives it up before the row is fetched. -/
def giveUp (k : Guard.Key) (hash : String) (n : Nat) (t : Tables) : Tables :=
  match n with
  | 0 => t.putRecord (.reserved k hash Sample.noon)
  | 1 => (t.release k hash).2
  | _ => t

/-- The second try gets the key that was given up, with the third statement. -/
theorem reservation_right_late :
    let (answer, steps) :=
      reserveAmong (fun _ => Sample.noon) (giveUp Sample.key "h2") Sample.key "h1" .empty
    answer = .ok .fresh ∧ steps.length = 3 ∧ ∃ s ∈ steps, s.Creates Sample.key "h1" := by
  have hright :=
    reservation_right (fun _ => Sample.noon) (giveUp Sample.key "h2") Sample.key "h1" .empty
  have hfresh :
      (reserveAmong (fun _ => Sample.noon) (giveUp Sample.key "h2") Sample.key "h1" .empty).1 =
        .ok .fresh := by
    decide +kernel
  exact ⟨hfresh, by decide +kernel, hright.fresh.mp hfresh⟩

end Journal.Sql
