import Journal.Dispatch
import Journal.Proofs.Store.Once

/-!
# A dispatch, call by call

A dispatch among others is not one step. Between two of its calls on the store anybody can do
anything, and all that it has in hand then is what it remembers: that it has not looked its key up
yet, or how many attempts are left, or on top of that a history and what was decided on it. These
are the `Stage`s, and `Caller.rest` is the program that is left at each of them.

**`turn_rest` says that the program goes from stage to stage**: a call on the store, with the
decision or the pause that follows it, leads from the program of one stage to the program of the
next, which `Caller.next` computes. What a dispatch does among others can so be read off a table
with four rows.

Decisions, pauses and the chance that spreads them are not calls. They touch nothing that is shared,
so that nothing can come between them and the call before; the code that the caller supplies is a
function here, which neither crashes nor remembers, and so is what chance gives after each attempt.
-/

namespace Journal

namespace Program

variable {I : Interface} {α : Type}

def result? : Program I α → Option α
  | .done a => some a
  | .ask _ _ => none

def asks? : Program I α → Option I.Ask
  | .done _ => none
  | .ask q _ => some q

theorem eq_ask_of_asks {p : Program I α} {q : I.Ask} (h : p.asks? = some q) :
    ∃ next, p = .ask q next := by
  cases p with
  | done a => cases h
  | ask q next =>
    cases h
    exact ⟨next, rfl⟩

end Program

namespace Dispatch

/-! ## Calls -/

inductive Call
  | find (k : Guard.Key)
  | history (a : Aggregate)
  | commit (c : Command)

def Call.isCommit : Call → Bool
  | .commit _ => true
  | _ => false

def storeCalls : Interface where
  Ask := Call
  Answer
    | .find _ => Except StoreError (Option Guard.Record)
    | .history _ => Except StoreError (List Event)
    | .commit _ => Attempt StoreError Outcome

def serve (now : Instant) : (q : Call) → Store → storeCalls.Answer q × Store
  | .find k, s => (s.find k, s)
  | .history a, s => (s.history a, s)
  | .commit c, s => s.commit c now

def turn (now : Instant) : Program storeCalls Result → Store → Program storeCalls Result × Store
  | .done result, s => (.done result, s)
  | .ask q next, s => (next (serve now q s).1, (serve now q s).2)

/-- What a caller brings along with a request: how often to attempt and how long to wait, the rule
that decides, the code that responds, and what chance gives after each attempt, a place in the
spread of the pause that follows. -/
structure Caller where
  backoff : Backoff
  rule : List Event → Except DomainError (List Draft)
  respond : List Event → Response
  places : Nat → Float

/-! ## Stages -/

/-- Where a dispatch stands between two calls. It is about to look its key up; about to load the
history, for the attempt of the given number and `left` more; about to commit what was decided on a
history; or it has ended. Nothing else is remembered from one call to the next. -/
inductive Stage
  | lookup
  | load (left number : Nat)
  | commit (left number : Nat) (history : List Event) (drafts : List Draft)
  | ended (result : Result)

def storeFailed (e : StoreError) : Stage := .ended (.error (.failed (.store e)))

/-- What a commit leads to; after a conflict, if there are attempts left, back to the history. -/
def committed (left number : Nat) : Attempt StoreError Outcome → Stage
  | .ok outcome => .ended (.ok outcome)
  | .error .crashed => .ended (.error .crashed)
  | .error (.failed e) =>
    match left with
    | 0 => storeFailed e
    | left + 1 => if e.isConflict then .load left (number + 1) else storeFailed e

namespace Caller

variable (c : Caller) (r : Request)

def lookedUp : Except StoreError (Option Guard.Record) → Stage
  | .error e => storeFailed e
  | .ok (some record) =>
    match record.resolve r.hash with
    | .ok response => .ended (.ok (.replayed response))
    | .error e => storeFailed e
  | .ok none => .load (c.backoff.attempts - 1) 1

def decided (left number : Nat) (history : List Event) : Stage :=
  match c.rule history with
  | .error e => .ended (.error (.failed (.rejected e)))
  | .ok [] => .ended (.ok (.committed [] (c.respond [])))
  | .ok (d :: ds) => .commit left number history (d :: ds)

def loaded (left number : Nat) : Except StoreError (List Event) → Stage
  | .error e => storeFailed e
  | .ok history => c.decided left number history

def command (history : List Event) (drafts : List Draft) : Command :=
  .make r.key r.hash r.aggregate ((history.getLast?.map (·.seq)).getD 0) drafts fun committed =>
    .ok (c.respond committed)

def next (now : Instant) : Stage → Store → Stage × Store
  | .lookup, s => (c.lookedUp r (s.find r.key), s)
  | .load left number, s => (c.loaded left number (s.history r.aggregate), s)
  | .commit left number history drafts, s =>
    (committed left number (s.commit (c.command r history drafts) now).1,
      (s.commit (c.command r history drafts) now).2)
  | .ended result, s => (.ended result, s)

/-! ## Programs -/

/-- The caller's own part in a dispatch is done at once, the rest is asked of the store. -/
def answer : (q : Ask) → Program storeCalls (calls.Answer q)
  | .find k => .ask (Call.find k) .done
  | .history a => .ask (Call.history a) .done
  | .decide history => .done (c.rule history)
  | .commit command => .ask (Call.commit command) .done
  | .chance number => .done (c.places number)
  | .pause _ => .done ()

def program : Program storeCalls Result :=
  (dispatch c.backoff r fun committed => .ok (c.respond committed)).expand c.answer

def attempt (left number : Nat) : Program storeCalls Result :=
  (attempts c.backoff r (fun committed => .ok (c.respond committed)) left number).expand c.answer

def afterCommit (left number : Nat) : Attempt StoreError Outcome → Program storeCalls Result
  | .ok outcome => .done (.ok outcome)
  | .error .crashed => .done (.error .crashed)
  | .error (.failed e) =>
    match left with
    | 0 => .done (.error (.failed (.store e)))
    | left + 1 =>
      if e.isConflict then c.attempt r left (number + 1) else .done (.error (.failed (.store e)))

def rest : Stage → Program storeCalls Result
  | .lookup => c.program r
  | .load left number => c.attempt r left number
  | .commit left number history drafts =>
    .ask (Call.commit (c.command r history drafts)) (c.afterCommit r left number)
  | .ended result => .done result

theorem rest_committed (left number : Nat) (answer : Attempt StoreError Outcome) :
    c.rest r (committed left number answer) = c.afterCommit r left number answer := by
  rcases answer with (e | _) | outcome
  · cases left with
    | zero => rfl
    | succ left =>
      by_cases he : e.isConflict = true
      · simp [committed, afterCommit, he, rest]
      · simp [committed, afterCommit, he, rest, storeFailed]
  · rfl
  · rfl

section Expand

variable {r}

theorem expand_find (k : Guard.Key) (next : Except StoreError (Option Guard.Record) →
      Program calls Result) :
    Program.expand c.answer (.ask (I := calls) (Ask.find k) next) =
      .ask (Call.find k) fun answer => (next answer).expand c.answer := rfl

theorem expand_history (a : Aggregate)
    (next : Except StoreError (List Event) → Program calls Result) :
    Program.expand c.answer (.ask (I := calls) (Ask.history a) next) =
      .ask (Call.history a) fun answer => (next answer).expand c.answer := rfl

theorem expand_decide (history : List Event)
    (next : Except DomainError (List Draft) → Program calls Result) :
    Program.expand c.answer (.ask (I := calls) (Ask.decide history) next) =
      (next (c.rule history)).expand c.answer := rfl

theorem expand_commit (command : Command)
    (next : Attempt StoreError Outcome → Program calls Result) :
    Program.expand c.answer (.ask (I := calls) (Ask.commit command) next) =
      .ask (Call.commit command) fun answer => (next answer).expand c.answer := rfl

end Expand

theorem program_eq : c.program r = .ask (Call.find r.key) fun answer =>
    c.rest r (c.lookedUp r answer) := by
  refine (c.expand_find r.key _).trans (congrArg (Program.ask (I := storeCalls) (Call.find r.key))
    (funext fun answer => ?_))
  rcases answer with e | (_ | record)
  · rfl
  · rfl
  · simp only [lookedUp]
    cases record.resolve r.hash with
    | error e => rfl
    | ok response => rfl

theorem attempt_eq (left number : Nat) :
    c.attempt r left number = .ask (Call.history r.aggregate) fun answer =>
    c.rest r (c.loaded left number answer) := by
  rw [attempt, attempts]
  refine (c.expand_history r.aggregate _).trans
    (congrArg (Program.ask (I := storeCalls) (Call.history r.aggregate)) (funext fun answer => ?_))
  rcases answer with e | history
  · rfl
  · refine (c.expand_decide history _).trans ?_
    simp only [loaded, decided]
    rcases c.rule history with e | (_ | ⟨d, ds⟩)
    · rfl
    · rfl
    · refine (c.expand_commit _ _).trans
        (congrArg (Program.ask (I := storeCalls) (Call.commit (c.command r history (d :: ds))))
          (funext fun answer => ?_))
      rcases answer with (e | _) | outcome
      · cases left with
        | zero => rfl
        | succ left =>
          simp only [afterCommit]
          cases e.isConflict with
          | true => rfl
          | false => rfl
      · rfl
      · rfl

/-- **A turn leads from stage to stage.** The program that is left after a call is the program of
the stage that `next` computes, so that no proof beyond this one has to look into the program. -/
theorem turn_rest (now : Instant) (stage : Stage) (s : Store) :
    turn now (c.rest r stage) s = (c.rest r (c.next r now stage s).1,
      (c.next r now stage s).2) := by
  cases stage with
  | lookup =>
    rw [rest, program_eq]
    rfl
  | load left number =>
    rw [rest, attempt_eq]
    rfl
  | commit left number history drafts =>
    rw [next, rest_committed]
    rfl
  | ended result => rfl

def call : Stage → Option Call
  | .lookup => some (.find r.key)
  | .load _ _ => some (.history r.aggregate)
  | .commit _ _ history drafts => some (.commit (c.command r history drafts))
  | .ended _ => none

theorem asks_rest (stage : Stage) : (c.rest r stage).asks? = c.call r stage := by
  cases stage with
  | lookup =>
    rw [rest, program_eq]
    rfl
  | load left number =>
    rw [rest, attempt_eq]
    rfl
  | commit left number history drafts => rfl
  | ended result => rfl

theorem eq_ended_of_result {stage : Stage} {result : Result}
    (h : (c.rest r stage).result? = some result) :
    stage = .ended result := by
  cases stage with
  | lookup =>
    rw [rest, program_eq] at h
    cases h
  | load left number =>
    rw [rest, attempt_eq] at h
    cases h
  | commit left number history drafts => cases h
  | ended result =>
    cases h
    rfl

theorem eq_ended_of_call {stage : Stage} (h : c.call r stage = none) :
    ∃ result, stage = .ended result := by
  cases stage with
  | ended result => exact ⟨result, rfl⟩
  | lookup | load | commit => cases h

/-! ## What a call can lead to -/

/-- The answer to a history on which the caller's rule gives nothing to commit. -/
def declined? (history : List Event) : Option Result :=
  match c.rule history with
  | .error e => some (.error (.failed (.rejected e)))
  | .ok [] => some (.ok (.committed [] (c.respond [])))
  | .ok (_ :: _) => none

variable {c r}

theorem declined_cases {history : List Event} {result : Result}
    (h : c.declined? history = some result) :
    (∃ e, result = .error (.failed (.rejected e))) ∨
    result = .ok (.committed [] (c.respond [])) := by
  unfold declined? at h
  rcases hrule : c.rule history with e | (_ | ⟨d, ds⟩)
  · rw [hrule] at h
    cases h
    exact Or.inl ⟨e, rfl⟩
  · rw [hrule] at h
    cases h
    exact Or.inr rfl
  · rw [hrule] at h
    cases h

theorem decided_cases (c : Caller) (left number : Nat) (history : List Event) :
    (∃ result, c.declined? history = some result ∧ c.decided left number history = .ended result) ∨
      (c.declined? history = none ∧ ∃ d ds, c.rule history = .ok (d :: ds) ∧
        c.decided left number history = .commit left number history (d :: ds)) := by
  unfold declined? decided
  rcases c.rule history with e | (_ | ⟨d, ds⟩)
  · exact Or.inl ⟨_, rfl, rfl⟩
  · exact Or.inl ⟨_, rfl, rfl⟩
  · exact Or.inr ⟨rfl, d, ds, rfl, rfl⟩

/-- A call is an operation of the store that spares the records. -/
theorem next_store (c : Caller) (r : Request) (now : Instant) (stage : Stage) (s : Store) :
    ∃ op : Store.Operation, op.SparesRecords ∧ (c.next r now stage s).2 = (op.perform s).2 := by
  cases stage with
  | lookup => exact ⟨.find r.key, trivial, rfl⟩
  | load left number => exact ⟨.history r.aggregate, trivial, rfl⟩
  | commit left number history drafts =>
    exact ⟨.commit (c.command r history drafts) now, trivial, rfl⟩
  | ended result => exact ⟨.size, trivial, rfl⟩

theorem next_lookup_cases (c : Caller) (r : Request) (now : Instant) (s : Store) :
    (∃ e, c.next r now .lookup s = (storeFailed e, s)) ∨
    (∃ record response, s.guard.lookup r.key = some record ∧ record.resolve r.hash = .ok response ∧
      c.next r now .lookup s = (.ended (.ok (.replayed response)), s)) ∨
    (s.guard.lookup r.key = none ∧
      c.next r now .lookup s = (.load (c.backoff.attempts - 1) 1, s)) := by
  cases hp : s.poisoned with
  | true => exact Or.inl ⟨.poisoned, by simp [next, Store.find, Store.look, hp, lookedUp]⟩
  | false =>
    have hfind : s.find r.key = .ok (s.guard.lookup r.key) := by simp [Store.find, Store.look, hp]
    rw [next, hfind]
    cases hlookup : s.guard.lookup r.key with
    | none => exact Or.inr (Or.inr ⟨rfl, rfl⟩)
    | some record =>
      cases hresolve : record.resolve r.hash with
      | error e => exact Or.inl ⟨e, by rw [lookedUp, hresolve]⟩
      | ok response =>
        exact Or.inr (Or.inl ⟨record, response, rfl, hresolve, by rw [lookedUp, hresolve]⟩)

theorem next_load_cases (c : Caller) (r : Request) (now : Instant) (left number : Nat) (s : Store) :
    (∃ e, s.history r.aggregate = .error e ∧
      c.next r now (.load left number) s = (storeFailed e, s)) ∨
    ∃ history, s.history r.aggregate = .ok history ∧
      c.next r now (.load left number) s = (c.decided left number history, s) := by
  cases h : s.history r.aggregate with
  | error e => exact Or.inl ⟨e, rfl, by rw [next, h]; rfl⟩
  | ok history => exact Or.inr ⟨history, rfl, by rw [next, h]; rfl⟩

/-- A commit fails and changes nothing, or is answered from a record, or is executed. -/
theorem next_commit_cases (c : Caller) (r : Request) (now : Instant) (left number : Nat)
    (history : List Event) (drafts : List Draft) (s : Store) :
    (∃ e, (s.commit (c.command r history drafts) now).1 = .error (.failed e) ∧
      c.next r now (.commit left number history drafts) s =
        (committed left number (.error (.failed e)), s)) ∨
    (∃ response, c.next r now (.commit left number history drafts) s =
      (.ended (.ok (.replayed response)), s)) ∨
    ∃ events response, s.Executed (c.command r history drafts) now events response ∧
      c.next r now (.commit left number history drafts) s =
        (.ended (.ok (.committed events response)),
          (s.commit (c.command r history drafts) now).2) := by
  rcases Store.commit_cases s (c.command r history drafts) now with
    ⟨e, hc⟩ | ⟨response, _, hc⟩ | ⟨_, response, guard, _, _, hc⟩ | ⟨_, stop, hstop, _⟩
  · exact Or.inl ⟨e, by rw [hc], by rw [next, hc]⟩
  · exact Or.inr (Or.inl ⟨response, by rw [next, hc]; rfl⟩)
  · refine Or.inr (Or.inr ⟨_, response, Store.executed_of_committed (by rw [hc]), ?_⟩)
    rw [next, hc]
    rfl
  · -- What responds is a function, and cannot crash.
    cases hstop

theorem committed_failed_cases (left number : Nat) (e : StoreError) :
    committed left number (.error (.failed e)) = storeFailed e ∨
      (e.isConflict = true ∧ ∃ fewer, left = fewer + 1 ∧
        committed left number (.error (.failed e)) = .load fewer (number + 1)) := by
  cases left with
  | zero => exact Or.inl rfl
  | succ fewer =>
    unfold committed
    by_cases he : e.isConflict = true
    · exact Or.inr ⟨he, fewer, rfl, if_pos he⟩
    · exact Or.inl (if_neg he)

end Caller

end Dispatch

namespace Sample

/-- A teller who makes the first or the second posting of an account, and tries three times. -/
def teller : Dispatch.Caller where
  backoff := .fixed 3 (.ofMillis 10)
  rule history := if history.length < 2 then .ok [posting] else .error (.conflict "closed")
  respond events := ⟨200, some (.list (events.map fun e => .int e.seq))⟩
  places _ := 0

def request : Request := ⟨key, "h1", account⟩

end Sample

end Journal
