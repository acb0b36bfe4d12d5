import Journal.Proofs.Store.Poison

/-!
# An append decides exactly

A writer says where it believes the aggregate to be, and the store goes by nothing else: a batch
with nothing wrong in it is written if and only if the writer is right. What is written is what was
submitted, at the next positions of the log and of the aggregate, and no other aggregate notices
(`Appends`). What is refused leaves no trace.

**Of any number of writers who believe the same, the first wins and nobody else** (`first_wins`), in
whatever order they come: a batch is never empty, so the first one moves the aggregate on, and from
then on the belief is wrong.

A store that a crash has silenced no longer says where an aggregate is, and so no writer is right:
it refuses an append for the reason for which it does not say so. There is no third reason
(`append_eq_of_latest`).
-/

namespace Journal

namespace Store

variable {s : Store} {a : Aggregate} {expected : Seq} {drafts : List Draft}

/-- The second store is what the first becomes when a batch is written to the end of its log as
these events. -/
structure Appends (s t : Store) (a : Aggregate) (expected : Seq) (drafts : List Draft)
    (events : List Event) :
    Prop where
  log : t.log.toList = s.log.toList ++ events
  -- There is one event for each draft, in order, and nothing in it has changed.
  submitted : events.map (·.draft) = drafts
  aggregate : ∀ e ∈ events, e.aggregate = a
  ids : events.map (·.id) = List.range' (s.log.head + 1) drafts.length
  seqs : events.map (·.seq) = List.range' (expected + 1) drafts.length
  history : ∀ b, t.log.history b = if b = a then s.log.history b ++ events else s.log.history b
  latest : ∀ b, t.latest b = if b = a then .ok (expected + drafts.length) else s.latest b
  guard : t.guard = s.guard
  policy : t.policy = s.policy
  poisoned : t.poisoned = s.poisoned

/-! ## One append -/

theorem latest_of_alive (alive : s.poisoned = false) (a : Aggregate) :
    s.latest a = .ok (s.log.latest a) :=
  look_of_alive alive _

theorem alive_of_latest {latest : Seq} (h : s.latest a = .ok latest) : s.poisoned = false := by
  cases hp : s.poisoned with
  | false => rfl
  | true =>
    rw [Store.latest, look_of_poisoned hp] at h
    cases h

def extended (s : Store) (a : Aggregate) (drafts : List Draft) : Store :=
  { s with log := (s.log.extend a drafts).2 }

/-- **An append goes by where the store says that the aggregate is.** -/
theorem append_eq_of_latest (s : Store) (a : Aggregate) (expected : Seq) (drafts : List Draft) :
    s.append a expected drafts =
      match Batch.check drafts, s.latest a with
      | .error e, _ => (.error e, s)
      | .ok (), .error e => (.error e, s)
      | .ok (), .ok latest =>
        if expected = latest then (.ok (s.log.extend a drafts).1, s.extended a drafts)
        else (.error (.aggregateConflict a expected (some latest)), s) := by
  unfold append
  cases Batch.check drafts with
  | error e => rfl
  | ok _ =>
    cases hp : s.poisoned with
    | true =>
      rw [Store.latest, look_of_poisoned hp]
      rfl
    | false =>
      rw [latest_of_alive hp, Log.append]
      by_cases hexp : expected = s.log.latest a
      · simp [hexp, hp, extended]
      · simp [hexp]

theorem appends_extended (ordered : s.log.Ordered) (h : s.latest a = .ok expected)
    (drafts : List Draft) :
    s.Appends (s.extended a drafts) a expected drafts (s.log.extend a drafts).1 := by
  have halive := alive_of_latest h
  obtain rfl : s.log.latest a = expected := Except.ok.inj ((latest_of_alive halive a).symm.trans h)
  refine ⟨Log.toList_extend _ _ _, Log.map_draft_number _ _ _ _,
    fun e he => Log.aggregate_of_mem_number he, Log.map_id_number _ _ _ _,
    Log.map_seq_number _ _ _ _, fun b => ?_, fun b => ?_, rfl, rfl, rfl⟩
  · rw [extended, Log.history_extend ordered]
    by_cases hb : b = a
    · rw [if_pos hb, if_pos hb, hb]
    · rw [if_neg hb, if_neg hb]
  · rw [latest_of_alive (s := s.extended a drafts) halive, latest_of_alive halive, extended,
      Log.latest_extend]
    by_cases hb : b = a
    · rw [if_pos hb, if_pos hb]
    · rw [if_neg hb, if_neg hb]

/-- Why an append is refused: something is wrong with the batch, or else the aggregate is elsewhere,
or else the store does not say where it is. -/
def Refuses (s : Store) (a : Aggregate) (expected : Seq) (drafts : List Draft)
    (e : StoreError) : Prop :=
  Batch.check drafts = .error e ∨
  (∃ latest, Batch.check drafts = .ok () ∧ s.latest a = .ok latest ∧ latest ≠ expected ∧
    e = .aggregateConflict a expected (some latest)) ∨
  Batch.check drafts = .ok () ∧ s.latest a = .error e

/-- What a store makes of an append. -/
structure Decides (s : Store) (a : Aggregate) (expected : Seq) (drafts : List Draft) : Prop where
  /-- It succeeds exactly when nothing is wrong with the batch and the writer is right. -/
  succeeds_iff : (∃ events, (s.append a expected drafts).1 = .ok events) ↔
    Batch.check drafts = .ok () ∧ s.latest a = .ok expected
  /-- Then the batch is written, and the answer is what was written. -/
  written : ∀ events, (s.append a expected drafts).1 = .ok events →
    s.Appends (s.append a expected drafts).2 a expected drafts events
  /-- Else nothing has changed, -/
  unchanged : ∀ e, (s.append a expected drafts).1 = .error e → (s.append a expected drafts).2 = s
  /-- and the answer is the reason. -/
  refused : ∀ e, (s.append a expected drafts).1 = .error e → s.Refuses a expected drafts e

theorem Refuses.ne_ok {e : StoreError} (h : s.Refuses a expected drafts e) :
    ¬ (Batch.check drafts = .ok () ∧ s.latest a = .ok expected) := by
  rintro ⟨hcheck, hlatest⟩
  rcases h with h | ⟨latest, _, h, hne, _⟩ | ⟨_, h⟩
  · rw [hcheck] at h
    cases h
  · rw [hlatest] at h
    exact hne (Except.ok.inj h).symm
  · rw [hlatest] at h
    cases h

theorem Decides.of_refused {e : StoreError} (h : s.append a expected drafts = (.error e, s))
    (why : s.Refuses a expected drafts e) : s.Decides a expected drafts := by
  refine ⟨iff_of_false ?_ why.ne_ok, fun events hok => ?_, fun _ _ => ?_, fun e' he' => ?_⟩
  · rintro ⟨events, hok⟩
    rw [h] at hok
    cases hok
  · rw [h] at hok
    cases hok
  · rw [h]
  · rw [h] at he'
    cases he'
    exact why

theorem decides_of_ordered (ordered : s.log.Ordered) (a : Aggregate) (expected : Seq)
    (drafts : List Draft) :
    s.Decides a expected drafts := by
  have happend := append_eq_of_latest s a expected drafts
  cases hcheck : Batch.check drafts with
  | error e =>
    rw [hcheck] at happend
    exact .of_refused happend (Or.inl hcheck)
  | ok _ =>
    cases hlatest : s.latest a with
    | error e =>
      rw [hcheck, hlatest] at happend
      exact .of_refused happend (Or.inr (Or.inr ⟨hcheck, hlatest⟩))
    | ok latest =>
      rw [hcheck, hlatest] at happend
      by_cases hexp : expected = latest
      · obtain rfl := hexp
        replace happend : s.append a expected drafts = (.ok (s.log.extend a drafts).1,
            s.extended a drafts) :=
          happend.trans (if_pos rfl)
        refine ⟨iff_of_true ⟨_, congrArg Prod.fst happend⟩ ⟨hcheck, hlatest⟩, fun events hok => ?_,
          fun e he => ?_, fun e he => ?_⟩
        · rw [happend] at hok ⊢
          obtain rfl := Except.ok.inj hok
          exact appends_extended ordered hlatest drafts
        · rw [happend] at he
          cases he
        · rw [happend] at he
          cases he
      · exact .of_refused (happend.trans (if_neg hexp))
          (Or.inr (Or.inl ⟨latest, hcheck, hlatest, Ne.symm hexp, rfl⟩))

/-! ## Many writers -/

/-- The answers to writers who come one after the other and all believe the aggregate to be at the
same place. -/
def answersTo (s : Store) (a : Aggregate) (expected : Seq) : List (List Draft) →
    List (Except StoreError (List Event))
  | [] => []
  | drafts :: rest =>
    (s.append a expected drafts).1 :: (s.append a expected drafts).2.answersTo a expected rest

/-- Whoever is wrong about the aggregate is told where it is, and the next one is as wrong. -/
theorem answersTo_of_wrong {latest : Seq} (h : s.latest a = .ok latest) (wrong : expected ≠ latest)
    {batches : List (List Draft)} (checked : ∀ drafts ∈ batches, Batch.check drafts = .ok ()) :
    s.answersTo a expected batches = batches.map fun _ =>
    .error (.aggregateConflict a expected (some latest)) := by
  induction batches with
  | nil => rfl
  | cons drafts rest ih =>
    have happend :
        s.append a expected drafts = (.error (.aggregateConflict a expected (some latest)), s) := by
      rw [append_eq_of_latest, checked drafts List.mem_cons_self, h]
      exact if_neg wrong
    rw [answersTo, happend, ih fun d hd => checked d (List.mem_cons_of_mem _ hd)]
    rfl

theorem length_pos_of_check (h : Batch.check drafts = .ok ()) : 0 < drafts.length := by
  cases drafts with
  | nil => cases h
  | cons d rest => exact Nat.succ_pos _

/-- **The first wins, and nobody else.** -/
theorem first_wins (ordered : s.log.Ordered) (h : s.latest a = .ok expected) {first : List Draft}
    {others : List (List Draft)}
    (checked : ∀ drafts ∈ first :: others, Batch.check drafts = .ok ()) :
    s.answersTo a expected (first :: others) = .ok (s.log.extend a first).1 ::
      others.map fun _ =>
      .error (.aggregateConflict a expected (some (expected + first.length))) := by
  have hfirst := checked first List.mem_cons_self
  have happend : s.append a expected first = (.ok (s.log.extend a first).1,
      s.extended a first) := by
    rw [append_eq_of_latest, hfirst, h]
    exact if_pos rfl
  -- The batch of the first is not empty, and so the aggregate is no longer where all of them
  -- believe it to be.
  have hmoved : (s.extended a first).latest a = .ok (expected + first.length) :=
    ((appends_extended ordered h first).latest a).trans (if_pos rfl)
  have hwrong : expected ≠ expected + first.length := by
    have := length_pos_of_check hfirst
    lia
  rw [answersTo, happend, answersTo_of_wrong hmoved hwrong fun d hd =>
    checked d (List.mem_cons_of_mem _ hd)]

/-- **An append decides exactly**, in every reachable store, and a race for an aggregate has one
winner. -/
theorem append_decides (policy : Policy) (ops : List Operation) :
    let s := (empty policy).after ops
    (∀ a expected drafts, s.Decides a expected drafts) ∧
    (¬ (empty policy).CrashedIn ops → ∀ a, ∃ latest, s.latest a = .ok latest) ∧
    ∀ a expected batches, (∀ drafts ∈ batches, Batch.check drafts = .ok ()) →
    s.latest a = .ok expected →
      ∀ first others, (first :: others).Perm batches →
        ∃ events, s.answersTo a expected (first :: others) =
          .ok events :: others.map fun _ =>
            .error (.aggregateConflict a expected (some (expected + first.length))) := by
  intro s
  have hordered : s.log.Ordered := ordered_after Log.ordered_empty ops
  refine ⟨decides_of_ordered hordered, fun hcalm a => ?_,
    fun a expected batches checked hlatest first others horder => ?_⟩
  · exact ⟨s.log.latest a, latest_of_alive (alive_of_not_crashedIn hcalm) a⟩
  · exact ⟨_, first_wins hordered hlatest fun d hd => checked d (horder.mem_iff.mp hd)⟩

end Store

namespace Sample

def rivals : List (List Draft) := [[posting], [posting, posting], [posting]]

theorem check_rivals : ∀ drafts ∈ rivals, Batch.check drafts = .ok () := by
  intro drafts hd
  simp only [rivals, List.mem_cons, List.not_mem_nil, or_false] at hd
  rcases hd with rfl | rfl | rfl
  · rfl
  · rfl
  · rfl

end Sample

namespace Store

/-- Nobody has crashed in the quarter, and so the account is told to be at its third event; when the
second of the rivals comes first, its two postings are written and the other two are refused. -/
theorem append_decides_rivals :
    let s := (empty .standard).after Sample.quarter
    (∃ latest, s.latest Sample.account = .ok latest) ∧
    (∀ drafts ∈ Sample.rivals, Batch.check drafts = .ok ()) ∧ s.latest Sample.account = .ok 3 ∧
    [[Sample.posting, Sample.posting], [Sample.posting], [Sample.posting]].Perm Sample.rivals ∧
    ∃ events, s.answersTo Sample.account 3 [[Sample.posting, Sample.posting], [Sample.posting],
      [Sample.posting]] = [.ok events, .error (.aggregateConflict Sample.account 3 (some 5)),
        .error (.aggregateConflict Sample.account 3 (some 5))] := by
  intro s
  obtain ⟨_, htold, hrace⟩ := append_decides .standard Sample.quarter
  have hcalm : ¬ (empty .standard).CrashedIn Sample.quarter :=
    not_crashedIn_of_calm Sample.calm_quarter
  have hlatest : s.latest Sample.account = .ok 3 := by decide +kernel
  have hperm : [[Sample.posting, Sample.posting], [Sample.posting], [Sample.posting]].Perm
      Sample.rivals :=
    List.Perm.swap _ _ _
  exact ⟨htold hcalm Sample.account, Sample.check_rivals, hlatest, hperm,
    hrace Sample.account 3 Sample.rivals Sample.check_rivals hlatest _ _ hperm⟩

end Store

end Journal
