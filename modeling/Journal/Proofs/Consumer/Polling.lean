import Journal.Proofs.Consumer.Signal

/-!
# A loop that polls

**The loop starts a cycle only after a look that found no request to stop, ends each cycle that it
starts, and waits between two cycles no longer than it should** (`promised_poll`): not at all while
there is more to read, the interval once it has caught up, and after failures in a row the backoff
for their number. It ends with a failure at once when a cycle fails for good, and without one only
when it finds the request to stop or finds itself alone in a wait.

A `Course` is built round by round, one constructor for each way in which a round can end. The loop
follows a course (`course_poll`), for any number of rounds; everything promised is then read off
courses, by induction on them.
-/

namespace Journal.Consumer.Polling

abbrev Step := Program.Step calls Moment

abbrev Result := Attempt ConsumerError Progress

variable {c : Config} {plan : Schedule} {past : List Result} {r : Result} {m m' : Moment} {n : Nat}
  {look cycle a b w : Step} {gap t xs ys zs : List Step} {o : Option (Attempt ConsumerError Unit)}
  {stop : Stop ConsumerError} {d : Duration} {place : Float}

/-! ## What is promised -/

/-- The failures that may pass: of the handler, and of a log or of checkpoints that cannot be
reached. -/
inductive MayPass : ConsumerError → Prop
  | apply {consumer : String} {id : EventId} {reason : String} : MayPass (.apply consumer id reason)
  | flush {consumer reason : String} : MayPass (.flush consumer reason)
  | store {reason : String} : MayPass (.store (.unavailable reason))
  | checkpoint {reason : String} : MayPass (.checkpoint (.unavailable reason))

theorem isRetryable_iff {e : ConsumerError} : e.isRetryable = true ↔ MayPass e := by
  constructor
  · intro h
    cases e with
    | apply consumer id reason => exact .apply
    | flush consumer reason => exact .flush
    | clear consumer reason => simp [ConsumerError.isRetryable] at h
    | store e =>
      cases e with
      | unavailable reason => exact .store
      | _ => simp [ConsumerError.isRetryable, StoreError.isRetryable] at h
    | checkpoint e =>
      cases e with
      | unavailable reason => exact .checkpoint
      | _ => simp [ConsumerError.isRetryable, CheckpointError.isRetryable] at h
  · intro h
    cases h <;> rfl

def Final : Stop ConsumerError → Prop
  | .failed e => ¬ MayPass e
  | .crashed => True

def isPassing : Result → Bool
  | .error (.failed e) => e.isRetryable
  | _ => false

/-- The failures in a row at the end of results, all of which may pass. -/
def failuresInRow (results : List Result) : Nat := (results.reverse.takeWhile isPassing).length

def allowed (c : Config) (results : List Result) (place : Float) : Duration :=
  match results.getLast? with
  | some (.ok p) => if p.caughtUp then c.pollInterval else .zero
  | some (.error _) => c.backoff.delayAt (min (failuresInRow results) (2 ^ 32 - 1)) place
  | none => .zero

def result? (a : Step) : Option Result :=
  match a.exchange with
  | ⟨.cycle, r⟩ => some r
  | _ => none

def results (t : List Step) : List Result := t.filterMap result?

/-- From `start` to `finish` the loop has waited as long as it should after these results, or less
because it was sent a signal in a wait. A signal that was sent during the cycle counts as well: the
wait that follows ends at once. -/
def Paced (c : Config) (results : List Result) (start : Nat) (gap : List Step)
    (finish : Nat) : Prop :=
  ∃ place, (∀ stop, results.getLast? = some (.error stop) →
    ∃ w ∈ gap, w.exchange = ⟨.chance, place⟩) ∧
    start ≤ finish ∧ finish ≤ start + (allowed c results place).nanos ∧
    (finish < start + (allowed c results place).nanos →
      ∃ w ∈ gap, (∃ d, w.exchange = ⟨.wait d, .signalled⟩) ∧ w.before.Notices w.after)

/-- What is promised of the steps of a loop and of its end, when cycles with the results `past` came
before. -/
structure Promised (c : Config) (plan : Schedule) (rounds : Nat) (past : List Result)
    (t : List Step) (o : Option (Attempt ConsumerError Unit)) : Prop where
  /-- Right before a cycle is a look that found no request to stop. -/
  looked : ∀ xs a ys, t = xs ++ a :: ys → (result? a).isSome →
    ∃ zs b, xs = zs ++ [b] ∧ b.exchange = ⟨.stopping, false⟩
  /-- Nothing follows a look that found one. -/
  stopped : ∀ xs a ys, t = xs ++ a :: ys → a.exchange = ⟨.stopping, true⟩ → ys = [] ∧
    o = some (.ok ())
  /-- A cycle takes its time and ends as it ends, whatever is done with the signal meanwhile. -/
  whole : ∀ a ∈ t, ∀ r, result? a = some r → r = (plan a.before.asked).progress ∧
    a.after.now = a.before.now + (plan a.before.asked).length
  /-- The loop fails exactly when a cycle fails for good, with its failure. -/
  failed : ∀ stop, o = some (.error stop) ↔ .error stop ∈ results t ∧ Final stop
  /-- Nothing follows such a cycle. -/
  atOnce : ∀ xs a ys stop, t = xs ++ a :: ys → result? a = some (.error stop) → Final stop → ys = []
  /-- The loop ends without a failure when the signal asks it to stop, or when it is alone in a
  wait. -/
  ended : o = some (.ok ()) → ∃ xs a, t = xs ++ [a] ∧
    ((a.exchange = ⟨.stopping, true⟩ ∧ a.after.signal.value = true) ∨
      ∃ d, a.exchange = ⟨.wait d, .abandoned⟩ ∧ a.after.signal.attended = false)
  /-- From one cycle to the next the loop waits as long as it should. -/
  waited : ∀ xs a ys b zs, t = xs ++ a :: (ys ++ b :: zs) → (result? a).isSome →
    (result? b).isSome →
    (∀ w ∈ ys, result? w = none) → Paced c (past ++ results (xs ++ [a])) a.after.now ys b.before.now
  /-- Otherwise there were as many cycles as there may be rounds. -/
  unfinished : o = none → (results t).length = rounds

/-! ## Courses -/

structure Begun (plan : Schedule) (m : Moment) (look cycle : Step) (r : Result) : Prop where
  found : look.exchange = ⟨.stopping, false⟩
  made : cycle.exchange = ⟨.cycle, r⟩
  begins : cycle.before.now = m.now
  whole : r = (plan cycle.before.asked).progress ∧
    cycle.after.now = cycle.before.now + (plan cycle.before.asked).length

def Quiet (gap : List Step) : Prop := ∀ w ∈ gap, result? w = none ∧ ∀ v, w.exchange ≠ ⟨.stopping, v⟩

inductive Ends : Result → List Step → Option (Attempt ConsumerError Unit) → Prop
  | failed {stop : Stop ConsumerError} (final : Final stop) : Ends (.error stop) []
      (some (.error stop))
  | abandoned {r : Result} {gap : List Step} {w : Step} {d : Duration}
      (passes : ∀ stop, r = .error stop → ¬ Final stop)
      (alone : w.exchange = ⟨.wait d, .abandoned⟩) (left : w.after.signal.attended = false) :
      Ends r (gap ++ [w]) (some (.ok ()))

/-- The steps of a loop from a moment on, in so many rounds at most and after cycles with the
results `past`, and how it ends. There is one constructor for each way in which a round can go, so
that what is promised is proved of each of them and carried on from the rounds that follow. -/
inductive Course (c : Config) (plan : Schedule) :
    Nat → List Result → Moment → List Step → Option (Attempt ConsumerError Unit) → Prop
  | unfinished {past : List Result} {m : Moment} : Course c plan 0 past m [] none
  | stopped {n : Nat} {past : List Result} {m : Moment} {look : Step}
      (found : look.exchange = ⟨.stopping, true⟩)
      (value : look.after.signal.value = true) : Course c plan (n + 1) past m [look] (some (.ok ()))
  | last {n : Nat} {past : List Result} {m : Moment} {look cycle : Step}
      {gap : List Step} {r : Result}
      {o : Option (Attempt ConsumerError Unit)} (begun : Begun plan m look cycle r)
      (quiet : Quiet gap)
      (ends : Ends r gap o) : Course c plan (n + 1) past m (look :: cycle :: (gap ++ [])) o
  | round {n : Nat} {past : List Result} {m m' : Moment} {look cycle : Step}
      {gap t : List Step} {r : Result}
      {o : Option (Attempt ConsumerError Unit)} (begun : Begun plan m look cycle r)
      (quiet : Quiet gap) (passes : ∀ stop, r = .error stop → ¬ Final stop)
      (paced : Paced c (past ++ [r]) cycle.after.now gap m'.now)
      (rest : Course c plan n (past ++ [r]) m' t o) :
      Course c plan (n + 1) past m (look :: cycle :: (gap ++ t)) o

/-! ## The loop follows a course -/

theorem failuresInRow_concat (past : List Result) (r : Result) :
    failuresInRow (past ++ [r]) = if isPassing r then failuresInRow past + 1 else 0 := by
  cases hr : isPassing r <;> simp [failuresInRow, hr]

theorem not_final_of_isRetryable {e : ConsumerError} (h : e.isRetryable = true) :
    ¬ Final (.failed e) := by
  intro hfinal
  exact hfinal (isRetryable_iff.mp h)

theorem quiet_nil : Quiet [] := by
  intro w hw
  exact absurd hw List.not_mem_nil

theorem quiet_concat (hquiet : Quiet gap) (hw : result? w = none)
    (hlook : ∀ v, w.exchange ≠ ⟨.stopping, v⟩) :
    Quiet (gap ++ [w]) := by
  intro x hx
  rcases List.mem_append.mp hx with hgap | hlast
  · exact hquiet x hgap
  · obtain rfl := List.mem_singleton.mp hlast
    exact ⟨hw, hlook⟩

/-- A wait after a cycle, and what comes after it; chance has been asked before, where there was
anything to ask. -/
theorem course_waitThen (gap : List Step) (place : Float)
    {again : Program calls (Option (Attempt ConsumerError Unit))}
    (hbegun : Begun plan m look cycle r) (hpasses : ∀ stop, r = .error stop → ¬ Final stop)
    (hquiet : Quiet gap) (hnow : m'.now = cycle.after.now)
    (hplace : ∀ stop, r = .error stop → ∃ w ∈ gap, w.exchange = ⟨.chance, place⟩)
    (hd : allowed c (past ++ [r]) place = d)
    (hagain : ∀ x, Course c plan n (past ++ [r]) x (again.steps plan.answer x)
      (again.run plan.answer x).1) :
    Course c plan (n + 1) past m (look :: cycle :: (gap ++ (waitThen d again).steps plan.answer m'))
      ((waitThen d again).run plan.answer m').1 := by
  have hchance : ∀ stop, (past ++ [r]).getLast? = some (.error stop) →
      ∃ w ∈ gap, w.exchange = ⟨.chance, place⟩ := by
    intro stop hstop
    rw [List.getLast?_concat] at hstop
    exact hplace stop (Option.some.inj hstop)
  unfold waitThen
  by_cases hzero : d = .zero
  · rw [if_pos hzero]
    refine .round hbegun hquiet hpasses ⟨place, hchance, by omega, by omega, ?_⟩ (hagain m')
    intro hlt
    rw [hd, hzero] at hlt
    have : Duration.zero.nanos = 0 := rfl
    omega
  · rw [if_neg hzero]
    let w : Step := ⟨⟨.wait d, (plan.answer (.wait d) m').1⟩, m', (plan.answer (.wait d) m').2⟩
    have hquiet' : Quiet (gap ++ [w]) := quiet_concat hquiet rfl (by simp [w])
    have hchance' : ∀ stop, (past ++ [r]).getLast? = some (.error stop) →
        ∃ x ∈ gap ++ [w], x.exchange = ⟨.chance, place⟩ := by
      intro stop hstop
      obtain ⟨x, hx, hexchange⟩ := hchance stop hstop
      exact ⟨x, List.mem_append_left _ hx, hexchange⟩
    rw [Program.steps_ask, Program.run_ask]
    rcases answer_wait_cases plan d m' with
      ⟨hwoken, htime⟩ | ⟨hwoken, hnotices, nanos, hle, htime⟩ | ⟨hwoken, hleft⟩
    · simp only [hwoken]
      rw [← hwoken, List.append_cons]
      refine .round hbegun hquiet' hpasses
        ⟨place, hchance', by omega, by rw [hd]; omega, ?_⟩ (hagain _)
      intro hlt
      rw [hd] at hlt
      omega
    · simp only [hwoken]
      rw [← hwoken, List.append_cons]
      refine .round hbegun hquiet' hpasses
        ⟨place, hchance', by omega, by rw [hd]; omega, ?_⟩ (hagain _)
      intro _
      refine ⟨w, List.mem_append_right _ (List.mem_singleton_self w), ⟨d, ?_⟩, hnotices⟩
      simp only [w, hwoken]
    · simp only [hwoken]
      rw [List.append_cons]
      exact .last hbegun (quiet_concat hquiet rfl (by simp)) (.abandoned hpasses rfl hleft)

/-- **The loop follows a course**, whatever its schedule is. -/
theorem course_poll (c : Config) (plan : Schedule) (rounds : Nat) (m : Moment) {failures : Nat}
    (hfailures : failures = min (failuresInRow past) mostFailures) :
    Course c plan rounds past m ((poll c rounds failures).steps plan.answer m)
      ((poll c rounds failures).run plan.answer m).1 := by
  -- On the rounds; the failures in a row are those of the results so far.
  induction rounds generalizing past m failures with
  | zero => exact .unfinished
  | succ rounds ih =>
    rw [poll, Program.steps_ask, Program.run_ask]
    cases hvalue : (plan.answer .stopping m).1 with
    | true => exact .stopped rfl hvalue
    | false =>
      simp only [Bool.false_eq_true, if_false, Program.steps_ask, Program.run_ask]
      have hbegun : Begun plan m ⟨⟨.stopping, false⟩, m, (plan.answer .stopping m).2⟩
          ⟨⟨.cycle, (plan.answer .cycle (plan.answer .stopping m).2).1⟩,
            (plan.answer .stopping m).2, (plan.answer .cycle (plan.answer .stopping m).2).2⟩
          (plan.answer .cycle (plan.answer .stopping m).2).1 := ⟨rfl, rfl, rfl, rfl, rfl⟩
      generalize (plan.answer .cycle (plan.answer .stopping m).2).1 = r at hbegun ⊢
      cases r with
      | ok p =>
        have hpasses : ∀ stop, (Except.ok p : Result) = .error stop → ¬ Final stop := by
          intro stop h
          cases h
        have hallowed : allowed c (past ++ [.ok p]) 0 = if p.caughtUp then c.pollInterval
            else .zero := by
          simp [allowed]
        refine course_waitThen [] 0 hbegun hpasses quiet_nil rfl ?_ hallowed ?_
        · intro stop h
          cases h
        · intro x
          refine ih x ?_
          rw [failuresInRow_concat]
          simp [isPassing]
      | error stop =>
        cases stop with
        | crashed => exact .last hbegun quiet_nil (.failed trivial)
        | failed e =>
          simp only [next]
          by_cases hretry : e.isRetryable = true
          · rw [if_pos hretry]
            have hpasses : ∀ stop, (Except.error (.failed e) : Result) = .error stop →
                ¬ Final stop := by
              intro stop h
              cases h
              exact not_final_of_isRetryable hretry
            have hrow : failuresInRow (past ++ [.error (.failed e)]) = failuresInRow past + 1 := by
              rw [failuresInRow_concat, isPassing, if_pos hretry]
            have hcount : min (failures + 1) mostFailures =
                min (failuresInRow (past ++ [.error (.failed e)])) mostFailures := by
              rw [hrow, hfailures]
              omega
            simp only [Program.steps_ask, Program.run_ask]
            let drawn := plan.answer .chance (plan.answer .cycle (plan.answer .stopping m).2).2
            refine course_waitThen [⟨⟨.chance, drawn.1⟩, _, drawn.2⟩] drawn.1 hbegun hpasses
              (quiet_concat quiet_nil rfl (by simp)) rfl ?_ ?_ (fun x => ih x hcount)
            · intro stop _
              exact ⟨_, List.mem_singleton_self _, rfl⟩
            · rw [allowed, List.getLast?_concat, hcount]
              rfl
          · rw [if_neg hretry]
            exact .last hbegun quiet_nil (.failed fun hpass => hretry (isRetryable_iff.mpr hpass))

/-! ## What courses keep -/

theorem result?_eq_some_iff : result? a = some r ↔ a.exchange = ⟨.cycle, r⟩ := by
  obtain ⟨⟨q, answer⟩, before, after⟩ := a
  cases q <;> simp [result?]

theorem Begun.result?_look (h : Begun plan m look cycle r) : result? look = none := by
  rw [result?, h.found]

theorem Begun.result?_cycle (h : Begun plan m look cycle r) : result? cycle = some r :=
  result?_eq_some_iff.mpr h.made

theorem Quiet.not_mem (h : Quiet gap) (ha : (result? a).isSome) : a ∉ gap := by
  intro hmem
  rw [(h a hmem).1] at ha
  cases ha

theorem results_round (hbegun : Begun plan m look cycle r) (hquiet : Quiet gap) :
    results (look :: cycle :: (gap ++ t)) = r :: results t := by
  have hgap : gap.filterMap result? = [] := List.filterMap_eq_nil_iff.mpr fun a ha =>
    (hquiet a ha).1
  rw [results, List.filterMap_cons_none hbegun.result?_look,
    List.filterMap_cons_some hbegun.result?_cycle, List.filterMap_append, hgap, List.nil_append,
    results]

/-- What is not in the first part of a list is in the second. -/
theorem split_append (h : gap ++ t = xs ++ a :: ys) (ha : a ∉ gap) :
    ∃ as, xs = gap ++ as ∧ t = as ++ a :: ys := by
  rcases List.append_eq_append_iff.mp h with ⟨as, hxs, ht⟩ | ⟨as, hgap, hys⟩
  · exact ⟨as, hxs, ht⟩
  · cases as with
    | nil =>
      rw [List.append_nil] at hgap
      exact ⟨[], by rw [List.append_nil, hgap], hys.symm⟩
    | cons x as =>
      obtain ⟨rfl, -⟩ := List.cons.inj hys
      exact absurd (hgap ▸ List.mem_append_right xs List.mem_cons_self) ha

theorem split_round (h : look :: cycle :: (gap ++ t) = xs ++ a :: ys) (ha : a ∉ gap) :
    (xs = [] ∧ a = look ∧ ys = cycle :: (gap ++ t)) ∨ (xs = [look] ∧ a = cycle ∧ ys = gap ++ t) ∨
      ∃ as, xs = look :: cycle :: (gap ++ as) ∧ t = as ++ a :: ys := by
  match xs with
  | [] =>
    obtain ⟨rfl, rfl⟩ := List.cons.inj h
    exact Or.inl ⟨rfl, rfl, rfl⟩
  | [x] =>
    obtain ⟨rfl, hrest⟩ := List.cons.inj h
    obtain ⟨rfl, rfl⟩ := List.cons.inj hrest
    exact Or.inr (Or.inl ⟨rfl, rfl, rfl⟩)
  | x :: y :: xs =>
    rw [List.cons_append, List.cons_append] at h
    obtain ⟨rfl, htail⟩ := List.cons.inj h
    obtain ⟨rfl, hrest⟩ := List.cons.inj htail
    obtain ⟨as, rfl, ht⟩ := split_append hrest ha
    exact Or.inr (Or.inr ⟨as, rfl, ht⟩)

theorem split_singleton (h : [look] = xs ++ a :: ys) : xs = [] ∧ a = look ∧ ys = [] := by
  cases xs with
  | nil =>
    obtain ⟨rfl, rfl⟩ := List.cons.inj h
    exact ⟨rfl, rfl, rfl⟩
  | cons x xs => simp at h

namespace Course

theorem first (h : Course c plan n past m t o) (ht : t = ys ++ b :: zs) (hb : (result? b).isSome)
    (hys : ∀ w ∈ ys, result? w = none) : b.before.now = m.now := by
  cases h with
  | unfinished => simp at ht
  | stopped found value =>
    obtain ⟨-, rfl, -⟩ := split_singleton ht
    simp [result?, found] at hb
  | last begun quiet ends =>
    rcases split_round ht (quiet.not_mem hb) with ⟨-, rfl, -⟩ | ⟨-, rfl, -⟩ | ⟨as, -, h⟩
    · rw [begun.result?_look] at hb
      cases hb
    · exact begun.begins
    · simp at h
  | round begun quiet passes paced rest =>
    rcases split_round ht (quiet.not_mem hb) with ⟨-, rfl, -⟩ | ⟨-, rfl, -⟩ | ⟨as, rfl, -⟩
    · rw [begun.result?_look] at hb
      cases hb
    · exact begun.begins
    · have := hys _ (List.mem_cons_of_mem _ List.mem_cons_self)
      rw [begun.result?_cycle] at this
      cases this

theorem looked (h : Course c plan n past m t o) (ht : t = xs ++ a :: ys) (ha : (result? a).isSome) :
    ∃ zs b, xs = zs ++ [b] ∧ b.exchange = ⟨.stopping, false⟩ := by
  induction h generalizing xs with
  | unfinished => simp at ht
  | stopped found value =>
    obtain ⟨-, rfl, -⟩ := split_singleton ht
    simp [result?, found] at ha
  | last begun quiet ends =>
    rcases split_round ht (quiet.not_mem ha) with ⟨-, rfl, -⟩ | ⟨rfl, -, -⟩ | ⟨as, -, h⟩
    · rw [begun.result?_look] at ha
      cases ha
    · exact ⟨[], _, rfl, begun.found⟩
    · simp at h
  | @round _ _ _ _ look cycle gap _ _ _ begun quiet passes paced rest ih =>
    rcases split_round ht (quiet.not_mem ha) with ⟨-, rfl, -⟩ | ⟨rfl, -, -⟩ | ⟨as, rfl, h⟩
    · rw [begun.result?_look] at ha
      cases ha
    · exact ⟨[], look, rfl, begun.found⟩
    · obtain ⟨zs, b, rfl, hb⟩ := ih h
      exact ⟨look :: cycle :: (gap ++ zs), b, by simp, hb⟩

theorem stops (h : Course c plan n past m t o) (ht : t = xs ++ a :: ys)
    (ha : a.exchange = ⟨.stopping, true⟩) :
    ys = [] ∧ o = some (.ok ()) := by
  induction h generalizing xs with
  | unfinished => simp at ht
  | stopped found value => exact ⟨(split_singleton ht).2.2, rfl⟩
  | last begun quiet ends =>
    rcases split_round ht (fun hmem => (quiet a hmem).2 true ha) with
      ⟨-, rfl, -⟩ | ⟨-, rfl, -⟩ | ⟨as, -, h⟩
    · simp [begun.found] at ha
    · simp [begun.made] at ha
    · simp at h
  | round begun quiet passes paced rest ih =>
    rcases split_round ht (fun hmem => (quiet a hmem).2 true ha) with
      ⟨-, rfl, -⟩ | ⟨-, rfl, -⟩ | ⟨as, -, h⟩
    · simp [begun.found] at ha
    · simp [begun.made] at ha
    · exact ih h

theorem whole (h : Course c plan n past m t o) (ha : a ∈ t) (hr : result? a = some r) :
    r = (plan a.before.asked).progress ∧
    a.after.now = a.before.now + (plan a.before.asked).length := by
  have hsome : (result? a).isSome := by rw [hr]; rfl
  induction h with
  | unfinished => exact absurd ha List.not_mem_nil
  | stopped found value =>
    obtain rfl := List.mem_singleton.mp ha
    simp [result?, found] at hr
  | last begun quiet ends =>
    obtain ⟨xs, ys, hsplit⟩ := List.append_of_mem ha
    rcases split_round hsplit (quiet.not_mem hsome) with ⟨-, rfl, -⟩ | ⟨-, rfl, -⟩ | ⟨as, -, h⟩
    · rw [begun.result?_look] at hr
      cases hr
    · rw [begun.result?_cycle] at hr
      exact Option.some.inj hr ▸ begun.whole
    · simp at h
  | round begun quiet passes paced rest ih =>
    obtain ⟨xs, ys, hsplit⟩ := List.append_of_mem ha
    rcases split_round hsplit (quiet.not_mem hsome) with ⟨-, rfl, -⟩ | ⟨-, rfl, -⟩ | ⟨as, -, h⟩
    · rw [begun.result?_look] at hr
      cases hr
    · rw [begun.result?_cycle] at hr
      exact Option.some.inj hr ▸ begun.whole
    · exact ih (by rw [h]; simp)

theorem failed (h : Course c plan n past m t o) :
    o = some (.error stop) ↔ .error stop ∈ results t ∧ Final stop := by
  induction h with
  | unfinished => simp [results]
  | stopped found value => simp [results, result?, found]
  | last begun quiet ends =>
    rw [results_round begun quiet]
    cases ends with
    | failed final =>
      constructor
      · intro h
        cases h
        exact ⟨List.mem_cons_self, final⟩
      · rintro ⟨hmem, -⟩
        simp only [results, List.filterMap_nil, List.mem_singleton, Except.error.injEq] at hmem
        rw [hmem]
    | abandoned passes alone left =>
      constructor
      · intro h
        cases h
      · rintro ⟨hmem, hfinal⟩
        simp only [results, List.filterMap_nil, List.mem_singleton] at hmem
        exact absurd hfinal (passes stop hmem.symm)
  | round begun quiet passes paced rest ih =>
    rw [results_round begun quiet, ih, List.mem_cons]
    constructor
    · rintro ⟨hmem, hfinal⟩
      exact ⟨Or.inr hmem, hfinal⟩
    · rintro ⟨rfl | hmem, hfinal⟩
      · exact absurd hfinal (passes stop rfl)
      · exact ⟨hmem, hfinal⟩

theorem atOnce (h : Course c plan n past m t o) (ht : t = xs ++ a :: ys)
    (ha : result? a = some (.error stop)) (hfinal : Final stop) : ys = [] := by
  have hsome : (result? a).isSome := by rw [ha]; rfl
  induction h generalizing xs with
  | unfinished => simp at ht
  | stopped found value => exact (split_singleton ht).2.2
  | last begun quiet ends =>
    rcases split_round ht (quiet.not_mem hsome) with ⟨-, rfl, -⟩ | ⟨-, rfl, hys⟩ | ⟨as, -, h⟩
    · rw [begun.result?_look] at ha
      cases ha
    · cases ends with
      | failed final => exact hys
      | abandoned passes alone left =>
        rw [begun.result?_cycle] at ha
        exact absurd hfinal (passes stop (Option.some.inj ha))
    · simp at h
  | round begun quiet passes paced rest ih =>
    rcases split_round ht (quiet.not_mem hsome) with ⟨-, rfl, -⟩ | ⟨-, rfl, -⟩ | ⟨as, -, h⟩
    · rw [begun.result?_look] at ha
      cases ha
    · rw [begun.result?_cycle] at ha
      exact absurd hfinal (passes stop (Option.some.inj ha))
    · exact ih h

theorem ended (h : Course c plan n past m t o) (ho : o = some (.ok ())) : ∃ xs a, t = xs ++ [a] ∧
    ((a.exchange = ⟨.stopping, true⟩ ∧ a.after.signal.value = true) ∨
      ∃ d, a.exchange = ⟨.wait d, .abandoned⟩ ∧ a.after.signal.attended = false) := by
  induction h with
  | unfinished => cases ho
  | stopped found value => exact ⟨[], _, rfl, Or.inl ⟨found, value⟩⟩
  | @last _ _ _ look cycle _ _ _ begun quiet ends =>
    cases ends with
    | failed final => cases ho
    | @abandoned _ gap w d passes alone left =>
      exact ⟨look :: cycle :: gap, w, by simp, Or.inr ⟨d, alone, left⟩⟩
  | @round _ _ _ _ look cycle gap _ _ _ begun quiet passes paced rest ih =>
    obtain ⟨xs, a, rfl, hwhy⟩ := ih ho
    exact ⟨look :: cycle :: (gap ++ xs), a, by simp, hwhy⟩

theorem waited (h : Course c plan n past m t o) (ht : t = xs ++ a :: (ys ++ b :: zs))
    (ha : (result? a).isSome) (hb : (result? b).isSome) (hys : ∀ w ∈ ys, result? w = none) :
    Paced c (past ++ results (xs ++ [a])) a.after.now ys b.before.now := by
  induction h generalizing xs with
  | unfinished => simp at ht
  | stopped found value =>
    obtain ⟨-, -, h⟩ := split_singleton ht
    simp at h
  | last begun quiet ends =>
    rcases split_round ht (quiet.not_mem ha) with ⟨-, rfl, -⟩ | ⟨-, rfl, h⟩ | ⟨as, -, h⟩
    · rw [begun.result?_look] at ha
      cases ha
    · obtain ⟨as, -, h⟩ := split_append h.symm (quiet.not_mem hb)
      simp at h
    · simp at h
  | @round _ past _ m' look cycle gap t r _ begun quiet passes paced rest ih =>
    rcases split_round ht (quiet.not_mem ha) with ⟨-, rfl, -⟩ | ⟨rfl, rfl, h⟩ | ⟨as, rfl, h⟩
    · rw [begun.result?_look] at ha
      cases ha
    · obtain ⟨as, rfl, hrest⟩ := split_append h.symm (quiet.not_mem hb)
      have hnow : b.before.now = m'.now := rest.first hrest hb fun w hw =>
        hys w (List.mem_append_right _ hw)
      obtain ⟨place, hplace, hle, hmost, hcut⟩ := paced
      have hresults : results ([look] ++ [a]) = [r] := by
        simpa [results] using results_round (t := []) begun quiet_nil
      rw [hresults, hnow]
      refine ⟨place, ?_, hle, hmost, ?_⟩
      · intro stop hstop
        obtain ⟨w, hw, hexchange⟩ := hplace stop hstop
        exact ⟨w, List.mem_append_left _ hw, hexchange⟩
      · intro hlt
        obtain ⟨w, hw, hwoken⟩ := hcut hlt
        exact ⟨w, List.mem_append_left _ hw, hwoken⟩
    · have hresults : results (look :: cycle :: (gap ++ as) ++ [a]) = r :: results (as ++ [a]) := by
        rw [List.cons_append, List.cons_append, List.append_assoc, results_round begun quiet]
      rw [hresults, List.append_cons]
      exact ih h

theorem unfinished_of_none (h : Course c plan n past m t o) (ho : o = none) :
    (results t).length = n := by
  induction h with
  | unfinished => rfl
  | stopped found value => cases ho
  | last begun quiet ends =>
    cases ends with
    | failed final => cases ho
    | abandoned passes alone left => cases ho
  | round begun quiet passes paced rest ih =>
    rw [results_round begun quiet, List.length_cons, ih ho]

theorem promised (h : Course c plan n past m t o) : Promised c plan n past t o where
  looked _ _ _ := h.looked
  stopped _ _ _ := h.stops
  whole _ ha _ := h.whole ha
  failed _ := h.failed
  atOnce _ _ _ _ := h.atOnce
  ended := h.ended
  waited _ _ _ _ _ := h.waited
  unfinished := h.unfinished_of_none

end Course

/-- **The loop does what it promises** with any configuration, however its cycles end, whatever is
done with the signal to stop and when, and for as many rounds as one likes to follow it. -/
theorem promised_poll (c : Config) (plan : Schedule) (start : Moment) (rounds : Nat) :
    Promised c plan rounds [] ((poll c rounds 0).steps plan.answer start)
      ((poll c rounds 0).run plan.answer start).1 :=
  (course_poll c plan rounds start rfl).promised

end Journal.Consumer.Polling
