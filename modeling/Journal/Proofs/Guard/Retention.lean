import Journal.Proofs.Guard.Automaton

/-!
# How long answers are kept

A purge goes back from its instant by the retention it is asked for, and by a day at least, and
takes the records that were created before the instant where it arrives; if there is no such instant
it takes nothing (`Purged`). **An answer is therefore on record for a day whatever retention purges
are asked for** (`answers_outlive`): nothing but a purge takes a record with an answer, and a purge
within a day of its creation does not reach it.

The day ends at the same time of the next day. Where the instant of a purge is a leap second it
stands for the second after it, as it does on a clock; a record that was created in one has the day
of the second before.
-/

namespace Journal

namespace Instant

def elapsed (t : Instant) : Int := t.seconds * Duration.nanosPerSecond + t.nanos

/-- The instant that lies the stretch back, if the stretch is not too long and the instant in range.
It is said with nanoseconds from a fixed instant, of which the result has less than a second beside
its seconds; the function that goes back divides and takes remainders instead. -/
structure IsBack (now : Instant) (d : Duration) (t : Instant) : Prop where
  short : d ≤ longestStretch
  inRange : t.isInRange = true
  whole : t.nanos < Duration.nanosPerSecond
  elapsed : t.elapsed + d.nanos = now.elapsed

def nextDay (t : Instant) : Instant := ⟨t.seconds + 86400, t.nanos % Duration.nanosPerSecond⟩

theorem elapsed_goBack (now : Instant) (d : Duration) :
    (now.goBack d).elapsed + d.nanos = now.elapsed := by
  simp only [elapsed, goBack, Duration.nanosPerSecond]
  omega

theorem nanos_goBack_lt (now : Instant) (d : Duration) :
    (now.goBack d).nanos < Duration.nanosPerSecond := by
  simp only [goBack, Duration.nanosPerSecond]
  omega

theorem eq_of_elapsed {t u : Instant} (ht : t.nanos < Duration.nanosPerSecond)
    (hu : u.nanos < Duration.nanosPerSecond) (h : t.elapsed = u.elapsed) : t = u := by
  obtain ⟨s, n⟩ := t
  obtain ⟨s', n'⟩ := u
  simp only [elapsed, Duration.nanosPerSecond] at ht hu h
  have hs : s = s' := by omega
  have hn : n = n' := by omega
  rw [hs, hn]

theorem goBack?_eq_some_iff {now t : Instant} {d : Duration} :
    now.goBack? d = some t ↔ now.IsBack d t := by
  rw [goBack?]
  constructor
  · intro h
    split at h
    · next hback =>
      cases h
      exact ⟨hback.1, hback.2, nanos_goBack_lt now d, elapsed_goBack now d⟩
    · cases h
  · rintro ⟨hshort, hrange, hwhole, helapsed⟩
    have heq : now.goBack d = t := by
      refine eq_of_elapsed (nanos_goBack_lt now d) hwhole ?_
      have := elapsed_goBack now d
      omega
    rw [heq, if_pos ⟨hshort, hrange⟩]

theorem before_eq_false_iff {t u : Instant} :
    t.before u = false ↔ u.seconds < t.seconds ∨ u.seconds = t.seconds ∧ u.nanos ≤ t.nanos := by
  rw [before, Bool.or_eq_false_iff, Bool.and_eq_false_iff, decide_eq_false_iff_not,
    beq_eq_false_iff_ne, decide_eq_false_iff_not]
  omega

/-- Who goes back by a day at least, from no later than the same time of the next day, does not get
past an instant. -/
theorem not_before_of_isBack {now t cutoff : Instant} {d : Duration} (hback : now.IsBack d cutoff)
    (hday : Duration.ofHours 24 ≤ d) (hnow : t.nextDay.before now.withoutLeap = false) :
    t.before cutoff = false := by
  have hlong : 86400000000000 ≤ d.nanos := hday
  have hwhole := hback.whole
  have helapsed := hback.elapsed
  rw [before_eq_false_iff] at hnow ⊢
  simp only [elapsed, nextDay, withoutLeap, Duration.nanosPerSecond] at hwhole helapsed hnow
  omega

end Instant

namespace Guard

variable {g : Guard} {k : Key} {r : Record} {asked : Duration} {now : Instant}

/-- The record was created before the instant that lies the retention back, or a day if that is
longer. -/
def Record.Expired (asked : Duration) (now : Instant) (r : Record) : Prop :=
  ∃ cutoff, now.IsBack ⟨max asked.nanos (24 * 3600 * 1000000000)⟩ cutoff ∧
    r.createdAt.before cutoff = true

/-- What is left by a purge, and the number of records that it removes. -/
structure Purged (g : Guard) (asked : Duration) (now : Instant) (count : Nat)
    (left : Guard) : Prop where
  lookup : ∀ k r, left.lookup k = some r ↔ g.lookup k = some r ∧ ¬ r.Expired asked now
  count : count + left.records.size = g.records.size

theorem expiry?_eq_some_iff {cutoff : Instant} :
    expiry? asked now = some cutoff ↔
      now.IsBack ⟨max asked.nanos (24 * 3600 * 1000000000)⟩ cutoff :=
  Instant.goBack?_eq_some_iff

theorem Record.expired_iff : r.Expired asked now ↔ ∃ cutoff, expiry? asked now = some cutoff ∧
    r.createdAt.before cutoff = true :=
  exists_congr fun _ => and_congr_left' expiry?_eq_some_iff.symm

theorem purged_purge (g : Guard) (asked : Duration) (now : Instant) :
    g.Purged asked now (g.purge asked now).1 (g.purge asked now).2 := by
  constructor
  · intro k r
    rw [lookup_purge, Record.expired_iff]
    cases expiry? asked now with
    | none => simp
    | some cutoff => simp [Option.filter_eq_some_iff]
  · rw [purge]
    cases expiry? asked now with
    | none => exact Nat.zero_add _
    | some cutoff => exact Nat.sub_add_cancel (List.length_filter_le _ _)

theorem not_expired_of_nextDay (hnow : r.createdAt.nextDay.before now.withoutLeap = false) :
    ¬ r.Expired asked now := by
  rintro ⟨cutoff, hback, hbefore⟩
  have hday : Duration.ofHours 24 ≤ ⟨max asked.nanos (24 * 3600 * 1000000000)⟩ :=
    Nat.le_max_right _ _
  rw [Instant.not_before_of_isBack hback hday hnow] at hbefore
  cases hbefore

/-! ## Runs -/

/-- A purge within a day of the record's creation, or no purge. A purge in a leap second counts as
one in the second after it, from where it goes back. -/
def Operation.Spares (r : Record) (op : Operation) : Prop :=
  ∀ asked now, op = .purge asked now → r.createdAt.nextDay.before now.withoutLeap = false

theorem lookup_perform_of_answered {response : Response} (hr : g.lookup k = some r)
    (answered : r.response = some response) {op : Operation} (hspares : op.Spares r) :
    (op.perform g).2.lookup k = some r := by
  cases op with
  | reserve l hash now => exact lookup_reserve_of_answered hr l hash now
  | record l hash other now =>
    rw [Operation.perform]
    cases hrecord : g.record l hash other now with
    | error e => exact hr
    | ok kept => exact lookup_record_of_answered hr answered hrecord
  | release l hash => exact lookup_release_of_answered hr answered l hash
  | lookup l => exact hr
  | purge asked now =>
    exact ((purged_purge g asked now).lookup k r).mpr
      ⟨hr, not_expired_of_nextDay (hspares asked now rfl)⟩

theorem lookup_after_of_answered {response : Response} (hr : g.lookup k = some r)
    (answered : r.response = some response) {ops : List Operation}
    (hspare : ∀ op ∈ ops, op.Spares r) : (g.after ops).lookup k = some r := by
  induction ops generalizing g with
  | nil => exact hr
  | cons op rest ih =>
    exact ih (lookup_perform_of_answered hr answered (hspare op List.mem_cons_self))
      fun op hop => hspare op (List.mem_cons_of_mem _ hop)

/-- **Answers outlive every retention setting**: a purge removes the records that have expired, no
other, and says how many; and once a request was answered, it is answered the same until a purge
runs more than a day after the record of it was created.

The instant of a purge is compared as `now.withoutLeap`, which is `now` itself for every instant
that is no leap second. A purge in a leap second goes back from the second after it, and the
condition counts that second too, so that no instant has to be excluded. A system clock never gives
a leap second. -/
theorem answers_outlive (g : Guard) :
    (∀ asked now, g.Purged asked now (g.purge asked now).1 (g.purge asked now).2) ∧
    ∀ k r response, g.lookup k = some r → r.response = some response → ∀ ops : List Operation,
      (∀ asked now, .purge asked now ∈ ops → r.createdAt.nextDay.before now.withoutLeap = false) →
        ∀ now, ((g.after ops).reserve k r.hash now).1 = .replay response := by
  refine ⟨purged_purge g, fun k r response hr answered ops hpurges now => ?_⟩
  have hspare : ∀ op ∈ ops, op.Spares r := by
    rintro op hop asked at' rfl
    exact hpurges asked at' hop
  rw [reserve, lookup_after_of_answered hr answered hspare]
  simp only [Record.verdict, if_true, answered]

def paid : Record := ⟨till, "h1", some ⟨201, none⟩, opening⟩

/-- Everything is purged at the same time of the next day. -/
def nextOpening : List Operation :=
  [.release till "h1", .record till "h1" ⟨500, none⟩ opening, .purge .zero opening.nextDay]

theorem answers_outlive_opening :
    lookup ⟨.insert .empty till paid⟩ till = some paid ∧ paid.response = some ⟨201, none⟩ ∧
      (∀ asked now, .purge asked now ∈ nextOpening →
        paid.createdAt.nextDay.before now.withoutLeap = false) ∧
      ((after ⟨.insert .empty till paid⟩ nextOpening).reserve till "h1" opening.nextDay).1 =
          .replay ⟨201, none⟩ := by
  have hpaid : lookup ⟨.insert .empty till paid⟩ till = some paid := by decide
  have hpurges : ∀ asked now, .purge asked now ∈ nextOpening →
      paid.createdAt.nextDay.before now.withoutLeap = false := by
    intro asked now hop
    simp only [nextOpening, List.mem_cons, List.not_mem_nil, or_false, reduceCtorEq, false_or,
      Operation.purge.injEq] at hop
    rw [hop.2]
    decide
  exact ⟨hpaid, rfl, hpurges, (answers_outlive _).2 till paid _ hpaid rfl nextOpening hpurges
    opening.nextDay⟩

/-- A nanosecond later the record is gone. -/
example : (purge ⟨.insert .empty till paid⟩ .zero ⟨opening.nextDay.seconds, 1⟩).1 = 1 := by
  decide +kernel

end Guard

end Journal
