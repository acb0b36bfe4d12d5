import Journal.Proofs.Consumer.Cycle
import Journal.Proofs.Projection.Redelivery

/-!
# A projection for one organization

A tracker that is pinned to an organization refuses every event of another one, or of none, before
it looks at anything else about it. **What it makes of any deliveries is what a tracker without a
pin makes of those of the organization** (`unpinned_after`): a refusal leaves no trace, and for its
own events the pin does not matter.

**No consumer ever hands it an event that it would refuse** (`Pinned.of_reachable`). Its view asks
for the events of the organization, whatever other filters are put on it, and a page holds none but
what its filter accepts (`Paging.selects_of_mem`), so that nothing has to be known of the log, of
the checkpoint or of how the handler fails. What a consumer can hand over at all is read off its
programs (`Hands`).
-/

namespace Journal

variable {σ : Type}

/-! ## Deliveries of all organizations -/

namespace Tracker

variable {t : Tracker σ} {o : OrgId} {e : Envelope Json}

def unpinned (t : Tracker σ) : Tracker σ := { t with org := none }

theorem mismatch?_eq_none (horg : t.org = some o) (he : e.org = some o) : t.mismatch? e = none := by
  rw [mismatch?, horg]
  exact if_pos he

theorem deliver_foreign (horg : t.org = some o) (he : e.org ≠ some o) :
    t.deliver e = .error (.failed (.orgMismatch o e.org)) := by
  rw [deliver, mismatch?, horg]
  simp only [if_neg he]

theorem org_of_deliver {d : Delivery} {t' : Tracker σ} (h : t.deliver e = .ok (d, t')) :
    t'.org = t.org := by
  unfold deliver at h
  split at h
  · cases h
  · split at h
    · cases h
      rfl
    · cases hp : t.projection.apply e with
      | error stop =>
        rw [hp] at h
        cases h
      | ok projection =>
        rw [hp] at h
        cases h
        rfl

theorem org_receive (t : Tracker σ) (e : Envelope Json) : (t.receive e).org = t.org := by
  unfold receive
  cases h : t.deliver e with
  | error stop => rfl
  | ok dt => exact org_of_deliver h

theorem unpinned_receive (horg : t.org = some o) (he : e.org = some o) :
    (t.receive e).unpinned = t.unpinned.receive e := by
  have hours : t.unpinned.mismatch? e = none := rfl
  unfold receive deliver
  rw [mismatch?_eq_none horg he, hours]
  by_cases hle : e.id ≤ t.last
  · have hle' : e.id ≤ t.unpinned.last := hle
    simp only [if_pos hle, if_pos hle']
  · have hle' : ¬ e.id ≤ t.unpinned.last := hle
    have happly : t.unpinned.projection.apply e = t.projection.apply e := rfl
    simp only [if_neg hle, if_neg hle', happly]
    cases t.projection.apply e <;> rfl

theorem receive_foreign (horg : t.org = some o) (he : e.org ≠ some o) : t.receive e = t := by
  rw [receive, deliver_foreign horg he]

/-- **A pinned tracker makes of all deliveries what one without a pin makes of those of the
organization.** -/
theorem unpinned_after (horg : t.org = some o) (es : List (Envelope Json)) :
    (t.after es).unpinned = t.unpinned.after (es.filter fun e => e.org = some o) := by
  induction es generalizing t with
  | nil => rfl
  | cons e rest ih =>
    by_cases he : e.org = some o
    · have hfilter : (e :: rest).filter (fun e => e.org = some o) = e :: rest.filter fun e =>
          e.org = some o :=
        List.filter_cons_of_pos (decide_eq_true he)
      rw [hfilter, after_cons, after_cons, ih ((org_receive t e).trans horg),
        unpinned_receive horg he]
    · have hfilter : (e :: rest).filter (fun e => e.org = some o) = rest.filter fun e =>
          e.org = some o :=
        List.filter_cons_of_neg fun h => he (of_decide_eq_true h)
      rw [hfilter, after_cons, receive_foreign horg he, ih horg]

/-- A delivery that is not refused for its organization fails only as the registry does. -/
theorem apply_of_deliver_error (hours : t.mismatch? e = none) {stop : Stop ProjectionError}
    (h : t.deliver e = .error stop) :
    t.projection.registry.apply t.projection.state e = .error stop := by
  rw [deliver, hours] at h
  dsimp only at h
  split at h
  · cases h
  · rw [Projection.apply] at h
    split at h
    · cases h
    · cases happly : t.projection.registry.apply t.projection.state e with
      | ok s =>
        rw [happly] at h
        cases h
      | error stop' =>
        rw [happly] at h
        cases h
        rfl

end Tracker

/-! ## The view of a pinned tracker -/

namespace View

variable {v : View σ} {o : OrgId}

/-- The view asks for the events of the organization, and its tracker refuses all others. Either
would do by itself: the first spares reading what the second would refuse. -/
structure Pinned (o : OrgId) (v : View σ) : Prop where
  filter : v.filter.org = some o
  tracker : v.tracker.org = some o

theorem Pinned.make {tracker : Tracker σ} (h : tracker.org = some o) (name : String) :
    (make name tracker).Pinned o :=
  ⟨h, h⟩

theorem Pinned.withFilter (h : v.Pinned o) (f : Filter) : (v.withFilter f).Pinned o := by
  unfold View.withFilter
  rw [h.filter]
  exact ⟨rfl, h.tracker⟩

theorem Pinned.foldl (h : v.Pinned o) (filters : List Filter) :
    (filters.foldl View.withFilter v).Pinned o := by
  induction filters generalizing v with
  | nil => exact h
  | cons f rest ih => exact ih (h.withFilter f)

end View

/-! ## What is on a page -/

theorem Log.accepts_of_mem_page {l : Log} {a : Access} {e : Event} (h : e ∈ (l.page a).events) :
    a.accepts e = true := by
  have htake : (l.page a).events =
      (((l.toList.drop a.after).filter a.accepts).take (a.limit + 1)).take a.limit := by
    unfold Log.page Access.page
    dsimp only
    split
    · rfl
    · rfl
  rw [htake] at h
  exact (List.mem_filter.mp (List.mem_of_mem_take (List.mem_of_mem_take h))).2

theorem Paging.selects_of_mem {s : Store} {past : EventId} {limit : Option Nat} {f : Filter}
    {scope : Scope} {page : Page} (hread : s.read past limit f scope = .ok page) {e : Event}
    (he : e ∈ page.events) : f.selects scope s.policy e = true := by
  obtain ⟨hnone, rfl⟩ := page_of_read hread
  have haccepts := Log.accepts_of_mem_page he
  rw [Access.accepts_eq, Access.wants_of_refusal? hnone, Bool.and_eq_true] at haccepts
  exact haccepts.2

theorem Filter.org_of_selects {f : Filter} {scope : Scope} {p : Policy} {e : Event} {o : OrgId}
    (horg : f.org = some o) (h : f.selects scope p e = true) : e.org = some o := by
  simp only [selects, accepts, horg, Option.all_some, Bool.and_eq_true, beq_iff_eq] at h
  exact h.1.1.1.1

namespace Consumer

/-! ## What is handed over -/

section Hands

variable {η α β : Type} {c : Setting η} {good : Event → Prop} {p : Program calls α}

/-- However it is answered, the program hands over none but these events. -/
def Hands (c : Setting η) (good : Event → Prop) : Program calls α → Prop
  | .done _ => True
  -- The world may be any one, and another one at each question: what is on a page is a matter of
  -- the filter alone.
  | .ask q next =>
    (∀ e ∈ handedBy q [], good e) ∧ ∀ w r x, c.answers q w r x → Hands c good (next r)

theorem Hands.ask {q : calls.Ask} {next : calls.Answer q → Program calls α}
    (hq : handedBy q [] = []) (h : ∀ w r x, c.answers q w r x → Hands c good (next r)) :
    Hands c good (.ask q next) := by
  refine ⟨fun e he => ?_, h⟩
  rw [hq] at he
  exact absurd he List.not_mem_nil

theorem Hands.bind {f : α → Program calls β} (h : Hands c good p) (hf : ∀ a, Hands c good (f a)) :
    Hands c good (p.bind f) := by
  induction p with
  | done a => exact hf a
  | ask q next ih => exact ⟨h.1, fun w r x ha => ih r (h.2 w r x ha)⟩

theorem hands_applyAll (name : String) {events : List Event} (h : ∀ e ∈ events, good e) :
    Hands c good (applyAll name events) := by
  induction events with
  | nil => trivial
  | cons e rest ih =>
    refine ⟨fun d hd => ?_, fun w r x _ => ?_⟩
    · rw [List.mem_singleton.mp hd]
      exact h e List.mem_cons_self
    · rcases r with stop | _
      · rcases stop with reason | _
        · trivial
        · trivial
      · exact ih fun d hd => h d (List.mem_cons_of_mem _ hd)

theorem hands_settle (name : String) (position : EventId) (page : Page) :
    Hands c good (settle name position page) := by
  unfold settle
  split
  · refine .ask rfl fun w r x _ => ?_
    split
    · refine .ask rfl fun w r x _ => ?_
      rcases r with e | _
      · trivial
      · trivial
    · refine .ask rfl fun w r x _ => ?_
      rcases r with stop | _
      · rcases stop with reason | _
        · trivial
        · trivial
      · refine .ask rfl fun w r x _ => ?_
        rcases r with e | _
        · trivial
        · trivial
  · trivial

/-- A cycle hands over what is on a page that was read with the consumer's own filter. -/
theorem hands_cycle (h : ∀ (s : Store) past limit page,
      s.read past limit c.filter c.scope = .ok page →
    ∀ e ∈ page.events, good e) (name : String) (batchSize : Nat) : Hands c good
        (cycle name batchSize) := by
  refine .ask rfl fun _ _ _ _ => .ask rfl fun _ r _ _ => ?_
  rcases r with e | position
  · trivial
  · refine .ask rfl fun _ f _ hf => ?_
    obtain rfl : f = c.filter := hf.2
    refine .ask rfl fun w r _ hr => ?_
    rcases r with e | page
    · trivial
    · refine .ask rfl fun _ _ _ _ => ?_
      refine (hands_applyAll name (h _ _ _ _ (hr.2 page rfl))).bind fun a => ?_
      rcases a with stop | _
      · trivial
      · exact hands_settle name position page

theorem hands_resetAndClear (name : String) : Hands c good (resetAndClear name) := by
  refine .ask rfl fun _ r _ _ => ?_
  rcases r with e | _
  · trivial
  · refine .ask rfl fun _ r _ _ => ?_
    rcases r with stop | _
    · rcases stop with reason | _
      · trivial
      · trivial
    · trivial

theorem hands_exclusively {body : Program calls (Attempt ConsumerError α)} (h : Hands c good body) :
    Hands c good (exclusively body) := by
  have hrelease : ∀ r : Attempt ConsumerError α, Hands c good (.ask .release fun _ => .done r) :=
    fun r => .ask rfl fun _ _ _ _ => trivial
  refine .ask rfl fun _ _ _ _ => h.bind fun r => ?_
  rcases r with stop | _
  · rcases stop with reason | _
    · exact .ask rfl fun _ _ _ _ => hrelease _
    · exact hrelease _
  · exact .ask rfl fun _ _ _ _ => hrelease _

theorem hands_program (h : ∀ (s : Store) past limit page,
      s.read past limit c.filter c.scope = .ok page →
    ∀ e ∈ page.events, good e) (t : Task) : Hands c good (c.program t) := by
  cases t with
  | cycle => exact (hands_exclusively (hands_cycle h _ _)).bind fun _ => trivial
  | rebuild =>
    exact (hands_exclusively (.ask rfl fun _ _ _ _ => hands_resetAndClear _)).bind fun _ => trivial

end Hands

/-! ## Every run -/

variable {v : View σ} {batchSize : Nat} {scope : Scope} {o : OrgId}

theorem org_told (w : World (View σ)) (d : Deed) (v : View σ) (r : Attempt String Unit) :
    (w.told d v r).handler.tracker.org = v.tracker.org := by
  rw [World.told_handler]

theorem org_of_answers {q : Ask} {r : calls.Answer q} {w x : World (View σ)}
    (h : (v.setting batchSize scope).answers q w r x) :
    x.handler.tracker.org = w.handler.tracker.org := by
  cases q with
  | acquire | release | enter =>
    obtain rfl : x = w := h
    rfl
  | position | filter | read =>
    obtain rfl : x = w := h.1
    rfl
  | apply e =>
    obtain ⟨v', happly, rfl⟩ := h
    refine (org_told _ _ _ _).trans ?_
    rcases View.Reported.apply_cases happly with ⟨_, poisoned, rfl⟩ | ⟨d, t, hd, rfl⟩
    · rfl
    · exact Tracker.org_of_deliver hd
  | flush =>
    obtain ⟨v', hflush, rfl⟩ := h
    refine (org_told _ _ _ _).trans ?_
    rw [View.Reported.flush_eq hflush]
  | clear =>
    obtain ⟨v', hclear, rfl⟩ := h
    refine (org_told _ _ _ _).trans ?_
    rcases View.Reported.clear_cases hclear with rfl | rfl
    · rfl
    · rfl
  | advance p =>
    rcases h with ⟨e, _, rfl⟩ | ⟨now, cs, _, rfl⟩
    · rfl
    · rfl
  | reset =>
    rcases h with ⟨e, _, rfl⟩ | ⟨now, rfl⟩
    · rfl
    · rfl

structure Moment.Pinned (o : OrgId) (c : Setting (View σ)) (s : Moment (View σ)) : Prop where
  tracker : s.world.handler.tracker.org = some o
  task : ∀ t p, s.task = some (t, p) → Hands c (fun e => e.org = some o) p

namespace Moment.Pinned

variable {start : World (View σ)} {s s' : Moment (View σ)}

theorem step (hv : v.Pinned o) (h : s.Pinned o (v.setting batchSize scope))
    (hstep : (v.setting batchSize scope).Step s s') : s'.Pinned o (v.setting batchSize scope) := by
  cases hstep with
  | others hd =>
    refine ⟨?_, h.task⟩
    rw [handler_of_drift hd]
    exact h.tracker
  | begin t =>
    refine ⟨h.tracker, fun t' p hp => ?_⟩
    cases hp
    refine hands_program (fun s past limit page hread e he => ?_) t
    -- The consumer's filter is the view's, and that one asks for the organization.
    exact Filter.org_of_selects hv.filter (Paging.selects_of_mem hread he)
  | answer ha =>
    refine ⟨(org_of_answers ha).trans h.tracker, fun t p hp => ?_⟩
    cases hp
    exact (h.task _ _ rfl).2 _ _ _ ha
  | finish => exact ⟨h.tracker, nofun⟩
  | crash hrestart =>
    refine ⟨?_, nofun⟩
    rw [show _ = _ from hrestart]
    exact h.tracker

theorem of_reachable (hv : v.Pinned o) (horg : start.handler.tracker.org = some o)
    (h : (v.setting batchSize scope).Reachable start s) : s.Pinned o
    (v.setting batchSize scope) := by
  induction h with
  | start => exact ⟨horg, nofun⟩
  | step _ hstep ih => exact ih.step hv hstep

end Moment.Pinned

end Consumer

open Consumer

/-- **A projection that is pinned to an organization depends on nothing else**: whatever is
delivered to it, it is as if only the events of the organization had been; and a consumer, whatever
its filters, its scope and the log, hands it none that it refuses for its organization, so that what
fails is a handler. -/
theorem pinned_depends (o : OrgId) :
    (∀ (p : Projection σ) (es : List (Envelope Json)),
      let alone := (Tracker.start p none).after (es.filter fun e => e.org = some o)
      ((Tracker.start p (some o)).after es).projection = alone.projection ∧
        ((Tracker.start p (some o)).after es).last = alone.last) ∧
    ∀ (name : String) (tracker : Tracker σ), tracker.org = some o →
      ∀ (filters : List Filter) (start : World (View σ)),
      start.handler = filters.foldl View.withFilter (View.make name tracker) →
      ∀ batchSize scope s, (start.handler.setting batchSize scope).Reachable start s →
      ∀ t e next, s.task = some (t, .ask (.apply e) next) →
        e.org = some o ∧ s.world.handler.tracker.mismatch? e.envelope = none ∧
        ∀ stop, s.world.handler.tracker.deliver e.envelope = .error stop →
          s.world.handler.tracker.projection.registry.apply
          s.world.handler.tracker.projection.state e.envelope =
            .error stop := by
  refine ⟨fun p es => ?_, fun name tracker horg filters start hstart batchSize scope s hs t e
    next htask => ?_⟩
  · have hafter := Tracker.unpinned_after (t := Tracker.start p (some o)) rfl es
    have hprojection := congrArg Tracker.projection hafter
    have hlast := congrArg Tracker.last hafter
    exact ⟨hprojection, hlast⟩
  · have hview : start.handler.Pinned o := hstart ▸ (View.Pinned.make horg name).foldl filters
    have hpinned : s.Pinned o (start.handler.setting batchSize scope) :=
      .of_reachable hview hview.tracker hs
    have horg' : e.org = some o := (hpinned.task t _ htask).1 e (List.mem_singleton_self e)
    have hours : s.world.handler.tracker.mismatch? e.envelope = none :=
      Tracker.mismatch?_eq_none hpinned.tracker horg'
    exact ⟨horg', hours, fun stop hstop => Tracker.apply_of_deliver_error hours hstop⟩

namespace Sample

def branch : OrgId := ⟨.timeOrdered 0 0 8⟩

def narrow : View Nat :=
  [⟨some branch, none, none, none⟩, ⟨none, none, none, some "ledger.posted"⟩].foldl View.withFilter
    (View.make "postings" (.start (.start counting 0) (some org)))

def counter : Setting (View Nat) := narrow.setting 1 .internal

def office : World (View Nat) := ⟨(Store.empty .standard).after quarter, .empty, narrow, []⟩

def first : Event := .ofDraft 1 account 1 posting

/-- In its first cycle the view is about to be given the first event. -/
theorem reachable_first :
    ∃ next, counter.Reachable office ⟨office, some (.cycle, .ask (.apply first) next)⟩ := by
  have hread : office.store.read 0 (some 1) narrow.filter .internal = .ok ⟨[first], 1, true⟩ := by
    decide +kernel
  have hbegin : counter.Reachable office ⟨office, some (.cycle, counter.program .cycle)⟩ :=
    Setting.Reachable.start.step (.begin .cycle)
  have hacquired := hbegin.answered (q := .acquire) (r := ()) rfl
  have hfetching := hacquired.answered (q := .enter .fetching) (r := ()) rfl
  have hposition := hfetching.answered (q := .position) (r := .ok 0) ⟨rfl, fun p hp =>
    (Except.ok.inj hp).symm⟩
  have hfilter := hposition.answered (q := .filter) (r := narrow.filter) ⟨rfl, rfl⟩
  have hpage := hfilter.answered (q := .read 0 1 narrow.filter) (r := .ok ⟨[first], 1, true⟩)
    ⟨rfl, fun page hpage => Except.ok.inj hpage ▸ hread⟩
  have happlying := hpage.answered (q := .enter .applying) (r := ()) rfl
  exact ⟨_, happlying⟩

end Sample

theorem pinned_depends_first :
    (Tracker.start (.start counting 0) (some Sample.org)).org = some Sample.org ∧
    Sample.office.handler =
      [⟨some Sample.branch, none, none, none⟩, ⟨none, none, none, some "ledger.posted"⟩].foldl
      View.withFilter
        (View.make "postings" (.start (.start counting 0) (some Sample.org))) ∧
    ∃ next, Sample.counter.Reachable Sample.office ⟨Sample.office,
      some (.cycle, .ask (.apply Sample.first) next)⟩ ∧
      Sample.first.org = some Sample.org ∧
      Sample.office.handler.tracker.mismatch? Sample.first.envelope = none := by
  obtain ⟨next, hreach⟩ := Sample.reachable_first
  obtain ⟨horg, hours, _⟩ :=
    (pinned_depends Sample.org).2 "postings" (.start (.start counting 0) (some Sample.org)) rfl
    _ Sample.office rfl 1 .internal _ hreach .cycle Sample.first next rfl
  exact ⟨rfl, rfl, next, hreach, horg, hours⟩

end Journal
