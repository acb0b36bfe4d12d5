import Journal.Projection.View
import Journal.Proofs.Consumer.Outline
import Journal.Proofs.Projection.Fold

/-!
# Incremental processing is a replay

A projection that is kept up to date by a consumer goes through a lot: pages that end in the middle,
applications that fail or only seem to fail, checkpoints that are not written, processes that end,
rebuilds that end half-way. Three positions move by themselves in all this, the checkpoint, the
tracker's and the projection's watermark.

**None of it can be seen in the state**: at every moment it is the fold over the selected events up
to the watermark, and when nothing selected is left beyond the checkpoint it is the state of a
projection that replays the log from its start. The outline is short, because for this purpose an
event is taken as soon as the watermark has reached it and nothing is to be flushed.
-/

namespace Journal

open Consumer

variable {σ : Type}

namespace View

/-- Code around a view may report a failure, whether the view did what was asked or was never
asked. -/
def Reported (act : View σ → Attempt String Unit × View σ) (v : View σ) (r : Attempt String Unit)
    (v' : View σ) : Prop :=
  (r, v') = act v ∨ (∃ stop, r = .error stop) ∧ (v' = v ∨ v' = (act v).2)

/-- A view that outlives the process, as a handler. What it has folded is still there after a
restart, which is what the watermark is for: the checkpoint may be behind it. -/
def behaviour : Behaviour (View σ) where
  apply e := Reported (·.apply e)
  flush := Reported flush
  clear := Reported clear
  restart v v' := v' = v

def setting (v : View σ) (batchSize : Nat) (scope : Scope) : Setting (View σ) :=
  ⟨v.name, batchSize, v.filter, scope, behaviour⟩

def service : Service (View σ) where
  apply e v := v.apply e
  flush := flush
  clear := clear

theorem obeys_service : (service : Service (View σ)).Obeys behaviour :=
  ⟨fun _ _ => Or.inl rfl, fun _ => Or.inl rfl, fun _ => Or.inl rfl⟩

def fresh (name : String) (r : Registry σ) (init : σ) (org : Option OrgId) (f : Filter) : View σ :=
  (make name (.start (.start r init) org)).withFilter f

theorem tracker_fresh (name : String) (r : Registry σ) (init : σ) (org : Option OrgId)
    (f : Filter) :
    (fresh name r init org f).tracker = .start (.start r init) org := by
  unfold fresh withFilter
  split
  · rfl
  · rfl

/-! ## What can become of a view -/

theorem apply_cases (v : View σ) (e : Event) :
    ((∃ stop, (v.apply e).1 = .error stop) ∧ ∃ poisoned, (v.apply e).2 = { v with poisoned }) ∨
    ∃ d t, v.tracker.deliver e.envelope = .ok (d, t) ∧
    v.apply e = (.ok (), { v with tracker := t }) := by
  unfold apply
  split
  · exact Or.inl ⟨⟨_, rfl⟩, v.poisoned, rfl⟩
  · cases hd : v.tracker.deliver e.envelope with
    | ok dt =>
      obtain ⟨d, t⟩ := dt
      exact Or.inr ⟨d, t, rfl, rfl⟩
    | error stop =>
      rcases stop with error | _
      · exact Or.inl ⟨⟨_, rfl⟩, v.poisoned, rfl⟩
      · exact Or.inl ⟨⟨_, rfl⟩, true, rfl⟩

variable {v v' : View σ} {r : Attempt String Unit}

theorem Reported.apply_cases {e : Event} (h : Reported (·.apply e) v r v') :
    ((∃ stop, r = .error stop) ∧ ∃ poisoned, v' = { v with poisoned }) ∨
    ∃ d t, v.tracker.deliver e.envelope = .ok (d, t) ∧ v' = { v with tracker := t } := by
  rcases v.apply_cases e with ⟨⟨stop, hstop⟩, poisoned, hv⟩ | ⟨d, t, hd, hv⟩
  · rcases h with h | ⟨hr, rfl | rfl⟩
    · exact Or.inl ⟨⟨stop, (congrArg Prod.fst h).trans hstop⟩, poisoned,
        (congrArg Prod.snd h).trans hv⟩
    · exact Or.inl ⟨hr, v'.poisoned, rfl⟩
    · exact Or.inl ⟨hr, poisoned, hv⟩
  · rcases h with h | ⟨hr, rfl | rfl⟩
    · exact Or.inr ⟨d, t, hd, congrArg Prod.snd (h.trans hv)⟩
    · exact Or.inl ⟨hr, v'.poisoned, rfl⟩
    · exact Or.inr ⟨d, t, hd, congrArg Prod.snd hv⟩

theorem Reported.flush_eq (h : Reported flush v r v') : v' = v := by
  rcases h with h | ⟨_, h | h⟩
  · exact congrArg Prod.snd h
  · exact h
  · exact h

theorem Reported.clear_cases (h : Reported clear v r v') :
    v' = v ∨ v' = { v with tracker := v.tracker.reset } := by
  have hclear : v.clear.2 = v ∨ v.clear.2 = { v with tracker := v.tracker.reset } := by
    unfold clear
    split
    · exact Or.inl rfl
    · exact Or.inr rfl
  rcases h with h | ⟨_, rfl | rfl⟩
  · have hv : v' = v.clear.2 := congrArg Prod.snd h
    rw [hv]
    exact hclear
  · exact Or.inl rfl
  · exact hclear

end View

namespace Consumer

variable {c : Setting (View σ)} {r : Registry σ} {init : σ} {w x : World (View σ)}

/-! ## The outline -/

/-- The view asks for what the consumer was set up with, and its tracker follows the log. -/
structure World.Folds (c : Setting (View σ)) (r : Registry σ) (init : σ)
    (w : World (View σ)) : Prop where
  name : w.handler.name = c.name
  filter : w.handler.filter = c.filter
  tracker : w.handler.tracker.Follows r init w.store.log (w.selects c) (w.position c)

namespace World.Folds

theorem drift (h : w.Folds c r init) (hs : w.Sound c) (hd : c.drift w x) : x.Folds c r init := by
  refine ⟨?_, ?_, ?_⟩
  · rw [handler_of_drift hd]
    exact h.name
  · rw [handler_of_drift hd]
    exact h.filter
  · rw [handler_of_drift hd, selects_of_drift hd, position_of_drift hd]
    exact h.tracker.grow (hs.drift hd).ordered (prefix_of_drift hd) hs.position_le

theorem told (h : w.Folds c r init) (d : Deed) (a : Attempt String Unit) {v : View σ}
    (hname : v.name = w.handler.name) (hfilter : v.filter = w.handler.filter)
    (htracker : v.tracker.Follows r init w.store.log (w.selects c) (w.position c)) :
    (w.told d v a).Folds c r init := by
  refine ⟨?_, ?_, ?_⟩
  · rw [told_handler]
    exact hname.trans h.name
  · rw [told_handler]
    exact hfilter.trans h.filter
  · rw [told_handler, told_store, position_told, selects, told_store]
    exact htracker

end World.Folds

/-- An event is taken, and kept, as soon as the watermark has reached it. -/
def foldOutline (v : View σ) (batchSize : Nat) (scope : Scope) (r : Registry σ) (init : σ) :
    Outline (v.setting batchSize scope) where
  inv w := w.Folds (v.setting batchSize scope) r init
  taken e w := e.id ≤ w.handler.tracker.projection.watermark
  kept e w := e.id ≤ w.handler.tracker.projection.watermark
  inv_drift hs hd h := h.drift hs hd
  taken_drift hd h := by
    rw [handler_of_drift hd]
    exact h
  kept_drift hd h := by
    rw [handler_of_drift hd]
    exact h
  applied := by
    intro w e a v' hs h hdue happly
    rw [World.told_handler]
    rcases View.Reported.apply_cases happly with ⟨⟨stop, hstop⟩, poisoned, rfl⟩ | ⟨d, t, hd, rfl⟩
    · refine ⟨h.told _ _ rfl rfl h.tracker, fun d hd => hd, fun hok => ?_⟩
      rw [hstop] at hok
      cases hok
    · -- What was not taken on the way to this event the checkpoint has passed.
      have hbefore : ∀ d ∈ w.store.log.toList,
          w.selects (v.setting batchSize scope) d = true → d.id < e.id →
            d.id ≤ w.handler.tracker.projection.watermark := by
        intro d hd hsel hlt
        rcases Nat.lt_or_ge (w.position (v.setting batchSize scope)) d.id with hpast | hpassed
        · exact hdue.before d hd hsel hpast hlt
        · exact h.tracker.passed d hd hsel hpassed
      obtain ⟨hfollows, hmono, hreached⟩ :=
        h.tracker.deliver hs.ordered hdue.mem hdue.selected hbefore hd
      exact ⟨h.told _ _ rfl rfl hfollows, fun d hd => Nat.le_trans hd hmono, fun _ => hreached⟩
  flushed := by
    intro w a v' _ h hflush
    obtain rfl := View.Reported.flush_eq hflush
    refine ⟨h.told _ _ rfl rfl h.tracker, fun _ e he => ?_⟩
    rw [World.told_handler]
    exact he
  advanced := by
    intro w cs p _ h _ hkept hcs
    refine ⟨h.name, h.filter, ?_⟩
    show w.handler.tracker.Follows r init w.store.log (w.selects _) (cs.positionOf _)
    rw [hcs]
    exact h.tracker.settle hkept
  -- The view keeps what it has when the checkpoint is reset, and will pass over all of it when it
  -- comes again.
  reset := by
    intro w cs hs h hcs
    refine ⟨h.name, h.filter, ?_⟩
    show w.handler.tracker.Follows r init w.store.log (w.selects _) (cs.positionOf _)
    rw [hcs]
    refine h.tracker.settle fun e he _ _ hle => ?_
    exact absurd (Nat.le_trans (hs.ordered.id_bounds he).1 hle) (Nat.not_succ_le_zero 0)
  cleared := by
    intro w a v' _ h hzero hclear
    rcases View.Reported.clear_cases hclear with rfl | rfl
    · exact h.told _ _ rfl rfl h.tracker
    · refine h.told _ _ rfl rfl ?_
      rw [hzero]
      exact h.tracker.reset
  restarted := by
    intro w v' _ h hrestart
    obtain rfl : v' = w.handler := hrestart
    exact h

/-! ## Every run -/

/-- What the projection of a consumer is at a moment of a run. -/
structure Faithful (c : Setting (View σ)) (r : Registry σ) (init : σ)
    (w : World (View σ)) : Prop where
  /-- Its state is the fold over the selected events up to its watermark, -/
  folded : r.fold init ((w.store.log.between 0 w.handler.tracker.projection.watermark).filter
    (w.selects c)) = .ok w.handler.tracker.projection.state
  /-- in the order of the log and each event once. -/
  ascending : ((w.store.log.between 0 w.handler.tracker.projection.watermark).filter
    (w.selects c)).Pairwise fun d e => d.id < e.id
  /-- What the checkpoint has passed the watermark has passed. -/
  passed : ∀ e ∈ w.store.log.toList, w.selects c e = true → e.id ≤ w.position c →
    e.id ≤ w.handler.tracker.projection.watermark
  /-- When the consumer has caught up, a replay of the log from its start is possible and gives the
  same state. -/
  replayed : (∀ e ∈ w.store.log.toList, w.selects c e = true → e.id ≤ w.position c) →
    ∃ t, Tracker.rebuild (.start r init)
    ((w.store.log.toList.filter (w.selects c)).map Event.envelope) = .ok t ∧
      t.projection.state = w.handler.tracker.projection.state

theorem World.Folds.faithful (h : w.Folds c r init) (hs : w.Sound c) : Faithful c r init w where
  folded := h.tracker.folded
  ascending := (Log.pairwise_between hs.ordered _ _).filter _
  passed := h.tracker.passed
  replayed hall := h.tracker.rebuild hs.ordered fun e he hsel =>
    h.tracker.passed e he hsel (hall e he hsel)

/-- **Incremental processing with crashes equals a replay**, for every registry, initial state,
filter, scope and batch size, and every run of a view that starts fresh. A failure that is reported
although the event was folded does not matter, since the watermark and not the report says what is
in the state. -/
theorem faithful_of_reachable {name : String} {r : Registry σ} {init : σ} {org : Option OrgId}
    {f : Filter} {start : World (View σ)} (hview : start.handler = View.fresh name r init org f)
    {batchSize : Nat} {scope : Scope} (fresh : start.Fresh (start.handler.setting batchSize scope))
    {s : Moment (View σ)} (h : (start.handler.setting batchSize scope).Reachable start s) :
    Faithful (start.handler.setting batchSize scope) r init s.world := by
  have hfolds : start.Folds (start.handler.setting batchSize scope) r init := by
    refine ⟨rfl, rfl, ?_⟩
    rw [fresh.position, hview, View.tracker_fresh]
    exact Tracker.Follows.start r init _ _ org
  have hholds : (foldOutline start.handler batchSize scope r init).Holds s :=
    Outline.holds_of_reachable fresh.sound hfolds h
  exact hholds.world.2.faithful hholds.world.1

def counting : Registry Nat := ⟨Keyed.empty.insert ("ledger.posted", 1) fun n _ => .ok (n + 1), []⟩

def opening : World (View Nat) :=
  ⟨(Store.empty .standard).after Sample.quarter, .empty, View.fresh "postings" counting 0 none .all,
    []⟩

def counter : Setting (View Nat) := opening.handler.setting 3 .internal

/-- The second posting is counted and reported as a failure. -/
def flickering : Service (View Nat) where
  apply e v := if e.id = 2 then (.error (.failed "crash"), (v.apply e).2) else v.apply e
  flush := View.flush
  clear := View.clear

theorem obeys_flickering : flickering.Obeys counter.handler := by
  refine ⟨fun e v => ?_, fun _ => Or.inl rfl, fun _ => Or.inl rfl⟩
  unfold flickering
  dsimp only
  split
  · exact Or.inr ⟨⟨_, rfl⟩, Or.inr rfl⟩
  · exact Or.inl rfl

def recess : World (View Nat) := counter.outcome flickering Sample.noon .cycle opening

def closing : World (View Nat) :=
  counter.outcome View.service Sample.noon .cycle
    (counter.outcome View.service Sample.noon .cycle recess)

/-- At the end of the quarter all four postings are counted, once each. In between the process
crashed, and two more cycles followed. -/
theorem faithful_closing :
    opening.handler = View.fresh "postings" counting 0 none .all ∧ opening.Fresh counter ∧
      counter.Reachable opening ⟨closing, none⟩ ∧
      (recess.handler.tracker.projection.state = 2 ∧ recess.position counter = 0) ∧
      (closing.handler.tracker.projection.state = 4 ∧ closing.position counter = 4) ∧
      Faithful counter counting 0 closing := by
  have hview : opening.handler = View.fresh "postings" counting 0 none .all := rfl
  have hfresh : opening.Fresh counter := ⟨⟨.standard, Sample.quarter, rfl⟩, rfl, rfl⟩
  have hrecess : counter.Reachable opening ⟨recess, none⟩ :=
    .run obeys_flickering Sample.noon .cycle .start
  have hcrash : counter.Reachable opening ⟨recess, none⟩ := hrecess.step (.crash rfl)
  have hservice : View.service.Obeys counter.handler := View.obeys_service
  have hclosing : counter.Reachable opening ⟨closing, none⟩ :=
    .run hservice Sample.noon .cycle (.run hservice Sample.noon .cycle hcrash)
  refine ⟨hview, hfresh, hclosing, ⟨?_, ?_⟩, ⟨?_, ?_⟩, faithful_of_reachable hview hfresh hclosing⟩
  · decide +kernel
  · decide +kernel
  · decide +kernel
  · decide +kernel

end Consumer

end Journal
