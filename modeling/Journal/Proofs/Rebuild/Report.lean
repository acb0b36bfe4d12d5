import Journal.Proofs.Rebuild.Scene

/-!
# What a rebuild says of itself

Whoever waits for a rebuild sees only its status. **What the status says is true in every scene**
(`told_of_reachable`). A rebuild that says it is complete has had every event up to its target
applied since it cleared the consumer, whether by its own cycles or by those of others, and
whichever of the two conditions made it stop. What it says to have processed are the events of the
cycles that ended well: in a cycle that fails, events are handed over that nobody counts.
-/

namespace Journal

namespace Rebuild

variable {η : Type} {c : Consumer.Setting η} {s : Course η} {deeds : List Consumer.Deed}
  {w : Consumer.World η}

/-! ## Rebuilds that nobody disturbs -/

/-- Answer a task as a consumer and a store do that can be reached, and note what is handed over. -/
def serveTask (c : Consumer.Setting η) (v : Consumer.Service η) (now : Instant) (q : Consumer.Ask)
    (d : Consumer.Desk η) : Consumer.calls.Answer q × Consumer.Desk η :=
  ((c.serve v now q d.world).1, ⟨(c.serve v now q d.world).2, Consumer.handedBy q d.handed⟩)

namespace Course

def attend (c : Consumer.Setting η) (v : Consumer.Service η) (now : Instant) {q : Ask}
    (task : Program Consumer.calls (calls.Answer q)) (handed : List Event) (s : Course η) :
    calls.Answer q × Course η :=
  let (r, d) := task.run (serveTask c v now) ⟨s.world, handed⟩
  (r, finished { s with world := d.world } q r d.handed)

def look (s : Course η) : Except StoreError EventId × Course η :=
  match s.world.store.head with
  | .ok target => (.ok target, { s with looked := some s.world })
  | .error e => (.error e, s)

theorem answers_look (s : Course η) : s.answers .head s.look.1 s.look.2 := by
  unfold look
  split
  · next target hhead => exact Or.inr ⟨target, hhead, rfl, rfl⟩
  · next e _ => exact Or.inl ⟨e, rfl, rfl⟩

def serve (c : Consumer.Setting η) (v : Consumer.Service η) (now : Instant) :
    (q : Ask) → Course η → calls.Answer q × Course η
  | .reset, s => s.attend c v now (Consumer.rebuild c.name : Program _ (calls.Answer .reset)) []
  | .cycle, s =>
    s.attend c v now (Consumer.runOnce c.name c.batchSize : Program _ (calls.Answer .cycle)) []
  | .head, s => s.look
  | .cancelled, s => (s.isCancelled, s)
  | .publish st, s => ((), s.publish st)

end Course

namespace Scene

variable {start : Scene η} {v : Consumer.Service η} {q : Ask}
  {next : calls.Answer q → Program calls Unit}
  {task : Program Consumer.calls (calls.Answer q)} {handed : List Event}

theorem Reachable.attended (hv : v.Obeys c.handler) (now : Instant)
    (h : Scene.Reachable c start ⟨s, .within q next task handed⟩) :
    Scene.Reachable c start ⟨(s.attend c v now task handed).2,
      .apart none (next (s.attend c v now task handed).1)⟩ := by
  induction task generalizing s handed with
  | done r => exact h.step .finish
  | ask q' next' ih =>
    exact ih _ (h.step (.work (Consumer.Setting.answers_serve hv now q' s.world)))

/-- A rebuild that is answered all its questions comes to its end. -/
theorem Reachable.undisturbed (hv : v.Obeys c.handler) (now : Instant) {p : Program calls Unit}
    (h : Scene.Reachable c start ⟨s, .apart none p⟩) :
    Scene.Reachable c start ⟨(p.run (Course.serve c v now) s).2, .apart none (.done ())⟩ := by
  induction p generalizing s with
  | done a => exact h
  | ask q next ih =>
    refine ih _ ?_
    cases q with
    | reset => exact (h.step (.begin rfl)).attended hv now
    | cycle => exact (h.step (.begin rfl)).attended hv now
    | head => exact h.step (.reply s.answers_look)
    | cancelled => exact h.step (.reply ⟨rfl, rfl⟩)
    | publish st => exact h.step (.reply rfl)

def outcome (c : Consumer.Setting η) (v : Consumer.Service η) (now : Instant) (rounds : Nat)
    (w : Consumer.World η) :
    Scene η :=
  ⟨((program rounds c.name).run (Course.serve c v now) (Scene.start c rounds w none).course).2,
    .apart none (.done ())⟩

end Scene

/-! ## What a rebuild says of itself -/

def handedIn : List Lap → Nat
  | [] => 0
  | lap :: laps => lap.handed.length + handedIn laps

theorem countOf_eq_handedIn {laps : List Lap} (h : ∀ lap ∈ laps, lap.EndedWell) :
    countOf laps = handedIn laps := by
  induction laps with
  | nil => rfl
  | cons lap laps ih =>
    obtain ⟨⟨progress, hresult⟩, hrest⟩ := List.forall_mem_cons.mp h
    obtain ⟨handed, result⟩ := lap
    dsimp only at hresult
    subst hresult
    rw [countOf, handedIn, ih hrest]

/-- What can be relied on at a moment of a rebuild that began after these deeds. -/
structure Told (c : Consumer.Setting η) (deeds : List Consumer.Deed) (s : Scene η) : Prop where
  /-- Whatever happens next, the phase stays or moves as it should. -/
  phase : ∀ s', Scene.Step c s s' → s.course.Moved s'.course
  isComplete : s.course.status.isComplete = true ↔ s.course.status.phase = .complete ∨
    s.course.status.phase = .cancelled ∨ s.course.status.phase = .failed
  /-- The head of the log as it was told after the consumer was cleared. -/
  target : s.course.Targeted c deeds
  /-- The consumer was cleared since the rebuild began, and all up to the target was applied after
  every clear there was. -/
  complete : s.course.status.phase = .complete → s.course.status.target ≤ s.course.status.position ∧
    Consumer.ClearedSince deeds s.course.world ∧
      ∀ e ∈ s.course.world.store.log.toList, s.course.world.selects c e = true →
      e.id ≤ s.course.status.target →
        ∀ since before, s.course.world.deeds = since ++ .cleared :: before → .applied e ∈ since
  /-- What was handed over in the cycles that ended well; the last one may still be unreported. -/
  processed : s.course.status.processed = countOf s.course.reported
  reported : s.course.ended = s.course.reported ∨
    s.course.status.phase = .replaying ∧ ∃ lap, s.course.ended = lap :: s.course.reported
  /-- Unless the rebuild failed, that is all that was handed over in the cycles that are
  reported. -/
  everyLap : s.course.status.phase ≠ .failed →
    s.course.status.processed = handedIn s.course.reported
  matching : s.course.isVisited = false → s.course.status.processed =
    ((s.course.world.store.log.between 0 s.course.status.position).filter
      (s.course.world.selects c)).length
  cancelled : s.course.status.phase = .cancelled → s.course.isVisited = false →
    s.course.world.position c = s.course.status.position

theorem Phase.isOver_iff {p : Phase} : p.isOver = true ↔ p = .complete ∨ p = .cancelled ∨
    p = .failed := by
  cases p <;> simp [isOver]

theorem Course.Stands.applied (h : s.Stands c deeds) (delivered : s.world.Delivered c)
    (complete : s.status.phase = .complete) {e : Event} (he : e ∈ s.world.store.log.toList)
    (hsel : s.world.selects c e = true) (hle : e.id ≤ s.status.target)
    {since before : List Consumer.Deed} (hdeeds : s.world.deeds = since ++ .cleared :: before) :
    .applied e ∈ since := by
  obtain ⟨htarget, hposition, _⟩ := h.complete complete
  have hpassed : e.id ≤ s.world.position c := Nat.le_trans hle (Nat.le_trans htarget hposition)
  have happlied := (delivered.acknowledged e he hsel hpassed).applied
  rw [hdeeds] at happlied
  exact happlied.mem_since

/-- **What a rebuild says of itself is true**, for every handler, filter, scope and batch size, at
whatever moment of a consumer's life it is started, and whatever the others do: they write to the
log, make cycles of the consumer, and ask the rebuild to give up. -/
theorem told_of_reachable {dawn : Consumer.World η} (fresh : dawn.Fresh c)
    (visitor : Option (Program Consumer.calls Unit))
    (run : c.Reachable dawn ⟨w, visitor.map (Consumer.Task.cycle, ·)⟩) (rounds : Nat) {s : Scene η}
    (h : Scene.Reachable c (.start c rounds w visitor) s) : Told c w.deeds s := by
  have hknows := Scene.knows_of_reachable (Scene.knows_start fresh run rounds) h
  have hstands : s.course.Stands c w.deeds := hknows.stands
  exact {
    phase := fun s' hstep => (hstep.knows hknows).2
    isComplete := by
      rw [hstands.isComplete]
      exact Phase.isOver_iff
    target := hstands.targeted
    complete := fun hphase => ⟨(hstands.complete hphase).1, (hstands.complete hphase).2.2,
      fun _ he hsel hle _ _ hdeeds => hstands.applied hknows.delivered.2 hphase he hsel hle hdeeds⟩
    processed := hstands.accounts.counted
    reported := hstands.laps
    everyLap := fun hphase => hstands.accounts.counted.trans
      (countOf_eq_handedIn (hstands.endedWell hphase))
    matching := hstands.accounts.matching
    cancelled := hstands.cancelled }

section

open Consumer (bookkeeper morning evening willing)

theorem obeys_bookkeeper (v : Consumer.Service Unit) : v.Obeys bookkeeper.handler :=
  ⟨fun _ _ => trivial, fun _ => trivial, fun _ => trivial⟩

theorem fresh_morning : morning.Fresh bookkeeper := ⟨⟨.standard, Sample.quarter, rfl⟩, rfl, rfl⟩

theorem reachable_evening : bookkeeper.Reachable morning ⟨evening, none⟩ :=
  Consumer.Setting.Reachable.run (obeys_bookkeeper willing) Sample.noon .cycle .start

theorem reachable_outcome (v : Consumer.Service Unit) (rounds : Nat) :
    Scene.Reachable bookkeeper (.start bookkeeper rounds evening none)
      (.outcome bookkeeper v Sample.noon rounds evening) :=
  Scene.Reachable.undisturbed (obeys_bookkeeper v) Sample.noon .start

def audit : Scene Unit := .outcome bookkeeper willing Sample.noon 3 evening

theorem told_audit :
    morning.Fresh bookkeeper ∧ bookkeeper.Reachable morning ⟨evening, none⟩ ∧
      Scene.Reachable bookkeeper (.start bookkeeper 3 evening none) audit ∧
      audit.course.status = ⟨"balances", .complete, 4, 4, 4, true, none⟩ ∧
      Told bookkeeper evening.deeds audit := by
  have hscene : Scene.Reachable bookkeeper (.start bookkeeper 3 evening none) audit :=
    reachable_outcome willing 3
  exact ⟨fresh_morning, reachable_evening, hscene, by decide +kernel,
    told_of_reachable fresh_morning none reachable_evening 3 hscene⟩

def shortSighted : Consumer.Service Unit :=
  ⟨fun e _ => (if e.id = 2 then .error (.failed "illegible") else .ok (), ()),
    fun _ => (.ok (), ()), fun _ => (.ok (), ())⟩

def brokenOff : Scene Unit := .outcome bookkeeper shortSighted Sample.noon 3 evening

/-- A rebuild that fails has handed over more than it says that it has processed: the bookkeeper
cannot read the second event of a page, of which the first was handed over before. -/
theorem processed_ne_handedIn :
    morning.Fresh bookkeeper ∧ bookkeeper.Reachable morning ⟨evening, none⟩ ∧
      Scene.Reachable bookkeeper (.start bookkeeper 3 evening none) brokenOff ∧
      brokenOff.course.status.phase = .failed ∧ brokenOff.course.status.processed = 0 ∧
      handedIn brokenOff.course.ended = 2 := by
  refine ⟨fresh_morning, reachable_evening, reachable_outcome shortSighted 3, ?_, ?_, ?_⟩
  · decide +kernel
  · decide +kernel
  · decide +kernel

end

end Rebuild

end Journal
