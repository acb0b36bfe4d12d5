import Journal.Proofs.Rebuild.Stage

/-!
# A rebuild among others

While a rebuild is under way, others write to the log, make cycles of the same consumer and ask it
to give up, in any order and at any of its points. A `Scene` is a moment of this, `Scene.Step` is
one step, and only two things are left out: a second rebuild, and the end of the process.

What is known of a scene has two layers. A task under way keeps the outline of delivery, and a task
of the rebuild's own will end as its kind does; between two tasks of its own the rebuild stands at
one of its stages. **Every step leads from what is known to what is known, and moves the phase as it
should or not at all** (`Scene.Step.knows`).
-/

namespace Journal

namespace Rebuild

variable {η : Type} {c : Consumer.Setting η} {s t : Course η} {deeds : List Consumer.Deed}
  {w x : Consumer.World η} {stage : Stage}

/-! ## Scenes -/

def errand (c : Consumer.Setting η) : (q : Ask) → Option (Program Consumer.calls (calls.Answer q))
  | .reset => some (Consumer.rebuild c.name)
  | .cycle => some (Consumer.runOnce c.name c.batchSize)
  | .head | .cancelled | .publish _ => none

/-- Whose task is under way: none of the rebuild's, of which so much is left, although somebody else
may be making a cycle; or the rebuild's own, which has handed over these events, the latest
first. -/
inductive Place
  | apart (visitor : Option (Program Consumer.calls Unit)) (rest : Program calls Unit)
  | within (q : Ask) (next : calls.Answer q → Program calls Unit)
      (task : Program Consumer.calls (calls.Answer q))
    (handed : List Event)

/-- A moment of a rebuild among others. -/
structure Scene (η : Type) where
  course : Course η
  place : Place

def Course.finished (s : Course η) : (q : Ask) → calls.Answer q → List Event → Course η
  | .cycle, (r : Attempt ConsumerError Consumer.Progress), handed => s.lapped s.world ⟨handed, r⟩
  | .reset, _, _ | .head, _, _ | .cancelled, _, _ | .publish _, _, _ => s

/-- One step of a rebuild or of the others. A task that waits for its turn has not begun. -/
inductive Scene.Step (c : Consumer.Setting η) : Scene η → Scene η → Prop
  | others {s : Course η} {x : Consumer.World η} {place : Place} (h : c.drift s.world x) :
      Step c ⟨s, place⟩ ⟨{ s with world := x }, place⟩
  | cancel {s : Course η} {place : Place} :
      Step c ⟨s, place⟩ ⟨{ s with isCancelled := true }, place⟩
  | visit {s : Course η} {rest : Program calls Unit} :
      Step c ⟨s, .apart none rest⟩ ⟨{ s with isVisited := true },
        .apart (some (c.program .cycle)) rest⟩
  | visitor {s : Course η} {x : Consumer.World η} {rest : Program calls Unit} {q : Consumer.Ask}
      {next : Consumer.calls.Answer q → Program Consumer.calls Unit} {r : Consumer.calls.Answer q}
      (h : c.answers q s.world r x) :
      Step c ⟨s, .apart (some (.ask q next)) rest⟩ ⟨{ s with world := x },
        .apart (some (next r)) rest⟩
  | leave {s : Course η} {rest : Program calls Unit} :
      Step c ⟨s, .apart (some (.done ())) rest⟩ ⟨s, .apart none rest⟩
  | reply {s t : Course η} {visitor : Option (Program Consumer.calls Unit)} {q : Ask}
      {next : calls.Answer q → Program calls Unit} {r : calls.Answer q} (h : s.answers q r t) :
      Step c ⟨s, .apart visitor (.ask q next)⟩ ⟨t, .apart visitor (next r)⟩
  | begin {s : Course η} {q : Ask} {next : calls.Answer q → Program calls Unit}
      {task : Program Consumer.calls (calls.Answer q)} (h : errand c q = some task) :
      Step c ⟨s, .apart none (.ask q next)⟩ ⟨s, .within q next task []⟩
  | work {s : Course η} {x : Consumer.World η} {q : Ask}
      {next : calls.Answer q → Program calls Unit}
      {q' : Consumer.Ask}
      {next' : Consumer.calls.Answer q' → Program Consumer.calls (calls.Answer q)}
      {handed : List Event} {r : Consumer.calls.Answer q'} (h : c.answers q' s.world r x) :
      Step c ⟨s, .within q next (.ask q' next') handed⟩
        ⟨{ s with world := x }, .within q next (next' r) (Consumer.handedBy q' handed)⟩
  | finish {s : Course η} {q : Ask} {next : calls.Answer q → Program calls Unit}
      {handed : List Event} {r : calls.Answer q} :
      Step c ⟨s, .within q next (.done r) handed⟩ ⟨s.finished q r handed, .apart none (next r)⟩

inductive Scene.Reachable (c : Consumer.Setting η) (start : Scene η) : Scene η → Prop
  | start : Reachable c start start
  | step {s t : Scene η} (h : Reachable c start s) (next : Step c s t) : Reachable c start t

def Scene.start (c : Consumer.Setting η) (rounds : Nat) (w : Consumer.World η)
    (visitor : Option (Program Consumer.calls Unit)) : Scene η :=
  ⟨⟨w, .start c.name, false, visitor.isSome, none, [], []⟩, .apart visitor (program rounds c.name)⟩

/-! ## What others make of a course -/

namespace Course

theorem Drift.of_drift (hd : c.drift s.world x) (sound : s.world.Sound c) :
    s.Drift c { s with world := x } where
  grown := .of_drift hd
  sound := sound.drift hd
  position_le := Nat.le_of_eq (Consumer.position_of_drift hd).symm
  visited := id
  alone _ := Consumer.position_of_drift hd
  status := rfl
  looked := rfl
  ended := rfl
  reported := rfl

theorem Drift.of_visitor (grown : s.world.Grown c x) (sound : x.Sound c)
    (position_le : s.world.position c ≤ x.position c) (visited : s.isVisited = true) :
    s.Drift c { s with world := x } where
  grown := grown
  sound := sound
  position_le := position_le
  visited := id
  alone hvisited := by
    rw [visited] at hvisited
    cases hvisited
  status := rfl
  looked := rfl
  ended := rfl
  reported := rfl

theorem Drift.of_still (sound : s.world.Sound c) (isCancelled : Bool) {isVisited : Bool}
    (visited : s.isVisited = true → isVisited = true) :
    s.Drift c { s with isCancelled, isVisited } where
  grown := .refl _
  sound := sound
  position_le := Nat.le_refl _
  visited := visited
  alone _ := rfl
  status := rfl
  looked := rfl
  ended := rfl
  reported := rfl

theorem still_of_answers {q : Ask} {r : calls.Answer q} (h : s.answers q r t) :
    t.world = s.world ∧ t.isVisited = s.isVisited := by
  cases q with
  | reset | cycle => exact h.elim
  | head =>
    rcases h with ⟨_, _, rfl⟩ | ⟨_, _, _, rfl⟩
    · exact ⟨rfl, rfl⟩
    · exact ⟨rfl, rfl⟩
  | cancelled =>
    obtain ⟨_, rfl⟩ := h
    exact ⟨rfl, rfl⟩
  | publish st =>
    obtain rfl : t = s.publish st := h
    exact ⟨rfl, rfl⟩

end Course

/-! ## The rebuild's own tasks -/

/-- How a task that began in this world ends. -/
def Ends (c : Consumer.Setting η) (w : Consumer.World η) : (q : Ask) → calls.Answer q →
    Consumer.Desk η → Prop
  | .reset, r, d => Consumer.ResetEnds c w.deeds r d
  | .cycle, r, d => Consumer.CycleEnds c w r d
  | .head, _, _ | .cancelled, _, _ | .publish _, _, _ => False

theorem upholds_errand {q : Ask} {task : Program Consumer.calls (calls.Answer q)}
    (h : errand c q = some task) (sound : w.Sound c) :
    task.Upholds c.deskTerms (Ends c w q) ⟨w, []⟩ := by
  cases q with
  | reset =>
    cases h
    exact Consumer.upholds_rebuild (s := ⟨w, []⟩) sound
  | cycle =>
    cases h
    exact Consumer.upholds_runOnce (s := ⟨w, []⟩) sound rfl
  | head | cancelled | publish => cases h

theorem keeps_errand {O : Consumer.Outline c} {q : Ask}
    {task : Program Consumer.calls (calls.Answer q)} (h : errand c q = some task)
    (hinv : w.Sound c ∧ O.inv w) : ∃ t, O.Keeps t task w := by
  cases q with
  | reset =>
    cases h
    exact ⟨.rebuild, Consumer.Outline.keeps_rebuild hinv⟩
  | cycle =>
    cases h
    exact ⟨.cycle, Consumer.Outline.keeps_runOnce (t := .cycle) hinv⟩
  | head | cancelled | publish => cases h

theorem Stage.Holds.working (h : stage.Holds c deeds s) {q : Ask}
    {next : calls.Answer q → Program calls Unit} (hrest : stage.rest c.name = .ask q next)
    {task : Program Consumer.calls (calls.Answer q)} (hq : errand c q = some task)
    (grown : s.world.Grown c x) (sound : x.Sound c) :
    Course.Stands c deeds { s with world := x } := by
  cases stage with
  | reset =>
    have hphase := h.1.phase
    exact h.stands.working (congrArg Phase.isOver hphase) grown sound
  | cycle => exact h.stands.working (Course.Runs.busy h) grown sound
  | head | aim | count | ending =>
    cases hrest
    cases hq
  | between rounds =>
    cases rounds with
    | zero => cases hrest
    | succ =>
      cases hrest
      cases hq
  | gone => cases hrest

theorem Stage.Holds.finished (h : stage.Holds c deeds { s with world := w }) {q : Ask}
    {next : calls.Answer q → Program calls Unit} (hrest : stage.rest c.name = .ask q next)
    (grown : w.Grown c s.world) (sound : s.world.Sound c) {r : calls.Answer q} {handed : List Event}
    (ends : Ends c w q r ⟨s.world, handed⟩) :
    ∃ stage : Stage, next r = stage.rest c.name ∧ stage.Holds c deeds (s.finished q r handed) := by
  cases stage with
  | reset rounds =>
    cases q with
    | reset => exact h.reset sound ends hrest
    | _ => cases hrest
  | cycle rounds st =>
    cases q with
    | cycle => exact h.cycle grown sound ends hrest
    | _ => cases hrest
  | head | aim | count | ending =>
    cases hrest
    exact ends.elim
  | between rounds =>
    cases rounds with
    | zero => cases hrest
    | succ =>
      cases hrest
      exact ends.elim
  | gone => cases hrest

/-! ## What is known of a scene -/

structure Course.Apart (c : Consumer.Setting η) (deeds : List Consumer.Deed)
    (visitor : Option (Program Consumer.calls Unit)) (rest : Program calls Unit)
    (s : Course η) : Prop where
  tasks : (Consumer.deliveryOutline c).Holds ⟨s.world, visitor.map (Consumer.Task.cycle, ·)⟩
  visited : visitor.isSome = true → s.isVisited = true
  stage : ∃ stage : Stage, rest = stage.rest c.name ∧ stage.Holds c deeds s

/-- A task of the rebuild's own is under way, which began in another world. -/
structure Course.Within (c : Consumer.Setting η) (deeds : List Consumer.Deed) (q : Ask)
    (next : calls.Answer q → Program calls Unit) (task : Program Consumer.calls (calls.Answer q))
    (handed : List Event) (w : Consumer.World η) (stage : Stage) (s : Course η) : Prop where
  isErrand : ∃ task, errand c q = some task
  keeps : ∃ t, (Consumer.deliveryOutline c).Keeps t task s.world
  ends : task.Upholds c.deskTerms (Ends c w q) ⟨s.world, handed⟩
  grown : w.Grown c s.world
  rest : stage.rest c.name = .ask q next
  stage : stage.Holds c deeds { s with world := w }

/-- What is known of a course at a place. -/
def Place.Knows (c : Consumer.Setting η) (deeds : List Consumer.Deed) : Place → Course η → Prop
  | .apart visitor rest, s => s.Apart c deeds visitor rest
  | .within q next task handed, s => ∃ w stage, s.Within c deeds q next task handed w stage

variable {place : Place}

theorem Place.Knows.delivered (h : place.Knows c deeds s) : s.world.Sound c ∧
    s.world.Delivered c := by
  cases place with
  | apart visitor rest => exact h.tasks.world
  | within q next task handed =>
    obtain ⟨w, stage, hwithin⟩ := h
    obtain ⟨t, hkeeps⟩ := hwithin.keeps
    exact Program.Upholds.inv hkeeps

theorem Place.Knows.stands (h : place.Knows c deeds s) : s.Stands c deeds := by
  have hsound := h.delivered.1
  cases place with
  | apart visitor rest =>
    obtain ⟨stage, _, hstage⟩ := h.stage
    exact hstage.stands
  | within q next task handed =>
    obtain ⟨w, stage, hwithin⟩ := h
    obtain ⟨task, htask⟩ := hwithin.isErrand
    exact hwithin.stage.working hwithin.rest htask hwithin.grown hsound

/-! ## Steps -/

theorem Place.Knows.others (h : place.Knows c deeds s) (hd : c.drift s.world x) :
    place.Knows c deeds { s with world := x } := by
  have hdrift := Course.Drift.of_drift hd h.delivered.1
  cases place with
  | apart visitor rest =>
    obtain ⟨stage, hrest, hstage⟩ := h.stage
    exact ⟨h.tasks.step (.others hd), h.visited, stage, hrest, hstage.drift hdrift⟩
  | within q next task handed =>
    obtain ⟨w, stage, hwithin⟩ := h
    obtain ⟨t, hkeeps⟩ := hwithin.keeps
    exact ⟨w, stage, hwithin.isErrand, ⟨t, Program.Upholds.drift hkeeps hd⟩,
      hwithin.ends.drift ⟨hd, rfl⟩, hwithin.grown.trans (.of_drift hd), hwithin.rest, hwithin.stage⟩

theorem Place.Knows.cancel (h : place.Knows c deeds s) :
    place.Knows c deeds { s with isCancelled := true } := by
  cases place with
  | apart visitor rest =>
    obtain ⟨stage, hrest, hstage⟩ := h.stage
    exact ⟨h.tasks, h.visited, stage, hrest, hstage.drift (.of_still h.delivered.1 true id)⟩
  | within q next task handed =>
    obtain ⟨w, stage, hwithin⟩ := h
    have hsound : w.Sound c := hwithin.stage.stands.accounts.sound
    exact ⟨w, stage, hwithin.isErrand, hwithin.keeps, hwithin.ends, hwithin.grown, hwithin.rest,
      hwithin.stage.drift (.of_still hsound true id)⟩

namespace Course

variable {visitor : Option (Program Consumer.calls Unit)} {rest : Program calls Unit} {q : Ask}
  {next : calls.Answer q → Program calls Unit} {task : Program Consumer.calls (calls.Answer q)}
  {handed : List Event}

theorem Apart.visit (h : s.Apart c deeds none rest) :
    Apart c deeds (some (c.program .cycle)) rest { s with isVisited := true } := by
  obtain ⟨stage, hrest, hstage⟩ := h.stage
  exact ⟨h.tasks.step (.begin .cycle), fun _ => rfl, stage, hrest,
    hstage.drift (.of_still h.tasks.world.1 s.isCancelled fun _ => rfl)⟩

/-- A visitor's cycle is answered. All that the rebuild notices is that the checkpoint may have
moved. -/
theorem Apart.answered {q : Consumer.Ask}
    {next : Consumer.calls.Answer q → Program Consumer.calls Unit} {r : Consumer.calls.Answer q}
    (h : s.Apart c deeds (some (.ask q next)) rest) (ha : c.answers q s.world r x) :
    Apart c deeds (some (next r)) rest { s with world := x } := by
  obtain ⟨stage, hrest, hstage⟩ := h.stage
  have hvisited : s.isVisited = true := h.visited rfl
  have htasks : (Consumer.deliveryOutline c).Holds ⟨x, some (Consumer.Task.cycle, next r)⟩ :=
    h.tasks.step (.answer ha)
  have hle : s.world.position c ≤ x.position c := by
    rcases (Program.Upholds.answer h.tasks ha).1 with hle | ⟨hrebuild, _⟩
    · exact hle
    · cases hrebuild
  exact ⟨htasks, fun _ => hvisited, stage, hrest,
    hstage.drift (.of_visitor (.of_answers ha) htasks.world.1 hle hvisited)⟩

theorem Apart.reply (h : s.Apart c deeds visitor (.ask q next)) {r : calls.Answer q}
    (ha : s.answers q r t) :
    t.Apart c deeds visitor (next r) ∧ s.Moved t := by
  obtain ⟨stage, hrest, hstage⟩ := h.stage
  obtain ⟨hnext, hmoved⟩ := hstage.answered hrest.symm ha
  obtain ⟨hworld, hvisited⟩ := still_of_answers ha
  refine ⟨⟨?_, ?_, hnext⟩, hmoved⟩
  · rw [hworld]
    exact h.tasks
  · rw [hvisited]
    exact h.visited

theorem Apart.begin (h : s.Apart c deeds none (.ask q next)) (htask : errand c q = some task) :
    ∃ w stage, s.Within c deeds q next task [] w stage := by
  obtain ⟨stage, hrest, hstage⟩ := h.stage
  exact ⟨s.world, stage, ⟨task, htask⟩, keeps_errand htask h.tasks.world,
    upholds_errand htask h.tasks.world.1, .refl _, hrest.symm, hstage⟩

theorem Within.work {stage : Stage} {q' : Consumer.Ask}
    {next' : Consumer.calls.Answer q' → Program Consumer.calls (calls.Answer q)}
    {r : Consumer.calls.Answer q'} (h : s.Within c deeds q next (.ask q' next') handed w stage)
    (ha : c.answers q' s.world r x) :
    Within c deeds q next (next' r)
    (Consumer.handedBy q' handed) w stage { s with world := x } := by
  obtain ⟨t, hkeeps⟩ := h.keeps
  have hends := (h.ends.answer (x := ⟨x, Consumer.handedBy q' handed⟩) ⟨ha, rfl⟩).2
  exact ⟨h.isErrand, ⟨t, (Program.Upholds.answer hkeeps ha).2⟩, hends,
    h.grown.trans (.of_answers ha), h.rest, h.stage⟩

theorem world_finished (s : Course η) (q : Ask) (r : calls.Answer q) (handed : List Event) :
    (s.finished q r handed).world = s.world := by
  cases q <;> rfl

theorem status_finished (s : Course η) (q : Ask) (r : calls.Answer q) (handed : List Event) :
    (s.finished q r handed).status = s.status := by
  cases q <;> rfl

theorem Within.finish {stage : Stage} {r : calls.Answer q}
    (h : s.Within c deeds q next (.done r) handed w stage) :
    (s.finished q r handed).Apart c deeds none (next r) := by
  obtain ⟨t, hkeeps⟩ := h.keeps
  have hinv : s.world.Sound c ∧ s.world.Delivered c := Program.Upholds.inv hkeeps
  refine ⟨?_, nofun, h.stage.finished h.rest h.grown hinv.1 h.ends.result⟩
  rw [world_finished]
  exact hinv

end Course

theorem Scene.Step.knows {s t : Scene η} (hstep : Scene.Step c s t)
    (h : s.place.Knows c deeds s.course) :
    t.place.Knows c deeds t.course ∧ s.course.Moved t.course := by
  cases hstep with
  | others hd => exact ⟨h.others hd, Or.inl rfl⟩
  | cancel => exact ⟨h.cancel, Or.inl rfl⟩
  | visit => exact ⟨Course.Apart.visit h, Or.inl rfl⟩
  | visitor ha => exact ⟨Course.Apart.answered h ha, Or.inl rfl⟩
  | leave => exact ⟨⟨h.tasks.world, nofun, h.stage⟩, Or.inl rfl⟩
  | reply ha => exact Course.Apart.reply h ha
  | begin htask => exact ⟨Course.Apart.begin h htask, Or.inl rfl⟩
  | work ha =>
    obtain ⟨w, stage, hwithin⟩ := h
    exact ⟨⟨w, stage, hwithin.work ha⟩, Or.inl rfl⟩
  | finish =>
    obtain ⟨w, stage, hwithin⟩ := h
    exact ⟨hwithin.finish, Or.inl (congrArg Status.phase (Course.status_finished _ _ _ _))⟩

theorem Scene.knows_of_reachable {start s : Scene η}
    (hstart : start.place.Knows c deeds start.course) (h : Scene.Reachable c start s) :
    s.place.Knows c deeds s.course := by
  induction h with
  | start => exact hstart
  | step _ hstep ih => exact (hstep.knows ih).1

theorem Scene.knows_start {dawn : Consumer.World η} (fresh : dawn.Fresh c)
    {visitor : Option (Program Consumer.calls Unit)}
    (run : c.Reachable dawn ⟨w, visitor.map (Consumer.Task.cycle, ·)⟩) (rounds : Nat) :
    (Scene.start c rounds w visitor).place.Knows c w.deeds
    (Scene.start c rounds w visitor).course := by
  have hholds := Consumer.Outline.holds_of_reachable (O := Consumer.deliveryOutline c) fresh.sound
    fresh.delivered run
  exact ⟨hholds, id, .reset rounds, rfl, ⟨hholds.world.1, rfl, rfl, rfl, rfl⟩, List.suffix_refl _⟩

end Rebuild

end Journal
