import Journal.Consumer
import Journal.Proofs.Program.Interference
import Journal.Proofs.Store.Operation

/-!
# Runs of a consumer

One consumer makes cycles and rebuilds, one task at a time, and everything around it may go wrong:
what it asks for can be refused or fail, also after it took effect, the process can end between any
two questions, and others write to the store all along. `Setting.Step` is one step of this,
`Setting.Reachable` what any number of steps lead to.

A run keeps a record of what was done, the latest first. **Only what is known to have been done is
on record**: a handler that reports a failure may have done its work, but no deed is noted for it; a
checkpoint that was written is noted even when the answer got lost.
-/

namespace Journal

namespace Checkpoints

theorem positionOf_advance {cs ds : Checkpoints} {name : String} {p : EventId} {now : Instant}
    (h : cs.advance name p now = .ok ds) : cs.positionOf name ≤ p ∧ ds.positionOf name = p := by
  unfold advance at h
  split at h
  · cases h
  · next hlt =>
    refine ⟨Nat.le_of_not_lt hlt, ?_⟩
    rw [← Except.ok.inj h, positionOf_place, if_pos rfl]

theorem positionOf_reset (cs : Checkpoints) (name : String) (now : Instant) :
    (cs.reset name now).positionOf name = 0 := by
  rw [reset, positionOf_place, if_pos rfl]

end Checkpoints

namespace Consumer

/-- How supplied code may answer, and what it may leave of the handler's state. It is a relation and
not a function, so that a handler may answer as it likes, also differently to the same event. -/
structure Behaviour (η : Type) where
  apply : Event → η → Attempt String Unit → η → Prop
  flush : η → Attempt String Unit → η → Prop
  clear : η → Attempt String Unit → η → Prop
  -- What the end of the process leaves.
  restart : η → η → Prop

structure Setting (η : Type) where
  name : String
  batchSize : Nat
  filter : Filter
  scope : Scope
  handler : Behaviour η

inductive Deed
  | applied (e : Event)
  | flushed
  | cleared
  | advanced (p : EventId)
  | reset

structure World (η : Type) where
  store : Store
  checkpoints : Checkpoints
  handler : η
  deeds : List Deed

variable {η : Type} {c : Setting η} {w x : World η}

namespace World

def position (c : Setting η) (w : World η) : EventId := w.checkpoints.positionOf c.name

/-- The handler has answered; its deed is noted if it says that it is done. -/
def told (w : World η) (d : Deed) (h : η) : Attempt String Unit → World η
  | .ok () => { w with handler := h, deeds := d :: w.deeds }
  | .error _ => { w with handler := h }

def settled (w : World η) (d : Deed) (cs : Checkpoints) : World η :=
  { w with checkpoints := cs, deeds := d :: w.deeds }

@[simp] theorem told_store (w : World η) (d : Deed) (h : η) (r : Attempt String Unit) :
    (w.told d h r).store = w.store := by
  cases r <;> rfl

@[simp] theorem told_handler (w : World η) (d : Deed) (h : η) (r : Attempt String Unit) :
    (w.told d h r).handler = h := by
  cases r <;> rfl

@[simp] theorem position_told (w : World η) (d : Deed) (h : η) (r : Attempt String Unit) :
    (w.told d h r).position c = w.position c := by
  cases r <;> rfl

end World

/-! ## Steps -/

namespace Setting

/-- What the consumer asks for is answered so, which turns the first world into the second. Stores
and checkpoints may fail at any question; of a write that failed nobody knows whether it was
made. -/
def answers (c : Setting η) : (q : Ask) → World η → calls.Answer q → World η → Prop
  | .acquire, w, _, x => x = w
  | .release, w, _, x => x = w
  | .enter _, w, _, x => x = w
  | .position, w, (r : Except CheckpointError EventId), x =>
    x = w ∧ ∀ p, r = .ok p → p = w.position c
  | .filter, w, (f : Filter), x => x = w ∧ f = c.filter
  | .read past limit f, w, (r : Except StoreError Page), x =>
    x = w ∧ ∀ page, r = .ok page → w.store.read past (some limit) f c.scope = .ok page
  | .apply e, w, (r : Attempt String Unit), x =>
    ∃ h, c.handler.apply e w.handler r h ∧ x = w.told (.applied e) h r
  | .flush, w, (r : Attempt String Unit), x =>
    ∃ h, c.handler.flush w.handler r h ∧ x = w.told .flushed h r
  | .clear, w, (r : Attempt String Unit), x =>
    ∃ h, c.handler.clear w.handler r h ∧ x = w.told .cleared h r
  -- A failure says nothing about whether the checkpoint was written; success says that it was.
  | .advance p, w, (r : Except CheckpointError Unit), x =>
    (∃ e, r = .error e ∧ x = w) ∨
      ∃ now cs, w.checkpoints.advance c.name p now = .ok cs ∧ x = w.settled (.advanced p) cs
  | .reset, w, (r : Except CheckpointError Unit), x =>
    (∃ e, r = .error e ∧ x = w) ∨ ∃ now, x = w.settled .reset (w.checkpoints.reset c.name now)

def drift (c : Setting η) (w x : World η) : Prop :=
  ∃ ops cs, cs.positionOf c.name = w.position c ∧
    x = { w with store := w.store.after ops, checkpoints := cs }

def surroundings (c : Setting η) : Surroundings calls (World η) where
  answers := c.answers
  drift := c.drift
  drift_refl w := ⟨[], w.checkpoints, rfl, rfl⟩
  drift_trans := by
    rintro u v w ⟨ops, cs, hcs, rfl⟩ ⟨more, ds, hds, rfl⟩
    refine ⟨ops ++ more, ds, hds.trans hcs, ?_⟩
    rw [Store.after_append]

end Setting

inductive Task
  | cycle
  | rebuild

def Setting.program (c : Setting η) : Task → Program calls Unit
  | .cycle => (runOnce c.name c.batchSize).bind fun _ => .done ()
  | .rebuild => (rebuild c.name).bind fun _ => .done ()

/-- A moment of a run: the world, and the task under way with what is left of it. -/
structure Moment (η : Type) where
  world : World η
  task : Option (Task × Program calls Unit)

inductive Setting.Step (c : Setting η) : Moment η → Moment η → Prop
  | others {w x : World η} {task : Option (Task × Program calls Unit)} (h : c.drift w x) :
      Step c ⟨w, task⟩ ⟨x, task⟩
  | begin {w : World η} (t : Task) : Step c ⟨w, none⟩ ⟨w, some (t, c.program t)⟩
  | answer {w x : World η} {t : Task} {q : Ask} {next : calls.Answer q → Program calls Unit}
      {r : calls.Answer q}
      (h : c.answers q w r x) : Step c ⟨w, some (t, .ask q next)⟩ ⟨x, some (t, next r)⟩
  | finish {w : World η} {t : Task} : Step c ⟨w, some (t, .done ())⟩ ⟨w, none⟩
  -- The process ends, whatever it was doing.
  | crash {w : World η} {task : Option (Task × Program calls Unit)} {h : η}
      (restart : c.handler.restart w.handler h) :
      Step c ⟨w, task⟩ ⟨{ w with handler := h }, none⟩

inductive Setting.Reachable (c : Setting η) (start : World η) : Moment η → Prop
  | start : Reachable c start ⟨start, none⟩
  | step {s t : Moment η} (h : Reachable c start s) (next : c.Step s t) : Reachable c start t

structure World.Fresh (c : Setting η) (w : World η) : Prop where
  store : ∃ policy ops, w.store = (Store.empty policy).after ops
  position : w.position c = 0
  deeds : w.deeds = []

/-! ## Runs in which nothing fails -/

structure Service (η : Type) where
  apply : Event → η → Attempt String Unit × η
  flush : η → Attempt String Unit × η
  clear : η → Attempt String Unit × η

structure Service.Obeys (s : Service η) (b : Behaviour η) : Prop where
  apply : ∀ e h, b.apply e h (s.apply e h).1 (s.apply e h).2
  flush : ∀ h, b.flush h (s.flush h).1 (s.flush h).2
  clear : ∀ h, b.clear h (s.clear h).1 (s.clear h).2

/-- Answer as a store and a table of checkpoints do that can be reached. -/
def Setting.serve (c : Setting η) (s : Service η) (now : Instant) : (q : Ask) → World η →
    calls.Answer q × World η
  | .acquire, w | .release, w | .enter _, w => ((), w)
  | .position, w => (.ok (w.position c), w)
  | .filter, w => (c.filter, w)
  | .read past limit f, w => (w.store.read past (some limit) f c.scope, w)
  | .apply e, w =>
    ((s.apply e w.handler).1, w.told (.applied e) (s.apply e w.handler).2 (s.apply e w.handler).1)
  | .flush, w =>
    ((s.flush w.handler).1, w.told .flushed (s.flush w.handler).2 (s.flush w.handler).1)
  | .clear, w =>
    ((s.clear w.handler).1, w.told .cleared (s.clear w.handler).2 (s.clear w.handler).1)
  | .advance p, w =>
    match w.checkpoints.advance c.name p now with
    | .ok cs => (.ok (), w.settled (.advanced p) cs)
    | .error e => (.error e, w)
  | .reset, w => (.ok (), w.settled .reset (w.checkpoints.reset c.name now))

theorem Setting.answers_serve {s : Service η} (hs : s.Obeys c.handler) (now : Instant) (q : Ask)
    (w : World η) :
    c.answers q w (c.serve s now q w).1 (c.serve s now q w).2 := by
  cases q with
  | acquire | release | enter => rfl
  | position => exact ⟨rfl, fun p hp => (Except.ok.inj hp).symm⟩
  | filter => exact ⟨rfl, rfl⟩
  | read past limit f => exact ⟨rfl, fun page hpage => hpage⟩
  | apply e => exact ⟨_, hs.apply e w.handler, rfl⟩
  | flush => exact ⟨_, hs.flush w.handler, rfl⟩
  | clear => exact ⟨_, hs.clear w.handler, rfl⟩
  | advance p =>
    simp only [answers, serve]
    cases h : w.checkpoints.advance c.name p now with
    | error e => exact Or.inl ⟨e, rfl, rfl⟩
    | ok cs => exact Or.inr ⟨now, cs, h, rfl⟩
  | reset => exact Or.inr ⟨now, rfl⟩

variable {start : World η} {t : Task}

theorem Setting.Reachable.answered {q : Ask} {next : calls.Answer q → Program calls Unit}
    (h : c.Reachable start ⟨w, some (t, .ask q next)⟩) {r : calls.Answer q}
    (ha : c.answers q w r x) : c.Reachable start ⟨x, some (t, next r)⟩ :=
  h.step (.answer ha)

/-- A task that is answered all its questions comes to its end. -/
theorem Setting.Reachable.complete {s : Service η} (hs : s.Obeys c.handler) (now : Instant)
    {p : Program calls Unit} (h : c.Reachable start ⟨w, some (t, p)⟩) :
    c.Reachable start ⟨(p.run (c.serve s now) w).2, none⟩ := by
  induction p generalizing w with
  | done a => exact h.step .finish
  | ask q next ih => exact ih _ (h.answered (Setting.answers_serve hs now q w))

def Setting.outcome (c : Setting η) (s : Service η) (now : Instant) (t : Task) (w : World η) :
    World η :=
  ((c.program t).run (c.serve s now) w).2

theorem Setting.Reachable.run {s : Service η} (hs : s.Obeys c.handler) (now : Instant) (t : Task)
    (h : c.Reachable start ⟨w, none⟩) : c.Reachable start ⟨c.outcome s now t w, none⟩ :=
  (h.step (.begin t)).complete hs now

end Consumer

end Journal
