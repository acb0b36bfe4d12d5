import Journal.Proofs.Rebuild.Course

/-!
# The stages of a rebuild

The program of a rebuild stands at one of eight points whenever others have their turn, and
`Stage.rest` is what is left of it there. `Stage.Holds` says what is known of the course at each of
them: what has been published, and what will be true of the status that is about to be.

**Every answer leads from a stage to a stage** (`Holds.answered`), and so does the end of the
rebuild's own reset and of each of its cycles (`Holds.reset`, `Holds.cycle`); what others do leads
nowhere (`Holds.drift`).
-/

namespace Journal

namespace Rebuild

/-- Where a rebuild stands when others have their turn: about to reset, about to look at the head of
the log, about to publish it, between two cycles, in one, or about to publish what it has done. -/
inductive Stage
  | reset (rounds : Nat)
  | head (rounds : Nat)
  | aim (rounds : Nat) (st : Status)
  | between (rounds : Nat) (st : Status)
  | cycle (rounds : Nat) (st : Status)
  | count (rounds : Nat) (st : Status) (progress : Consumer.Progress)
  | ending (st : Status)
  | gone

def Stage.rest (name : String) : Stage → Program calls Unit
  | .reset rounds => program rounds name
  | .head rounds => .ask .head fun
    | .error e => finish (.start name) (.error (.consumer (.store e)))
    | .ok target =>
      let st := { Status.start name with phase := .replaying, target }
      .ask (.publish st) fun _ => replay rounds st
  | .aim rounds st => .ask (.publish st) fun _ => replay rounds st
  | .between rounds st => replay rounds st
  | .cycle rounds st => .ask .cycle fun
    | .error (.failed e) => finish st (.error (.consumer e))
    | .error .crashed => .done ()
    | .ok p =>
      let st := st.afterCycle p
      .ask (.publish st) fun _ =>
        if st.target ≤ p.position ∨ p.caughtUp then finish st (.ok ()) else replay rounds st
  | .count rounds st progress => .ask (.publish st) fun _ =>
    if st.target ≤ progress.position ∨ progress.caughtUp then finish st (.ok ())
      else replay rounds st
  | .ending st => .ask (.publish st) .done
  | .gone => .done ()

variable {η : Type} {c : Consumer.Setting η} {s t : Course η} {deeds : List Consumer.Deed}
  {x : Consumer.World η} {stage : Stage}

/-! ## What is known -/

namespace Course

/-- Nothing has been published but that the rebuild is resetting. -/
structure Starts (c : Consumer.Setting η) (s : Course η) : Prop where
  sound : s.world.Sound c
  status : s.status = .start c.name
  looked : s.looked = none
  ended : s.ended = []
  reported : s.reported = []

/-- The consumer was cleared, and while nobody else made a cycle its checkpoint is where the reset
left it. -/
structure Emptied (c : Consumer.Setting η) (deeds : List Consumer.Deed) (s : Course η) : Prop where
  cleared : Consumer.ClearedSince deeds s.world
  alone : s.isVisited = false → s.world.position c = 0

theorem Starts.accounts (h : s.Starts c) : s.Accounts c where
  sound := h.sound
  counted := by
    rw [h.status, h.reported]
    rfl
  matching _ := by
    rw [h.status, Status.start, Log.between_self]
    rfl
  position_le := by
    rw [h.status]
    exact Nat.zero_le _

theorem Starts.phase (h : s.Starts c) : s.status.phase = .resetting := h.status ▸ rfl

theorem Starts.looking (h : s.Starts c) (looked : Option (Consumer.World η)) :
    Stands c deeds { s with looked } := by
  have haccounts : Accounts c { s with looked } := h.accounts.grown (.refl _) h.sound id rfl rfl
  refine haccounts.stands (congrArg Phase.isOver h.phase) (h.status ▸ rfl) (Or.inl h.phase)
    (Or.inl (h.ended.trans h.reported.symm)) ?_
  rw [h.reported]
  exact fun _ hlap => absurd hlap List.not_mem_nil

theorem Starts.stands (h : s.Starts c) : s.Stands c deeds := h.looking s.looked

theorem Starts.failed (h : s.Starts c) (e : ConsumerError) :
    (s.publish ((Status.start c.name).ended (.error (.consumer e)))).Stands c deeds where
  accounts := h.accounts.published (h.status ▸ rfl) (h.status ▸ rfl)
    (congrArg countOf (h.ended.trans h.reported.symm))
  isComplete := rfl
  targeted := Or.inr (Or.inl ⟨rfl, h.looked⟩)
  laps := Or.inl rfl
  endedWell hphase := absurd rfl hphase
  complete hphase := nomatch hphase
  cancelled hphase := nomatch hphase

theorem Starts.runs (h : s.Starts c) (emptied : s.Emptied c deeds) {target : EventId}
    (hhead : s.world.store.head = .ok target) :
    (publish { s with looked := some s.world }
      { Status.start c.name with phase := .replaying, target }).Runs c deeds
      { Status.start c.name with phase := .replaying, target } where
  accounts := by
    have haccounts : Accounts c { s with looked := some s.world } :=
      h.accounts.grown (.refl _) h.sound id rfl rfl
    exact haccounts.published (h.status ▸ rfl) (h.status ▸ rfl)
      (congrArg countOf (h.ended.trans h.reported.symm))
  status := rfl
  phase := rfl
  isComplete := rfl
  reported := rfl
  endedWell := by
    change ∀ lap ∈ s.ended, lap.EndedWell
    rw [h.ended]
    exact fun _ hlap => absurd hlap List.not_mem_nil
  aimed := ⟨s.world, rfl, hhead, emptied.cleared, .refl _⟩
  cleared := emptied.cleared
  position_le := Nat.zero_le _
  alone := emptied.alone

/-- What others make of a course, they make of it as it will be once something has been
published. -/
theorem Drift.publish (h : s.Drift c t) (st : Status) : (s.publish st).Drift c (t.publish st) where
  grown := h.grown
  sound := h.sound
  position_le := h.position_le
  visited := h.visited
  alone := h.alone
  status := rfl
  looked := h.looked
  ended := h.ended
  reported := h.ended

theorem Starts.drift (h : s.Starts c) (hd : s.Drift c t) : t.Starts c where
  sound := hd.sound
  status := hd.status.trans h.status
  looked := hd.looked.trans h.looked
  ended := hd.ended.trans h.ended
  reported := hd.reported.trans h.reported

theorem Emptied.drift (h : s.Emptied c deeds) (hd : s.Drift c t) : t.Emptied c deeds where
  cleared := h.cleared.grown hd.grown
  alone hvisited := (hd.alone hvisited).trans (h.alone (hd.unvisited hvisited))

end Course

namespace Stage

/-- What is known of the course at a stage. -/
def Holds (c : Consumer.Setting η) (deeds : List Consumer.Deed) : Stage → Course η → Prop
  | .reset _, s => s.Starts c ∧ deeds <:+ s.world.deeds
  | .head _, s => s.Starts c ∧ s.Emptied c deeds
  | .aim _ st, s => s.Stands c deeds ∧ s.status.phase = .resetting ∧ (s.publish st).Runs c deeds st
  | .between _ st, s | .cycle _ st, s => s.Runs c deeds st
  | .count _ st progress, s => s.Stands c deeds ∧ s.status.phase = .replaying ∧
    (s.publish st).Runs c deeds st ∧
    (st.target ≤ progress.position ∨ progress.caughtUp = true → st.target ≤ st.position)
  | .ending st, s =>
    s.Stands c deeds ∧ s.status.phase.Moves st.phase ∧ (s.publish st).Stands c deeds
  | .gone, s => s.Stands c deeds

theorem Holds.stands (h : stage.Holds c deeds s) : s.Stands c deeds := by
  cases stage with
  | reset | head => exact h.1.stands
  | between | cycle => exact Course.Runs.stands h
  | aim | count | ending => exact h.1
  | gone => exact h

/-! ## Others -/

theorem Holds.drift (h : stage.Holds c deeds s) (hd : s.Drift c t) : stage.Holds c deeds t := by
  cases stage with
  | reset => exact ⟨h.1.drift hd, h.2.trans hd.grown.deeds⟩
  | head => exact ⟨h.1.drift hd, h.2.drift hd⟩
  | aim _ st =>
    obtain ⟨hstands, hphase, hruns⟩ := h
    exact ⟨hstands.drift hd, hd.status ▸ hphase, hruns.drift (hd.publish st)⟩
  | between | cycle => exact Course.Runs.drift h hd
  | count _ st progress =>
    obtain ⟨hstands, hphase, hruns, hreached⟩ := h
    exact ⟨hstands.drift hd, hd.status ▸ hphase, hruns.drift (hd.publish st), hreached⟩
  | ending st =>
    obtain ⟨hstands, hmoves, hend⟩ := h
    exact ⟨hstands.drift hd, hd.status ▸ hmoves, hend.drift (hd.publish st)⟩
  | gone => exact Course.Stands.drift h hd

/-! ## Its own tasks -/

theorem Holds.reset {rounds : Nat} (h : (Stage.reset rounds).Holds c deeds s) (sound : x.Sound c)
    {r : Attempt ConsumerError Unit} {handed : List Event}
    (ends : Consumer.ResetEnds c s.world.deeds r ⟨x, handed⟩)
    {next : Attempt ConsumerError Unit → Program calls Unit}
    (hrest : (Stage.reset rounds).rest c.name = .ask .reset next) :
    ∃ stage : Stage, next r = stage.rest c.name ∧ stage.Holds c deeds { s with world := x } := by
  obtain ⟨hstarts, hdeeds⟩ := h
  have hstarts' : Course.Starts c { s with world := x } :=
    ⟨sound, hstarts.status, hstarts.looked, hstarts.ended, hstarts.reported⟩
  cases hrest
  rcases r with stop | _
  · rcases stop with e | _
    · refine ⟨.ending ((Status.start c.name).ended (.error (.consumer e))), rfl, hstarts'.stands,
        ?_, hstarts'.failed e⟩
      rw [hstarts'.phase]
      exact .resetFailed
    · exact ⟨.gone, rfl, hstarts'.stands⟩
  · obtain ⟨hzero, since, before, hcleared, hbefore⟩ := ends rfl
    exact ⟨.head rounds, rfl, hstarts', ⟨since, before, hcleared, hdeeds.trans hbefore⟩,
      fun _ => hzero⟩

theorem Holds.cycle {rounds : Nat} {st : Status} (h : (Stage.cycle rounds st).Holds c deeds s)
    (grown : s.world.Grown c x) (sound : x.Sound c) {r : Attempt ConsumerError Consumer.Progress}
    {handed : List Event} (ends : Consumer.CycleEnds c s.world r ⟨x, handed⟩)
    {next : Attempt ConsumerError Consumer.Progress → Program calls Unit}
    (hrest : (Stage.cycle rounds st).rest c.name = .ask .cycle next) :
    ∃ stage : Stage, next r = stage.rest c.name ∧ stage.Holds c deeds (s.lapped x ⟨handed, r⟩) := by
  have hruns : s.Runs c deeds st := h
  have hphase : s.status.phase = .replaying := hruns.status ▸ hruns.phase
  have hstands := hruns.stands_lapped grown sound ⟨handed, r⟩
  cases hrest
  rcases r with stop | progress
  · rcases stop with e | _
    · refine ⟨.ending (st.ended (.error (.consumer e))), rfl, hstands, ?_,
        hruns.failed grown sound _ handed e⟩
      change s.status.phase.Moves _
      rw [hphase]
      exact .failed
    · exact ⟨.gone, rfl, hstands⟩
  · have hcycled := ends progress rfl
    refine ⟨.count rounds (st.afterCycle progress) progress, rfl, hstands, hphase,
      hruns.lapped grown sound hcycled, ?_⟩
    rintro (hreached | hcaught)
    · exact hreached
    · -- The head at which it aims was in the log when the cycle began.
      exact Nat.le_trans hruns.aimed.target_le (hcycled.caughtUp hcaught)

/-! ## Questions that are answered at once -/

end Stage

/-- What a rebuild asks for is answered so; its reset and its cycles are tasks of the consumer. -/
def Course.answers : (q : Ask) → Course η → calls.Answer q → Course η → Prop
  | .head, s, (r : Except StoreError EventId), t =>
    (∃ e, r = .error e ∧ t = s) ∨ ∃ h, s.world.store.head = .ok h ∧ r = .ok h ∧
      t = { s with looked := some s.world }
  | .cancelled, s, (r : Bool), t => r = s.isCancelled ∧ t = s
  | .publish st, s, _, t => t = s.publish st
  | .reset, _, _, _ | .cycle, _, _, _ => False

def Course.Moved (s t : Course η) : Prop := t.status.phase = s.status.phase ∨
    s.status.phase.Moves t.status.phase

namespace Stage

theorem Holds.answered {q : Ask} {next : calls.Answer q → Program calls Unit} {r : calls.Answer q}
    (h : stage.Holds c deeds s) (hrest : stage.rest c.name = .ask q next) (ha : s.answers q r t) :
    (∃ stage : Stage, next r = stage.rest c.name ∧ stage.Holds c deeds t) ∧ s.Moved t := by
  cases stage with
  | reset rounds =>
    cases hrest
    exact ha.elim
  | head rounds =>
    cases hrest
    obtain ⟨hstarts, hemptied⟩ := h
    rcases ha with ⟨e, rfl, rfl⟩ | ⟨target, hhead, rfl, rfl⟩
    · refine ⟨⟨.ending ((Status.start c.name).ended (.error (.consumer (.store e)))), rfl,
        hstarts.stands, ?_, hstarts.failed _⟩, Or.inl rfl⟩
      rw [hstarts.phase]
      exact .resetFailed
    · exact ⟨⟨.aim rounds _, rfl, hstarts.looking _, hstarts.phase, hstarts.runs hemptied hhead⟩,
        Or.inl rfl⟩
  | aim rounds st =>
    cases hrest
    obtain ⟨hstands, hphase, hruns⟩ := h
    obtain rfl : t = s.publish st := ha
    refine ⟨⟨.between rounds st, rfl, hruns⟩, Or.inr ?_⟩
    change s.status.phase.Moves st.phase
    rw [hphase, hruns.phase]
    exact .aimed
  | between rounds st =>
    have hruns : s.Runs c deeds st := h
    cases rounds with
    | zero => cases hrest
    | succ rounds =>
      cases hrest
      obtain ⟨rfl, rfl⟩ := ha
      refine ⟨?_, Or.inl rfl⟩
      cases t.isCancelled with
      | true =>
        refine ⟨.ending (st.ended (.error .cancelled)), rfl, hruns.stands, ?_, hruns.cancelled⟩
        rw [hruns.status, hruns.phase]
        exact .cancelled
      | false => exact ⟨.cycle rounds st, rfl, hruns⟩
  | cycle rounds st =>
    cases hrest
    exact ha.elim
  | count rounds st progress =>
    cases hrest
    obtain ⟨hstands, hphase, hruns, hreached⟩ := h
    obtain rfl : t = s.publish st := ha
    refine ⟨?_, Or.inl ?_⟩
    · by_cases hstop : st.target ≤ progress.position ∨ progress.caughtUp = true
      · refine ⟨.ending (st.ended (.ok ())), if_pos hstop, hruns.stands, ?_,
          hruns.complete (hreached hstop)⟩
        change st.phase.Moves _
        rw [hruns.phase]
        exact .complete
      · exact ⟨.between rounds st, if_neg hstop, hruns⟩
    · exact hruns.phase.trans hphase.symm
  | ending st =>
    cases hrest
    obtain ⟨_, hmoves, hend⟩ := h
    obtain rfl : t = s.publish st := ha
    exact ⟨⟨.gone, rfl, hend⟩, Or.inr hmoves⟩
  | gone => cases hrest

end Stage

end Rebuild

end Journal
