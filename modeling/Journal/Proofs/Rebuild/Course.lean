import Journal.Consumer.Rebuild
import Journal.Proofs.Consumer.Cycle

/-!
# The course of a rebuild

A rebuild in the background is not under way all the time. It resets its consumer, looks at the head
of the log and makes one cycle after the other, and between any two of these others write to the
log, make cycles of the same consumer and may ask it to give up. `Course` is what there is to be
said of it at such a moment: the world, what it has published, and a record of what it has done. The
points at which others can come in are its `Stage`s.

**What a rebuild has published is true when it is published and stays true** (`Course.Stands`): that
needs no more than that the log only grows and that the checkpoint does not go back while there is
no other rebuild (`Course.Drift`). Two things are only said of a rebuild that was alone with its
consumer: what it has counted, and where the checkpoint is.
-/

namespace Journal

namespace Rebuild

/-! ## Phases -/

def Phase.isOver : Phase → Bool
  | .complete | .cancelled | .failed => true
  | .resetting | .replaying => false

/-- The moves from one phase to another. -/
inductive Phase.Moves : Phase → Phase → Prop
  | aimed : Moves .resetting .replaying
  | resetFailed : Moves .resetting .failed
  | complete : Moves .replaying .complete
  | cancelled : Moves .replaying .cancelled
  | failed : Moves .replaying .failed

/-! ## Courses -/

/-- A cycle of the rebuild: the events that it handed to the handler, the latest first, and what it
came to. -/
structure Lap where
  handed : List Event
  result : Attempt ConsumerError Consumer.Progress

def Lap.EndedWell (l : Lap) : Prop := ∃ progress, l.result = .ok progress

def countOf : List Lap → Nat
  | [] => 0
  | ⟨handed, .ok _⟩ :: rest => handed.length + countOf rest
  | ⟨_, .error _⟩ :: rest => countOf rest

/-- What there is to be said of a rebuild at a moment. Beside its world and the status that it has
published there is what only its surroundings know: whether it has been asked to give up, whether
somebody else has made a cycle, in which world it was told the head of the log, and its own cycles
with what each handed over. -/
structure Course (η : Type) where
  world : Consumer.World η
  status : Status
  isCancelled : Bool
  isVisited : Bool
  looked : Option (Consumer.World η)
  /-- Its cycles that have ended, the latest first. -/
  ended : List Lap
  /-- Those that had ended when the status was published. -/
  reported : List Lap

variable {η : Type} {c : Consumer.Setting η} {s t : Course η}
  {deeds : List Consumer.Deed} {st : Status}

namespace Course

def publish (s : Course η) (st : Status) : Course η := { s with status := st, reported := s.ended }

/-- The log at which a rebuild aims: the one of which it was told the head, after the consumer was
cleared. -/
def Aimed (c : Consumer.Setting η) (deeds : List Consumer.Deed) (target : EventId)
    (s : Course η) : Prop :=
  ∃ v, s.looked = some v ∧ v.store.head = .ok target ∧ Consumer.ClearedSince deeds v ∧
    v.Grown c s.world

def Targeted (c : Consumer.Setting η) (deeds : List Consumer.Deed) (s : Course η) : Prop :=
  s.status.phase = .resetting ∨ (s.status.phase = .failed ∧ s.looked = none) ∨
    s.Aimed c deeds s.status.target

/-- The account that a status gives of the rebuild's own cycles. -/
structure Accounts (c : Consumer.Setting η) (s : Course η) : Prop where
  sound : s.world.Sound c
  counted : s.status.processed = countOf s.reported
  matching : s.isVisited = false → s.status.processed =
    ((s.world.store.log.between 0 s.status.position).filter (s.world.selects c)).length
  position_le : s.status.position ≤ s.world.store.log.head

/-- What holds at every moment of a rebuild that began after these deeds. -/
structure Stands (c : Consumer.Setting η) (deeds : List Consumer.Deed) (s : Course η) : Prop where
  accounts : s.Accounts c
  isComplete : s.status.isComplete = s.status.phase.isOver
  targeted : s.Targeted c deeds
  laps : s.ended = s.reported ∨ s.status.phase = .replaying ∧ ∃ lap, s.ended = lap :: s.reported
  endedWell : s.status.phase ≠ .failed → ∀ lap ∈ s.reported, lap.EndedWell
  complete : s.status.phase = .complete → s.status.target ≤ s.status.position ∧
    s.status.position ≤ s.world.position c ∧ Consumer.ClearedSince deeds s.world
  cancelled : s.status.phase = .cancelled → s.isVisited = false →
    s.world.position c = s.status.position

theorem Accounts.stands (h : s.Accounts c) (busy : s.status.phase.isOver = false)
    (isComplete : s.status.isComplete = false)
    (targeted : s.Targeted c deeds)
    (laps : s.ended = s.reported ∨ s.status.phase = .replaying ∧ ∃ lap, s.ended = lap :: s.reported)
    (endedWell : ∀ lap ∈ s.reported, lap.EndedWell) : s.Stands c deeds where
  accounts := h
  isComplete := isComplete.trans busy.symm
  targeted := targeted
  laps := laps
  endedWell _ := endedWell
  complete hphase := by
    rw [hphase] at busy
    cases busy
  cancelled hphase := by
    rw [hphase] at busy
    cases busy

/-! ## What others make of it -/

/-- Others write to the log, make cycles of the consumer and ask the rebuild to give up. -/
structure Drift (c : Consumer.Setting η) (s t : Course η) : Prop where
  grown : s.world.Grown c t.world
  sound : t.world.Sound c
  position_le : s.world.position c ≤ t.world.position c
  visited : s.isVisited = true → t.isVisited = true
  alone : t.isVisited = false → t.world.position c = s.world.position c
  status : t.status = s.status
  looked : t.looked = s.looked
  ended : t.ended = s.ended
  reported : t.reported = s.reported

theorem Drift.unvisited (h : s.Drift c t) (ht : t.isVisited = false) : s.isVisited = false := by
  cases hs : s.isVisited with
  | false => rfl
  | true => rw [← ht, h.visited hs]

theorem Aimed.grown {target : EventId} (h : s.Aimed c deeds target)
    (grown : s.world.Grown c t.world) (looked : t.looked = s.looked) : t.Aimed c deeds target := by
  obtain ⟨v, hlooked, hhead, hcleared, hgrown⟩ := h
  exact ⟨v, looked.trans hlooked, hhead, hcleared, hgrown.trans grown⟩

theorem Targeted.grown (h : s.Targeted c deeds) (grown : s.world.Grown c t.world)
    (status : t.status = s.status) (looked : t.looked = s.looked) : t.Targeted c deeds := by
  rw [Targeted, status, looked]
  exact h.imp_right fun htold => htold.imp_right fun haimed => haimed.grown grown looked

/-- The account is right still when the log has grown. -/
theorem Accounts.grown (h : s.Accounts c) (grown : s.world.Grown c t.world)
    (sound : t.world.Sound c) (visited : t.isVisited = false → s.isVisited = false)
    (status : t.status = s.status) (reported : t.reported = s.reported) : t.Accounts c where
  sound := sound
  counted := by
    rw [status, reported]
    exact h.counted
  matching hvisited := by
    rw [status, Log.between_of_prefix sound.ordered grown.log h.position_le, grown.selects]
    exact h.matching (visited hvisited)
  position_le := by
    rw [status]
    exact Nat.le_trans h.position_le grown.head_le

theorem Stands.drift (h : s.Stands c deeds) (hd : s.Drift c t) : t.Stands c deeds where
  accounts := h.accounts.grown hd.grown hd.sound hd.unvisited hd.status hd.reported
  isComplete := by
    rw [hd.status]
    exact h.isComplete
  targeted := h.targeted.grown hd.grown hd.status hd.looked
  laps := by
    rw [hd.status, hd.ended, hd.reported]
    exact h.laps
  endedWell := by
    rw [hd.status, hd.reported]
    exact h.endedWell
  complete hphase := by
    rw [hd.status] at hphase ⊢
    obtain ⟨htarget, hposition, hcleared⟩ := h.complete hphase
    exact ⟨htarget, Nat.le_trans hposition hd.position_le, hcleared.grown hd.grown⟩
  cancelled hphase hvisited := by
    rw [hd.status] at hphase ⊢
    exact (hd.alone hvisited).trans (h.cancelled hphase (hd.unvisited hvisited))

/-- A cycle or a reset of its own is under way, so that nothing is published and nobody else has the
turn. -/
theorem Stands.working (h : s.Stands c deeds) (busy : s.status.phase.isOver = false)
    {x : Consumer.World η} (grown : s.world.Grown c x) (sound : x.Sound c) :
    Stands c deeds { s with world := x } := by
  have hcontinuing : s.status.phase ≠ .failed := by
    intro hfailed
    rw [hfailed] at busy
    cases busy
  exact Accounts.stands (h.accounts.grown grown sound id rfl rfl) busy (h.isComplete.trans busy)
    (h.targeted.grown grown rfl rfl) h.laps (h.endedWell hcontinuing)

/-! ## Replaying -/

/-- Between two cycles: the status is up to date. -/
structure Runs (c : Consumer.Setting η) (deeds : List Consumer.Deed) (st : Status)
    (s : Course η) : Prop where
  accounts : s.Accounts c
  status : s.status = st
  phase : st.phase = .replaying
  isComplete : st.isComplete = false
  reported : s.reported = s.ended
  endedWell : ∀ lap ∈ s.ended, lap.EndedWell
  aimed : s.Aimed c deeds st.target
  cleared : Consumer.ClearedSince deeds s.world
  position_le : st.position ≤ s.world.position c
  alone : s.isVisited = false → s.world.position c = st.position

theorem Runs.busy (h : s.Runs c deeds st) : s.status.phase.isOver = false := by
  rw [h.status, h.phase]
  rfl

theorem Runs.stands (h : s.Runs c deeds st) : s.Stands c deeds := by
  have haimed : s.Aimed c deeds s.status.target := h.status ▸ h.aimed
  exact h.accounts.stands h.busy (h.status ▸ h.isComplete) (Or.inr (Or.inr haimed))
    (Or.inl h.reported.symm) (h.reported ▸ h.endedWell)

theorem Runs.drift (h : s.Runs c deeds st) (hd : s.Drift c t) : t.Runs c deeds st where
  accounts := h.accounts.grown hd.grown hd.sound hd.unvisited hd.status hd.reported
  status := hd.status.trans h.status
  phase := h.phase
  isComplete := h.isComplete
  reported := hd.reported.trans (h.reported.trans hd.ended.symm)
  endedWell := hd.ended ▸ h.endedWell
  aimed := h.aimed.grown hd.grown hd.looked
  cleared := h.cleared.grown hd.grown
  position_le := Nat.le_trans h.position_le hd.position_le
  alone hvisited := (hd.alone hvisited).trans (h.alone (hd.unvisited hvisited))

theorem Aimed.target_le {target : EventId} (h : s.Aimed c deeds target) :
    target ≤ s.world.store.log.head := by
  obtain ⟨v, _, hhead, _, hgrown⟩ := h
  rw [Store.head, Store.look] at hhead
  split at hhead
  · cases hhead
  · rw [← Except.ok.inj hhead]
    exact hgrown.head_le

def lapped (s : Course η) (x : Consumer.World η) (lap : Lap) : Course η :=
  { s with world := x, ended := lap :: s.ended }

variable {x : Consumer.World η} {lap : Lap} {progress : Consumer.Progress} {handed : List Event}

/-- A cycle has ended, and nothing of it has been published. -/
theorem Runs.stands_lapped (h : s.Runs c deeds st) (grown : s.world.Grown c x) (sound : x.Sound c)
    (lap : Lap) :
    (s.lapped x lap).Stands c deeds := by
  have haccounts : (s.lapped x lap).Accounts c := h.accounts.grown grown sound id rfl rfl
  have hlaps : lap :: s.ended = lap :: s.reported := congrArg (lap :: ·) h.reported.symm
  exact haccounts.stands h.busy (h.status ▸ h.isComplete) (h.stands.targeted.grown grown rfl rfl)
    (Or.inr ⟨h.status ▸ h.phase, lap, hlaps⟩) (h.reported ▸ h.endedWell)

/-- **A cycle that ended well is counted as it was**: what it has handed over follows what was
counted before. -/
theorem Runs.accounts_lapped (h : s.Runs c deeds st) (grown : s.world.Grown c x) (sound : x.Sound c)
    (cycled : s.world.Cycled c progress handed x) :
    ((s.lapped x ⟨handed, .ok progress⟩).publish (st.afterCycle progress)).Accounts c where
  sound := sound
  counted := by
    have hcounted : st.processed = countOf s.ended := by
      rw [← h.status, h.accounts.counted, h.reported]
    change st.processed + progress.applied = handed.length + countOf s.ended
    rw [hcounted, cycled.applied, Nat.add_comm]
  matching hvisited := by
    have hmatching :=
      (h.accounts.grown grown sound id rfl rfl : Accounts c { s with world := x }).matching hvisited
    have hposition : s.world.position c = st.position := h.alone hvisited
    have hle : st.position ≤ progress.position := hposition ▸ cycled.position_le
    have hhanded := cycled.handed
    rw [hposition] at hhanded
    change s.status.processed =
      ((x.store.log.between 0 s.status.position).filter (x.selects c)).length at hmatching
    rw [h.status] at hmatching
    change st.processed + progress.applied =
      ((x.store.log.between 0 progress.position).filter (x.selects c)).length
    rw [← Log.between_append sound.ordered (Nat.zero_le _) hle, List.filter_append,
      List.length_append, ← hmatching, ← hhanded, List.length_reverse, cycled.applied]
  position_le := by
    change progress.position ≤ x.store.log.head
    exact cycled.position ▸ sound.position_le

theorem Runs.lapped (h : s.Runs c deeds st) (grown : s.world.Grown c x) (sound : x.Sound c)
    (cycled : s.world.Cycled c progress handed x) :
    ((s.lapped x ⟨handed, .ok progress⟩).publish (st.afterCycle progress)).Runs c deeds
    (st.afterCycle progress) where
  accounts := h.accounts_lapped grown sound cycled
  status := rfl
  phase := h.phase
  isComplete := h.isComplete
  reported := rfl
  endedWell := List.forall_mem_cons.mpr ⟨⟨progress, rfl⟩, h.endedWell⟩
  aimed := h.aimed.grown grown rfl
  cleared := h.cleared.grown grown
  position_le := Nat.le_of_eq cycled.position.symm
  alone _ := cycled.position

/-! ## Endings -/

theorem Accounts.published (h : s.Accounts c) {final : Status}
    (processed : final.processed = s.status.processed)
    (position : final.position = s.status.position)
    (counted : countOf s.ended = countOf s.reported) :
    (s.publish final).Accounts c where
  sound := h.sound
  counted := processed.trans (h.counted.trans counted.symm)
  matching hvisited := by
    change final.processed =
      ((s.world.store.log.between 0 final.position).filter (s.world.selects c)).length
    rw [processed, position]
    exact h.matching hvisited
  position_le := by
    change final.position ≤ s.world.store.log.head
    rw [position]
    exact h.position_le

/-- A rebuild whose status has reached the target may say that it is complete. -/
theorem Runs.complete (h : s.Runs c deeds st) (reached : st.target ≤ st.position) :
    (s.publish (st.ended (.ok ()))).Stands c deeds where
  accounts := h.accounts.published (h.status ▸ rfl) (h.status ▸ rfl)
    (congrArg countOf h.reported.symm)
  isComplete := rfl
  targeted := Or.inr (Or.inr h.aimed)
  laps := Or.inl rfl
  endedWell _ := h.endedWell
  complete _ := ⟨reached, h.position_le, h.cleared⟩
  cancelled hphase := nomatch hphase

theorem Runs.cancelled (h : s.Runs c deeds st) :
    (s.publish (st.ended (.error .cancelled))).Stands c deeds where
  accounts := h.accounts.published (h.status ▸ rfl) (h.status ▸ rfl)
    (congrArg countOf h.reported.symm)
  isComplete := rfl
  targeted := Or.inr (Or.inr h.aimed)
  laps := Or.inl rfl
  endedWell _ := h.endedWell
  complete hphase := nomatch hphase
  cancelled _ := h.alone

/-- A cycle that failed is not counted, however many events it had handed over. -/
theorem Runs.failed (h : s.Runs c deeds st) (grown : s.world.Grown c x) (sound : x.Sound c)
    (stop : Stop ConsumerError) (handed : List Event) (e : ConsumerError) :
    ((s.lapped x ⟨handed, .error stop⟩).publish (st.ended (.error (.consumer e)))).Stands c deeds
    where
  accounts := (h.stands_lapped grown sound ⟨handed, .error stop⟩).accounts.published
    (h.status ▸ rfl) (h.status ▸ rfl)
    (show countOf s.ended = countOf s.reported from congrArg countOf h.reported.symm)
  isComplete := rfl
  targeted := Or.inr (Or.inr (h.aimed.grown grown rfl))
  laps := Or.inl rfl
  endedWell hphase := absurd rfl hphase
  complete hphase := nomatch hphase
  cancelled hphase := nomatch hphase

end Course

end Rebuild

end Journal
