import Journal.Consumer.Polling
import Journal.Proofs.Program.Transcript

/-!
# The signal to stop

A loop that polls is asked to stop by a signal that others send: a truth value, which can be sent
any number of times, also with the value that it has, until nobody is left who could send it. A wait
of the loop ends when a value has been sent that it has not noticed yet, when it finds itself alone,
or when its time has passed, in this order.

A `Schedule` is everything around the loop: how each cycle ends and how long it takes, what chance
gives, and what is done with the signal before each question of the loop, during a cycle and while
it waits. `Schedule.answer` is the loop's view of it. **A wait takes the time that it was meant to
take, or less if a signal ends it** (`answer_wait_cases`).
-/

namespace Journal.Consumer.Polling

inductive Sign
  | send (stop : Bool)
  | leave

structure Signal where
  value : Bool
  sent : Nat
  noticed : Nat
  attended : Bool
  noticed_le : noticed ≤ sent := by omega

def Signal.after (s : Signal) : Sign → Signal
  | .send stop =>
    if s.attended then ⟨stop, s.sent + 1, s.noticed, true, Nat.le_succ_of_le s.noticed_le⟩ else s
  | .leave => { s with attended := false }

def Signal.notice (s : Signal) : Signal := ⟨s.value, s.sent, s.sent, s.attended, Nat.le_refl _⟩

/-- What happens around one question of the loop. -/
structure Meanwhile where
  before : List Sign
  /-- How a cycle ends, how long it takes in nanoseconds, and what is done with the signal during
  it. -/
  progress : Attempt ConsumerError Progress
  length : Nat
  during : List Sign
  place : Float
  /-- What is done first with the signal in a wait, and after how many nanoseconds. -/
  sign : Option (Nat × Sign)

abbrev Schedule := Nat → Meanwhile

structure Moment where
  asked : Nat
  now : Nat
  signal : Signal

namespace Moment

def pass (m : Moment) (nanos : Nat) : Moment := { m with now := m.now + nanos }

def receive (m : Moment) (signs : List Sign) : Moment :=
  { m with signal := signs.foldl Signal.after m.signal }

def notice (m : Moment) : Moment := { m with signal := m.signal.notice }

/-- Wait for a signal, for some time at most; `sign` is what is done first with the signal
meanwhile. -/
def await (m : Moment) (d : Duration) (sign : Option (Nat × Sign)) : Waking × Moment :=
  if m.signal.noticed < m.signal.sent then (.signalled, m.notice)
  else if m.signal.attended = false then (.abandoned, m)
  else
    match sign with
    | none => (.elapsed, m.pass d.nanos)
    | some (nanos, sign) =>
      if d.nanos < nanos then (.elapsed, m.pass d.nanos)
      else
        match sign with
        | .send stop => (.signalled, ((m.pass nanos).receive [.send stop]).notice)
        | .leave => (.abandoned, (m.pass nanos).receive [.leave])

end Moment

def Schedule.answer (plan : Schedule) (q : calls.Ask) (m : Moment) : calls.Answer q × Moment :=
  let event := plan m.asked
  let m : Moment := { m.receive event.before with asked := m.asked + 1 }
  match q with
  | .stopping => (m.signal.value, m)
  | .cycle => (event.progress, (m.pass event.length).receive event.during)
  | .chance => (event.place, m)
  | .wait d => m.await d event.sign

variable {plan : Schedule} {m : Moment} {d : Duration} {sign : Option (Nat × Sign)}

/-- A value had been sent at the end of a stretch of time which had not been noticed at its
beginning. -/
def Moment.Notices (m m' : Moment) : Prop := m.signal.noticed < m'.signal.sent

theorem await_cases (m : Moment) (d : Duration) (sign : Option (Nat × Sign)) :
    ((m.await d sign).1 = .elapsed ∧ (m.await d sign).2.now = m.now + d.nanos) ∨
    ((m.await d sign).1 = .signalled ∧ m.Notices (m.await d sign).2 ∧
      ∃ nanos ≤ d.nanos, (m.await d sign).2.now = m.now + nanos) ∨
    ((m.await d sign).1 = .abandoned ∧ (m.await d sign).2.signal.attended = false) := by
  unfold Moment.await
  by_cases hfresh : m.signal.noticed < m.signal.sent
  · rw [if_pos hfresh]
    exact Or.inr (Or.inl ⟨rfl, hfresh, 0, Nat.zero_le _, rfl⟩)
  rw [if_neg hfresh]
  by_cases halone : m.signal.attended = false
  · rw [if_pos halone]
    exact Or.inr (Or.inr ⟨rfl, halone⟩)
  rw [if_neg halone]
  match sign with
  | none => exact Or.inl ⟨rfl, rfl⟩
  | some (nanos, .leave) =>
    by_cases hlate : d.nanos < nanos
    · simp only [if_pos hlate]
      exact Or.inl ⟨trivial, rfl⟩
    · simp only [if_neg hlate]
      exact Or.inr (Or.inr ⟨trivial, rfl⟩)
  | some (nanos, .send stop) =>
    by_cases hlate : d.nanos < nanos
    · simp only [if_pos hlate]
      exact Or.inl ⟨trivial, rfl⟩
    · simp only [if_neg hlate]
      refine Or.inr (Or.inl ⟨trivial, ?_, nanos, by omega, rfl⟩)
      have hattended : m.signal.attended = true := by simpa using halone
      have hold := m.signal.noticed_le
      show m.signal.noticed < ((m.signal.after (.send stop)).notice).sent
      simp only [Signal.after, Signal.notice, hattended, if_true]
      omega

theorem Signal.noticed_after (s : Signal) (sign : Sign) : (s.after sign).noticed = s.noticed := by
  cases sign with
  | send stop => cases h : s.attended <;> simp [Signal.after, h]
  | leave => rfl

theorem noticed_receive (m : Moment) (signs : List Sign) :
    (m.receive signs).signal.noticed = m.signal.noticed := by
  induction signs generalizing m with
  | nil => rfl
  | cons sign rest ih => exact (ih (m.receive [sign])).trans (m.signal.noticed_after sign)

/-- **A wait takes as long as it was meant to, unless a signal ends it or nobody is left to send
one.** -/
theorem answer_wait_cases (plan : Schedule) (d : Duration) (m : Moment) :
    ((plan.answer (.wait d) m).1 = .elapsed ∧ (plan.answer (.wait d) m).2.now = m.now + d.nanos) ∨
    ((plan.answer (.wait d) m).1 = .signalled ∧ m.Notices (plan.answer (.wait d) m).2 ∧
      ∃ nanos ≤ d.nanos, (plan.answer (.wait d) m).2.now = m.now + nanos) ∨
    ((plan.answer (.wait d) m).1 = .abandoned ∧
        (plan.answer (.wait d) m).2.signal.attended = false) := by
  have hnoticed := noticed_receive m (plan m.asked).before
  rcases await_cases { m.receive (plan m.asked).before with asked := m.asked + 1 } d
    (plan m.asked).sign with helapsed | ⟨hwoken, hnotices, htime⟩ | halone
  · exact Or.inl helapsed
  · refine Or.inr (Or.inl ⟨hwoken, ?_, htime⟩)
    rw [Moment.Notices, ← hnoticed]
    exact hnotices
  · exact Or.inr (Or.inr halone)

end Journal.Consumer.Polling
