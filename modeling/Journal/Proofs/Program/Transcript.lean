import Journal.Program

/-!
# What was asked

A run of a program by itself is its result and the state that it leaves. Its transcript is all that
was asked on the way, with the answers: what a result does not show, such as how often something was
asked for and in what order, is said about the transcript. **The transcript of two programs one
after the other is the two transcripts one after the other** (`transcript_bind`), which is what a
proof about a program in parts needs to know.

The steps of a run are its transcript with the states before and after each answer, for what is said
about the time at which something is asked.
-/

namespace Journal

namespace Program

universe u

variable {I : Interface.{u}} {α β σ : Type}

def transcript (answer : (q : I.Ask) → σ → I.Answer q × σ) : Program I α → σ →
    List ((q : I.Ask) × I.Answer q)
  | .done _, _ => []
  | .ask q next, s => ⟨q, (answer q s).1⟩ :: (next (answer q s).1).transcript answer (answer q s).2

variable (answer : (q : I.Ask) → σ → I.Answer q × σ)

@[simp] theorem run_done (a : α) (s : σ) : (done a : Program I α).run answer s = (a, s) := rfl

@[simp] theorem run_ask (q : I.Ask) (next : I.Answer q → Program I α) (s : σ) :
    (ask q next).run answer s = (next (answer q s).1).run answer (answer q s).2 := rfl

@[simp] theorem transcript_done (a : α) (s : σ) : (done a : Program I α).transcript answer s = [] :=
  rfl

@[simp] theorem transcript_ask (q : I.Ask) (next : I.Answer q → Program I α) (s : σ) :
    (ask q next).transcript answer s =
      ⟨q, (answer q s).1⟩ :: (next (answer q s).1).transcript answer (answer q s).2 := rfl

theorem transcript_bind (p : Program I α) (f : α → Program I β) (s : σ) :
    (p.bind f).transcript answer s =
      p.transcript answer s ++ (f (p.run answer s).1).transcript answer (p.run answer s).2 := by
  induction p generalizing s with
  | done a => rfl
  | ask q next ih =>
    rw [bind, transcript_ask, transcript_ask, run_ask, ih, List.cons_append]

structure Step (I : Interface.{u}) (σ : Type) where
  exchange : (q : I.Ask) × I.Answer q
  before : σ
  after : σ

def steps : Program I α → σ → List (Step I σ)
  | .done _, _ => []
  | .ask q next, s =>
    ⟨⟨q, (answer q s).1⟩, s, (answer q s).2⟩ :: (next (answer q s).1).steps (answer q s).2

@[simp] theorem steps_done (a : α) (s : σ) : (done a : Program I α).steps answer s = [] := rfl

@[simp] theorem steps_ask (q : I.Ask) (next : I.Answer q → Program I α) (s : σ) :
    (ask q next).steps answer s =
      ⟨⟨q, (answer q s).1⟩, s, (answer q s).2⟩ :: (next (answer q s).1).steps answer
      (answer q s).2 := rfl

end Program

end Journal
