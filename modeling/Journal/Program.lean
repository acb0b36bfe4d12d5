/-!
# Programs that ask

A `Program` is code written against an interface: it asks one question after the other, each
answered by whoever runs it, and ends with a result. Nothing happens between two questions, so that
what other tasks do is placed exactly there. A program is a tree with one branch for each answer; it
is therefore finite along every run, and the functions that run or expand it are recursive on it.

`Program.run` answers every question from a state; `Program.expand` replaces every question by a
program over another interface, and `Program.interpret` carries a state along as well. Running two
programs one after the other is running them as one (`run_bind`).
-/

namespace Journal

/-- The questions that a program may ask, and the type of the answer to each. -/
structure Interface.{u} where
  Ask : Type u
  Answer : Ask → Type

/-- Code that asks questions and ends with a result. What is done with an answer is a function of
it, so that there is one branch for each answer and every one of them is part of the program. -/
inductive Program.{u} (I : Interface.{u}) (α : Type) : Type u where
  | done (a : α)
  | ask (q : I.Ask) (next : I.Answer q → Program I α)

namespace Program

universe u v

variable {I : Interface.{u}} {J : Interface.{v}} {α β γ σ : Type}

def bind : Program I α → (α → Program I β) → Program I β
  | .done a, f => f a
  | .ask q next, f => .ask q fun r => (next r).bind f

instance : Monad (Program I) where
  pure := .done
  bind := bind

/-- Ask one question and answer with its answer. -/
def question (q : I.Ask) : Program I (I.Answer q) := .ask q .done

/-- Run a program by answering its questions from a state. -/
def run (answer : (q : I.Ask) → σ → I.Answer q × σ) : Program I α → σ → α × σ
  | .done a, s => (a, s)
  | .ask q next, s =>
    let (r, s) := answer q s
    (next r).run answer s

/-- Replace every question by a program over another interface; a state is carried from one to the
next. This is how code against one interface is run by whoever has only another to ask. -/
def interpret (f : (q : I.Ask) → σ → Program J (I.Answer q × σ)) : Program I α → σ →
    Program J (α × σ)
  | .done a, s => .done (a, s)
  | .ask q next, s => (f q s).bind fun (r, s) => (next r).interpret f s

def expand (f : (q : I.Ask) → Program J (I.Answer q)) : Program I α → Program J α
  | .done a => .done a
  | .ask q next => (f q).bind fun r => (next r).expand f

@[simp] theorem bind_done (a : α) (f : α → Program I β) : (done a).bind f = f a := rfl

@[simp] theorem bind_pure (p : Program I α) : p.bind done = p := by
  induction p with
  | done a => rfl
  | ask q next ih => exact congrArg (ask q) (funext ih)

theorem bind_assoc (p : Program I α) (f : α → Program I β) (g : β → Program I γ) :
    (p.bind f).bind g = p.bind fun a => (f a).bind g := by
  induction p with
  | done a => rfl
  | ask q next ih => exact congrArg (ask q) (funext ih)

instance : LawfulMonad (Program I) :=
  LawfulMonad.mk' _
    (fun p => bind_pure p)
    (fun _ _ => rfl)
    (fun p f g => bind_assoc p f g)

/-- Running two programs one after the other is running them as one. -/
theorem run_bind (answer : (q : I.Ask) → σ → I.Answer q × σ) (p : Program I α) (f : α → Program I β)
    (s : σ) :
    (p.bind f).run answer s = (f (p.run answer s).1).run answer (p.run answer s).2 := by
  induction p generalizing s with
  | done a => rfl
  | ask q next ih => exact ih _ _

end Program

end Journal
