import Journal.Program

/-!
# Programs among others

A program that asks shares its world with others, who can do something between any two of its
questions, and it may be given up at any of them. `Surroundings` says how a question can be answered
and what the others can do in between; `Upholds` is what has to be shown of a program in them: at
every moment the invariant holds, every answer changes the world in a permitted way, and at the end
there is a result with its postcondition.

Nothing here runs a program. Whoever does, one question at a time and with whatever stops and
restarts, has in `Upholds.answer` and `Upholds.drift` the two steps that keep the property, and in
`Upholds.inv` what it is good for.
-/

namespace Journal

/-- How questions are answered in a shared world, and what others make of it between two questions.
What others do is a relation that they may go through any number of times, none included. -/
structure Surroundings.{u} (I : Interface.{u}) (ω : Type) where
  answers : (q : I.Ask) → ω → I.Answer q → ω → Prop
  drift : ω → ω → Prop
  drift_refl : ∀ w, drift w w
  drift_trans : ∀ {u v w}, drift u v → drift v w → drift u w

/-- What a program has to keep in its surroundings: an invariant, which others keep as well, and
what it may make of one world in another by its own answers. -/
structure Terms.{u} {I : Interface.{u}} {ω : Type} (S : Surroundings I ω) where
  inv : ω → Prop
  permits : ω → ω → Prop
  inv_drift : ∀ {v w}, inv v → S.drift v w → inv w

namespace Program

universe u

variable {I : Interface.{u}} {ω α β : Type} {S : Surroundings I ω}

/-- From this world on, the program keeps the terms and ends only with the postcondition. -/
def Upholds (T : Terms S) (post : α → ω → Prop) : Program I α → ω → Prop
  | .done a, w => ∀ v, S.drift w v → T.inv v ∧ post a v
  | .ask q next, w => ∀ v, S.drift w v → T.inv v ∧
      ∀ r x, S.answers q v r x → T.permits v x ∧ (next r).Upholds T post x

namespace Upholds

variable {T : Terms S} {post post' : α → ω → Prop} {w v x : ω} {p : Program I α}

theorem inv (h : p.Upholds T post w) : T.inv w := by
  cases p with
  | done a => exact (h w (S.drift_refl w)).1
  | ask q next => exact (h w (S.drift_refl w)).1

theorem result {a : α} (h : (Program.done a : Program I α).Upholds T post w) : post a w :=
  (h w (S.drift_refl w)).2

/-- Others do not disturb a program that upholds its terms. -/
theorem drift (h : p.Upholds T post w) (hd : S.drift w v) : p.Upholds T post v := by
  cases p with
  | done a => exact fun x hx => h x (S.drift_trans hd hx)
  | ask q next => exact fun x hx => h x (S.drift_trans hd hx)

theorem answer {q : I.Ask} {next : I.Answer q → Program I α}
    (h : (Program.ask q next).Upholds T post w) {r : I.Answer q} (ha : S.answers q w r x) :
    T.permits w x ∧ (next r).Upholds T post x :=
  (h w (S.drift_refl w)).2 r x ha

theorem of_done {a : α} (hinv : T.inv w) (hpost : ∀ v, S.drift w v → post a v) :
    (Program.done a : Program I α).Upholds T post w :=
  fun v hd => ⟨T.inv_drift hinv hd, hpost v hd⟩

theorem of_ask {q : I.Ask} {next : I.Answer q → Program I α} (hinv : T.inv w)
    (hnext : ∀ v, S.drift w v → T.inv v → ∀ r x, S.answers q v r x →
      T.permits v x ∧ (next r).Upholds T post x) :
    (Program.ask q next).Upholds T post w := by
  intro v hd
  have hv := T.inv_drift hinv hd
  exact ⟨hv, hnext v hd hv⟩

theorem mono (h : p.Upholds T post w) (hpost : ∀ a v, T.inv v → post a v → post' a v) :
    p.Upholds T post' w := by
  induction p generalizing w with
  | done a =>
    intro v hd
    exact ⟨(h v hd).1, hpost a v (h v hd).1 (h v hd).2⟩
  | ask q next ih =>
    intro v hd
    refine ⟨(h v hd).1, fun r x ha => ?_⟩
    obtain ⟨hpermits, hnext⟩ := (h v hd).2 r x ha
    exact ⟨hpermits, ih r hnext⟩

/-- One program after the other: the first has to end where the second can begin. -/
theorem bind {f : α → Program I β} {post : β → ω → Prop}
    (h : p.Upholds T (fun a v => (f a).Upholds T post v) w) : (p.bind f).Upholds T post w := by
  -- On the first program; at its end the second one takes over in the world as it is then.
  induction p generalizing w with
  | done a => exact (h w (S.drift_refl w)).2
  | ask q next ih =>
    intro v hd
    refine ⟨(h v hd).1, fun r x ha => ?_⟩
    obtain ⟨hpermits, hnext⟩ := (h v hd).2 r x ha
    exact ⟨hpermits, ih r hnext⟩

end Upholds

end Program

end Journal
