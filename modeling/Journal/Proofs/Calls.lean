import Journal.Time.Instant
import Mathlib.Logic.Basic

/-!
# Calls made one after the other

Whoever uses a store, a guard or a table of checkpoints makes calls, each at an instant of its own,
and sees the answers. `makeCalls` is such a use, for any kind of call and whatever it is that is
called.

**Two that answer each call alike answer every sequence of calls alike** (`makeCalls_alike`): what
has to be shown of them is about a single call, from any two states that are related. What one call
keeps, all of them keep (`makeCalls_keep`).
-/

namespace Journal

variable {χ ρ σ τ : Type} {ask : Instant → χ → σ → ρ × σ} {other : Instant → χ → τ → ρ × τ}
  {s : σ} {t : τ} {calls : List χ}

/-- Make calls one after the other, each at its instant: the answers, and what is held at the
end. -/
def makeCalls (ask : Instant → χ → σ → ρ × σ) : (Nat → Instant) → σ → List χ → List ρ × σ
  | _, s, [] => ([], s)
  | clock, s, call :: rest =>
    let (reply, t) := ask (clock 0) call s
    let (replies, u) := makeCalls ask (fun n => clock (n + 1)) t rest
    (reply :: replies, u)

theorem makeCalls_keep (P : σ → Prop) (keeps : ∀ now call s, P s → P (ask now call s).2)
    (clock : Nat → Instant) (calls : List χ) (start : P s) : P (makeCalls ask clock s calls).2 := by
  induction calls generalizing s clock with
  | nil => exact start
  | cons call rest ih => exact ih _ (keeps (clock 0) call s start)

/-- **Two that answer each call alike, and stay related by it, answer every sequence of calls
alike.** `Fits` is what has to hold of a call at its instant for that; it is asked of every call of
the sequence at the instant at which it is made, and of no other. -/
theorem makeCalls_alike (R : σ → τ → Prop) (Fits : Instant → χ → Prop)
    (agree : ∀ now call s t, R s t → Fits now call →
      (ask now call s).1 = (other now call t).1 ∧ R (ask now call s).2 (other now call t).2)
    (related : R s t) (clock : Nat → Instant)
    (fits : ∀ n call, calls[n]? = some call → Fits (clock n) call) :
    (makeCalls ask clock s calls).1 = (makeCalls other clock t calls).1 ∧
      R (makeCalls ask clock s calls).2 (makeCalls other clock t calls).2 := by
  induction calls generalizing s t clock with
  | nil => exact ⟨rfl, related⟩
  | cons call rest ih =>
    obtain ⟨hsame, hrelated⟩ := agree _ _ _ _ related (fits 0 call rfl)
    obtain ⟨hrest, hend⟩ := ih hrelated (fun n => clock (n + 1)) fun n c hc => fits (n + 1) c hc
    exact ⟨congrArg₂ List.cons hsame hrest, hend⟩

end Journal
