import Journal.Backoff
import Journal.Proofs.Program.Transcript
import Journal.Proofs.Store.Operation
import Mathlib.Data.Nat.Find
import Mathlib.Order.Bounds.Basic

/-!
# How often an operation is attempted

An operation is retried while other writers are faster. Its outcomes can be anything; say that call
number `n` has outcome number `n`. **The operation is called as often as it takes to have an outcome
that is no conflict, but no more often than the backoff allows, and the last outcome is the result**
(`takes_least`): the calls are numbered without a gap, and between two of them there is one pause,
as long as the backoff says after the first of the two.

A step of the loop either repeats (`attempts_again`) or is the last one (`attempts_last`); which of
the two it is depends on the number of the attempt and on its outcome alone.
-/

namespace Journal.Retry

variable {α : Type} {b : Backoff} {outcomes : Nat → Except StoreError α}
  {places : Nat → Float} {n k : Nat}

def Conflicted (outcome : Except StoreError α) : Prop :=
  ∃ aggregate expected actual, outcome = .error (.aggregateConflict aggregate expected actual)

theorem conflicted_error_iff {e : StoreError} :
    Conflicted (.error e : Except StoreError α) ↔ e.isConflict = true := by
  cases e <;> simp [Conflicted, StoreError.isConflict]

theorem not_conflicted_ok {a : α} : ¬ Conflicted (.ok a : Except StoreError α) := by
  simp [Conflicted]

/-- An operation whose call number `n` has outcome number `n`, and after each of which chance gives
a place. The state counts the calls, so that a call knows its number without being told. -/
def answering (outcomes : Nat → Except StoreError α) (places : Nat → Float) :
    (q : (calls α).Ask) → Nat → (calls α).Answer q × Nat
  | .attempt _, n => (outcomes (n + 1), n + 1)
  | .chance, n => (places n, n)
  | .pause _, n => ((), n)

def repeated (b : Backoff) (outcomes : Nat → Except StoreError α) (places : Nat → Float) (i : Nat) :
    List ((q : (calls α).Ask) × (calls α).Answer q) :=
  [⟨.attempt i, outcomes i⟩, ⟨.chance, places i⟩, ⟨.pause (b.delayAt i (places i)), ()⟩]

/-- The operation is called `k` times. -/
structure Takes (b : Backoff) (outcomes : Nat → Except StoreError α) (places : Nat → Float)
    (k : Nat) : Prop where
  /-- It is the smaller of the first attempt without a conflict and the number of attempts that are
  allowed; one is always made. -/
  least : IsLeast {n | 1 ≤ n ∧ (¬ Conflicted (outcomes n) ∨ n = max 1 b.attempts)} k
  /-- The last outcome is the result, and there were so many calls. -/
  ended : (retryOnConflict b).run (answering outcomes places) 0 = (outcomes k, k)
  /-- The attempts are numbered from one on, with one pause between two of them. -/
  asked : (retryOnConflict b).transcript (answering outcomes places) 0 =
    (List.range' 1 (k - 1)).flatMap (repeated b outcomes places) ++ [⟨.attempt k, outcomes k⟩]
  /-- The number of an attempt fits into thirty-two bits. -/
  counted : ∀ number outcome, (⟨.attempt number, outcome⟩ : (q : (calls α).Ask) ×
    (calls α).Answer q) ∈
    (retryOnConflict b).transcript (answering outcomes places) 0 → number < 2 ^ 32

/-! ## One step of the loop -/

theorem attempts_again (places : Nat → Float) (hconflict : Conflicted (outcomes (n + 1)))
    (hallowed : n + 1 < b.attempts) :
    (attempts b (n + 1)).run (answering outcomes places) n =
        (attempts b (n + 2)).run (answering outcomes places) (n + 1) ∧
      (attempts b (n + 1)).transcript (answering outcomes places) n =
        repeated b outcomes places (n + 1) ++
          (attempts b (n + 2)).transcript (answering outcomes places) (n + 1) := by
  have hretry : b.mayRetry (n + 1) = true := by simpa [Backoff.mayRetry] using hallowed
  rw [attempts]
  simp only [Program.run_ask, Program.transcript_ask, answering]
  cases houtcome : outcomes (n + 1) with
  | ok a =>
    rw [houtcome] at hconflict
    exact absurd hconflict not_conflicted_ok
  | error e =>
    rw [houtcome] at hconflict
    have hagain : e.isConflict = true ∧ b.mayRetry (n + 1) = true :=
      ⟨conflicted_error_iff.mp hconflict, hretry⟩
    simp only [dif_pos hagain, Program.run_ask, Program.transcript_ask, answering,
      repeated, houtcome, List.cons_append, List.nil_append, and_self]

theorem attempts_last (hlast : ¬ (Conflicted (outcomes (n + 1)) ∧ n + 1 < b.attempts)) :
    (attempts b (n + 1)).run (answering outcomes places) n = (outcomes (n + 1), n + 1) ∧
      (attempts b (n + 1)).transcript (answering outcomes places) n =
        [⟨.attempt (n + 1), outcomes (n + 1)⟩] := by
  rw [attempts]
  simp only [Program.run_ask, Program.transcript_ask, answering]
  cases houtcome : outcomes (n + 1) with
  | ok a => exact ⟨rfl, rfl⟩
  | error e =>
    have hstop : ¬ (e.isConflict = true ∧ b.mayRetry (n + 1) = true) := by
      intro hagain
      rw [houtcome] at hlast
      exact hlast ⟨conflicted_error_iff.mpr hagain.1, by simpa [Backoff.mayRetry] using hagain.2⟩
    simp only [dif_neg hstop, Program.run_done, Program.transcript_done, and_self]

/-! ## The loop -/

/-- From the call after the first `n` on, with `m` repetitions still to come. The induction is on
these: what lies before is of no consequence to what follows, except through the number of the
call. -/
theorem attempts_course (places : Nat → Float) (m : Nat)
    (hagain : ∀ i, n < i → i ≤ n + m → Conflicted (outcomes i) ∧ i < b.attempts)
    (hlast : ¬ (Conflicted (outcomes (n + m + 1)) ∧ n + m + 1 < b.attempts)) :
    (attempts b (n + 1)).run (answering outcomes places) n = (outcomes (n + m + 1), n + m + 1) ∧
      (attempts b (n + 1)).transcript (answering outcomes places) n =
        (List.range' (n + 1) m).flatMap (repeated b outcomes places) ++
          [⟨.attempt (n + m + 1), outcomes (n + m + 1)⟩] := by
  induction m generalizing n with
  | zero => exact attempts_last hlast
  | succ m ih =>
    obtain ⟨hconflict, hallowed⟩ := hagain (n + 1) (by omega) (by omega)
    obtain ⟨hrun, hasked⟩ := attempts_again places hconflict hallowed
    have harith : n + 1 + m + 1 = n + (m + 1) + 1 := by omega
    obtain ⟨hrun', hasked'⟩ := ih (n := n + 1) (fun i hi hle => hagain i (by omega) (by omega))
      (harith ▸ hlast)
    rw [harith] at hrun' hasked'
    refine ⟨hrun.trans hrun', ?_⟩
    rw [hasked, hasked', List.range'_succ, List.flatMap_cons, List.append_assoc]

theorem exists_least (b : Backoff) (outcomes : Nat → Except StoreError α) :
    ∃ k, IsLeast {n | 1 ≤ n ∧ (¬ Conflicted (outcomes n) ∨ n = max 1 b.attempts)} k := by
  classical
  have hsome : ∃ n, 1 ≤ n ∧ (¬ Conflicted (outcomes n) ∨ n = max 1 b.attempts) :=
    ⟨max 1 b.attempts, Nat.le_max_left .., Or.inr rfl⟩
  exact ⟨Nat.find hsome, Nat.find_spec hsome, fun n hn => Nat.find_min' hsome hn⟩

/-- **An operation is attempted until it meets no conflict or may not be attempted again**, whatever
its outcomes are; and the counter of attempts, which has thirty-two bits as the number of attempts
that are allowed, never overflows. -/
theorem takes_least (b : Backoff) (hbits : b.attempts < 2 ^ 32)
    (outcomes : Nat → Except StoreError α) (places : Nat → Float) :
    ∃ k, Takes b outcomes places k := by
  obtain ⟨k, hk⟩ := exists_least b outcomes
  have hbound : k ≤ max 1 b.attempts := hk.2 ⟨Nat.le_max_left .., Or.inr rfl⟩
  have hone : 1 ≤ k := hk.1.1
  -- What is repeated is in the way of no smaller number: it met a conflict, and another attempt was
  -- allowed.
  have hagain : ∀ i, 0 < i → i ≤ 0 + (k - 1) → Conflicted (outcomes i) ∧ i < b.attempts := by
    intro i hpos hle
    refine ⟨?_, by omega⟩
    by_contra hfree
    have : k ≤ i := hk.2 ⟨hpos, Or.inl hfree⟩
    omega
  have hlast : ¬ (Conflicted (outcomes (0 + (k - 1) + 1)) ∧ 0 + (k - 1) + 1 < b.attempts) := by
    rw [show 0 + (k - 1) + 1 = k by omega]
    rintro ⟨hconflict, hallowed⟩
    rcases hk.1.2 with hfree | hmost
    · exact hfree hconflict
    · omega
  obtain ⟨hended, hasked⟩ := attempts_course places (k - 1) hagain hlast
  rw [show 0 + (k - 1) + 1 = k by omega] at hended hasked
  refine ⟨k, hk, hended, hasked, ?_⟩
  intro number outcome hmem
  rw [retryOnConflict, hasked] at hmem
  have hle : number ≤ k := by
    simp only [repeated, List.mem_append, List.mem_flatMap, List.mem_range'_1, List.mem_cons,
      Sigma.mk.injEq, List.not_mem_nil, or_false, reduceCtorEq, false_and,
      Ask.attempt.injEq] at hmem
    omega
  omega

/-- Two attempts are overtaken and the third one is made, which is the last that is allowed. -/
def rivals (n : Nat) : Except StoreError String :=
  if n < 3 then .error (.aggregateConflict Sample.account (n - 1) (some n)) else .ok "posted"

theorem takes_rivals :
    (Backoff.exponential 3 (.ofMillis 10) (.ofMillis 50)).attempts < 2 ^ 32 ∧
      Takes (Backoff.exponential 3 (.ofMillis 10) (.ofMillis 50)) rivals
      (fun n => n.toFloat / 4) 3 := by
  have hbits : (Backoff.exponential 3 (.ofMillis 10) (.ofMillis 50)).attempts < 2 ^ 32 := by decide
  obtain ⟨k, hk⟩ := takes_least _ hbits rivals fun n => n.toFloat / 4
  have hthree : IsLeast {n | 1 ≤ n ∧ (¬ Conflicted (rivals n) ∨ n = 3)} 3 := by
    refine ⟨⟨by decide, Or.inr rfl⟩, ?_⟩
    rintro n ⟨-, hfree | rfl⟩
    · by_contra hlt
      exact hfree ⟨_, _, _, if_pos (by omega)⟩
    · exact le_refl _
  obtain rfl : k = 3 := hk.least.unique hthree
  exact ⟨hbits, hk⟩

end Journal.Retry
