import Journal.Decimal.Whole

/-!
# What a whole number is read from

**A text is read as a number exactly when it denotes the number and the number is below the limit**
(`readWhole_eq_ok_iff`): digits denote a number, as many of them as one likes, and a plus before
them changes nothing. On the way from the left the number only grows, so that one which meets the
limit with some of its digits does so with all.
-/

namespace Journal.Decimal

variable {limit n m : Nat} {c : Char} {ds : List Char} {s : String}

/-- Digits, and perhaps a plus before them. -/
def Denotes (s : String) (n : Nat) : Prop :=
  ∃ ds, (s.toList = ds ∨ s.toList = '+' :: ds) ∧ ds ≠ [] ∧ (∀ c ∈ ds, c.isDigit = true) ∧
    Nat.ofDigitChars 10 ds 0 = n

theorem nextDigit_eq_ok_iff :
    nextDigit limit n c = .ok m ↔ c.isDigit = true ∧ m = 10 * n + (c.toNat - '0'.toNat) ∧
    m < limit := by
  rw [nextDigit, Nat.mul_comm n 10]
  by_cases hdigit : c.isDigit = true
  · simp only [if_pos hdigit]
    by_cases hlt : 10 * n + (c.toNat - '0'.toNat) < limit
    · rw [if_pos hlt, Except.ok.injEq]
      constructor
      · rintro rfl
        exact ⟨hdigit, rfl, hlt⟩
      · rintro ⟨-, rfl, -⟩
        rfl
    · rw [if_neg hlt]
      refine iff_of_false (by simp) ?_
      rintro ⟨-, rfl, hm⟩
      exact hlt hm
  · rw [if_neg hdigit]
    exact iff_of_false (by simp) fun h => hdigit h.1

theorem le_ofDigitChars (ds : List Char) (n : Nat) : n ≤ Nat.ofDigitChars 10 ds n := by
  induction ds generalizing n with
  | nil => simp
  | cons c ds ih =>
    rw [Nat.ofDigitChars_cons]
    have := ih (10 * n + (c.toNat - '0'.toNat))
    omega

theorem foldlM_nextDigit_eq_ok_iff (hn : n < limit) :
    ds.foldlM (nextDigit limit) n = .ok m ↔
      (∀ c ∈ ds, c.isDigit = true) ∧ Nat.ofDigitChars 10 ds n = m ∧ m < limit := by
  induction ds generalizing n with
  | nil =>
    rw [List.foldlM_nil, Nat.ofDigitChars_nil]
    constructor
    · intro h
      cases h
      exact ⟨by simp, rfl, hn⟩
    · rintro ⟨-, rfl, -⟩
      rfl
  | cons c ds ih =>
    rw [List.foldlM_cons, List.forall_mem_cons, Nat.ofDigitChars_cons]
    cases hc : nextDigit limit n c with
    | error fault =>
      refine iff_of_false (by rintro ⟨⟩) ?_
      rintro ⟨⟨hdigit, -⟩, rfl, hlt⟩
      have hgrow := le_ofDigitChars ds (10 * n + (c.toNat - '0'.toNat))
      rw [nextDigit_eq_ok_iff.mpr ⟨hdigit, rfl, Nat.lt_of_le_of_lt hgrow hlt⟩] at hc
      cases hc
    | ok k =>
      obtain ⟨hdigit, rfl, hk⟩ := nextDigit_eq_ok_iff.mp hc
      rw [show (Except.ok _ >>= fun k => ds.foldlM (nextDigit limit) k) =
        ds.foldlM (nextDigit limit)
        (10 * n + (c.toNat - '0'.toNat)) from rfl, ih hk, and_iff_right hdigit]

theorem wholeOfDigits_eq_ok_iff (hlimit : 0 < limit) :
    wholeOfDigits limit ds = .ok n ↔
      (∀ c ∈ ds, c.isDigit = true) ∧ Nat.ofDigitChars 10 ds 0 = n ∧ n < limit :=
  foldlM_nextDigit_eq_ok_iff hlimit

theorem readWhole_eq_ok_iff (hlimit : 0 < limit) : readWhole limit s = .ok n ↔ Denotes s n ∧
    n < limit := by
  have hplus : '+'.isDigit = false := by decide
  unfold readWhole Denotes
  split
  · next hs =>
    refine iff_of_false (by rintro ⟨⟩) ?_
    rintro ⟨⟨ds, rfl | h, hne, -⟩, -⟩
    · exact hne hs
    · rw [hs] at h
      cases h
  · next hs =>
    refine iff_of_false (by rintro ⟨⟩) ?_
    rintro ⟨⟨ds, rfl | h, hne, hdigits, -⟩, -⟩
    · rw [hs] at hdigits
      exact absurd (hdigits '+' (List.mem_singleton_self _)) (by simp [hplus])
    · rw [hs] at h
      exact hne (List.cons.inj h).2.symm
  · next ds hne hs =>
    rw [wholeOfDigits_eq_ok_iff hlimit, hs]
    constructor
    · rintro ⟨hdigits, hvalue, hlt⟩
      exact ⟨⟨ds, Or.inr rfl, fun h => hne (h ▸ rfl), hdigits, hvalue⟩, hlt⟩
    · rintro ⟨⟨ds', rfl | h, -, hdigits, hvalue⟩, hlt⟩
      · exact absurd (hdigits '+' List.mem_cons_self) (by simp [hplus])
      · obtain rfl := (List.cons.inj h).2
        exact ⟨hdigits, hvalue, hlt⟩
  · next hempty hlone hlead =>
    rw [wholeOfDigits_eq_ok_iff hlimit]
    constructor
    · rintro ⟨hdigits, hvalue, hlt⟩
      exact ⟨⟨s.toList, Or.inl rfl, hempty, hdigits, hvalue⟩, hlt⟩
    · rintro ⟨⟨ds, rfl | h, -, hdigits, hvalue⟩, hlt⟩
      · exact ⟨hdigits, hvalue, hlt⟩
      · exact absurd h (hlead ds)

end Journal.Decimal
