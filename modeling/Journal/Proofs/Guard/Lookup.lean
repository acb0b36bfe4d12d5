import Journal.Guard

/-!
# What the guard does to a record

Everything that a client can learn from a guard is in `Guard.lookup`, so this is all that has to be
known of its operations: one equation for each, which says what is found under every key afterwards.

**An answered record is at the mercy of a purge and of nothing else** (`lookup_reserve_of_answered`
and its siblings). A reservation finds it and leaves it, a second response does not replace the
first, and only a record without a response is given up.
-/

namespace Journal

namespace Guard

variable {g kept : Guard} {k l : Key} {hash : String} {response : Response}
  {now : Instant} {r : Record}

theorem lookup_insert (g : Guard) (k l : Key) (r : Record) :
    lookup ⟨g.records.insert k r⟩ l = if l = k then some r else g.lookup l :=
  Keyed.get?_insert g.records k l r

theorem lookup_reserve (g : Guard) (k l : Key) (hash : String) (now : Instant) :
    (g.reserve k hash now).2.lookup l =
      if l = k then some ((g.lookup k).getD ⟨k, hash, none, now⟩) else g.lookup l := by
  unfold reserve
  cases hk : g.lookup k with
  | none => exact lookup_insert g k l _
  | some r =>
    by_cases hl : l = k
    · simp [hl, hk]
    · simp [hl]

def Record.answeredBy (r : Record) (response : Response) : Record :=
  { r with response := some (r.response.getD response) }

theorem Record.answeredBy_of_answered {first : Response} (h : r.response = some first) :
    r.answeredBy response = r := by
  rw [answeredBy, h, Option.getD_some, ← h]

theorem lookup_record (h : g.record k hash response now = .ok kept) (l : Key) :
    kept.lookup l =
      if l = k then some (((g.lookup k).getD ⟨k, hash, none, now⟩).answeredBy response)
      else g.lookup l := by
  unfold record at h
  cases hk : g.lookup k with
  | none =>
    simp only [hk] at h
    cases h
    exact lookup_insert g k l _
  | some r =>
    simp only [hk] at h
    by_cases hhash : r.hash = hash
    · rw [if_pos hhash] at h
      cases hr : r.response with
      | none =>
        simp only [hr] at h
        cases h
        rw [lookup_insert]
        simp [Record.answeredBy, hr]
      | some first =>
        simp only [hr] at h
        cases h
        by_cases hl : l = k
        · simp [hl, hk, Record.answeredBy_of_answered hr]
        · simp [hl]
    · rw [if_neg hhash] at h
      cases h

theorem lookup_release (g : Guard) (k l : Key) (hash : String) :
    (g.release k hash).lookup l =
      if l = k then (g.lookup k).filter fun r => !decide (r.hash = hash ∧ r.response = none)
      else g.lookup l := by
  unfold release
  cases hk : g.lookup k with
  | none =>
    by_cases hl : l = k
    · simp [hl, hk]
    · simp [hl]
  | some r =>
    dsimp only
    by_cases hgive : r.hash = hash ∧ r.response = none
    · rw [if_pos hgive, lookup, Keyed.get?_erase,
        Option.filter_some_neg (by simp only [decide_eq_true hgive, Bool.not_true])]
      rfl
    · rw [if_neg hgive,
        Option.filter_some_pos (by simp only [decide_eq_false hgive, Bool.not_false])]
      by_cases hl : l = k
      · rw [if_pos hl, hl, hk]
      · rw [if_neg hl]

theorem lookup_purge (g : Guard) (asked : Duration) (now : Instant) (l : Key) :
    (g.purge asked now).2.lookup l = match expiry? asked now with
      | none => g.lookup l
      | some cutoff => (g.lookup l).filter fun r => !r.createdAt.before cutoff := by
  unfold purge
  cases expiry? asked now with
  | none => rfl
  | some cutoff => exact Keyed.get?_filter g.records _ l

/-! ## A record with a response -/

section Answered

variable {first : Response}

theorem lookup_reserve_of_answered (hr : g.lookup l = some r) (k : Key) (hash : String)
    (now : Instant) :
    (g.reserve k hash now).2.lookup l = some r := by
  rw [lookup_reserve]
  by_cases hl : l = k
  · rw [if_pos hl, ← hl, hr]
    rfl
  · rw [if_neg hl, hr]

theorem lookup_record_of_answered (hr : g.lookup l = some r) (answered : r.response = some first)
    (h : g.record k hash response now = .ok kept) : kept.lookup l = some r := by
  rw [lookup_record h]
  by_cases hl : l = k
  · rw [if_pos hl, ← hl, hr, Option.getD_some, Record.answeredBy_of_answered answered]
  · rw [if_neg hl, hr]

theorem lookup_release_of_answered (hr : g.lookup l = some r) (answered : r.response = some first)
    (k : Key) (hash : String) : (g.release k hash).lookup l = some r := by
  rw [lookup_release]
  by_cases hl : l = k
  · rw [if_pos hl, ← hl, hr]
    exact Option.filter_some_pos (by simp [answered])
  · rw [if_neg hl, hr]

theorem lookup_purge_cases (hr : g.lookup l = some r) (asked : Duration) (now : Instant) :
    (g.purge asked now).2.lookup l = some r ∨ (g.purge asked now).2.lookup l = none := by
  rw [lookup_purge, hr]
  cases expiry? asked now with
  | none => exact Or.inl rfl
  | some cutoff =>
    cases hexpired : r.createdAt.before cutoff with
    | true => exact Or.inr (Option.filter_some_neg (by simp [hexpired]))
    | false => exact Or.inl (Option.filter_some_pos (by simp [hexpired]))

end Answered

end Guard

end Journal
