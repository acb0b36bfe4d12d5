import Journal.Read

/-!
# What a granted access accepts

A request names a filter, and the reader has a scope; what is granted is neither of the two but a
filter with the organization written into it and a list of kinds to leave out. `Scope.sees` says
what a scope is meant to show, event by event and with no filter in sight, and **`wants_of_refusal?`
says that an access wants exactly what the filter accepts and the scope sees** (`Filter.selects`).
The refusals of `Access.grant` are needed for it in one place only: the organization may be written
over the filter's own, because a filter that names another one is never granted.

The refusal of a request depends on neither its position nor its limit (`authorize_eq`), so that a
reader who was granted one page is granted the next.
-/

namespace Journal

def Scope.sees (p : Policy) : Scope → Event → Bool
  | .org o, e => e.org == some o && !p.isInfrastructure e.aggregate.kind
  | .internal, e => !p.isInfrastructure e.aggregate.kind
  | .elevated, _ => true

def Filter.selects (f : Filter) (scope : Scope) (p : Policy) (e : Event) : Bool :=
  f.accepts e && scope.sees p e

theorem Filter.sees_of_selects {f : Filter} {scope : Scope} {p : Policy} {e : Event}
    (h : f.selects scope p e = true) : scope.sees p e = true := by
  rw [Filter.selects, Bool.and_eq_true] at h
  exact h.2

namespace Access

def narrowed (f : Filter) : Scope → Filter
  | .org o => { f with org := some o }
  | .internal | .elevated => f

def hidden (p : Policy) : Scope → List AggregateKind
  | .org _ | .internal => p.kinds
  | .elevated => []

def infrastructure? (f : Filter) (p : Policy) : Option Denial :=
  match f.kind with
  | some k => if p.isInfrastructure k then some (.infrastructure k) else none
  | none => none

/-- Why a request is denied, if it is. -/
def refusal? (f : Filter) (p : Policy) : Scope → Option Denial
  | .org o =>
    match f.org with
    | some asked => if asked = o then infrastructure? f p else some (.foreignOrg o asked)
    | none => infrastructure? f p
  | .internal => infrastructure? f p
  | .elevated => none

theorem denyInfrastructure_eq (f : Filter) (p : Policy) :
    denyInfrastructure f p = match infrastructure? f p with
      | some d => .error d
      | none => .ok () := by
  unfold denyInfrastructure infrastructure?
  cases f.kind with
  | none => rfl
  | some k =>
    dsimp only
    by_cases hk : p.isInfrastructure k = true
    · rw [if_pos hk, if_pos hk]
    · rw [if_neg hk, if_neg hk]

/-- A request is denied, or granted with the filter narrowed to the scope. -/
theorem grant_eq (after : EventId) (limit : Option Nat) (f : Filter) (scope : Scope) (p : Policy) :
    grant after limit f scope p = match refusal? f p scope with
      | some d => .error d
      | none => .ok ⟨after, pageSize limit, narrowed f scope, hidden p scope⟩ := by
  obtain ⟨org, kind, aggregateId, type⟩ := f
  cases scope with
  | org o =>
    cases org with
    | none =>
      simp only [grant, refusal?, denyInfrastructure_eq]
      cases infrastructure? _ p <;> rfl
    | some asked =>
      by_cases ho : asked = o
      · subst ho
        simp only [grant, refusal?, denyInfrastructure_eq, if_true]
        cases infrastructure? _ p <;> rfl
      · simp [grant, refusal?, ho]
  | internal =>
    simp only [grant, refusal?, denyInfrastructure_eq]
    cases infrastructure? _ p <;> rfl
  | elevated => rfl

theorem authorize_eq (after : EventId) (limit : Option Nat) (f : Filter) (scope : Scope)
    (p : Policy) :
    authorize after limit f scope p = match refusal? f p scope with
      | some d => .error (.forbidden d.message)
      | none => .ok ⟨after, pageSize limit, narrowed f scope, hidden p scope⟩ := by
  rw [authorize, grant_eq]
  cases refusal? f p scope <;> rfl

theorem refusal?_of_authorize {after : EventId} {limit : Option Nat} {f : Filter} {scope : Scope}
    {p : Policy} {access : Access} (h : authorize after limit f scope p = .ok access) :
    refusal? f p scope = none := by
  rw [authorize_eq] at h
  cases hr : refusal? f p scope with
  | none => rfl
  | some d =>
    rw [hr] at h
    cases h

def wants (a : Access) (e : Event) : Bool :=
  !a.excluded.contains e.aggregate.kind && a.filter.accepts e

theorem accepts_eq (a : Access) (e : Event) :
    a.accepts e = (decide (a.after < e.id) && a.wants e) :=
  Bool.and_assoc _ _ _

/-- **What is granted wants what the filter accepts and the scope sees.** -/
theorem wants_of_refusal? {f : Filter} {scope : Scope} {p : Policy} (h : refusal? f p scope = none)
    (after : EventId) (limit : Nat) :
    wants ⟨after, limit, narrowed f scope, hidden p scope⟩ = f.selects scope p := by
  funext e
  unfold Filter.selects
  obtain ⟨org, kind, aggregateId, type⟩ := f
  cases scope with
  | org o =>
    -- Either the filter names no organization or it names this one, and then it is tested twice.
    have horg : org = none ∨ org = some o := by
      cases org with
      | none => exact Or.inl rfl
      | some asked =>
        by_cases ho : asked = o
        · exact Or.inr (congrArg some ho)
        · simp [refusal?, ho] at h
    rcases horg with rfl | rfl
    · simp only [wants, narrowed, hidden, Filter.accepts, Scope.sees, Policy.isInfrastructure,
        Option.all_some, Option.all_none]
      cases e.org == some o <;> cases p.kinds.contains e.aggregate.kind <;> simp
    · simp only [wants, narrowed, hidden, Filter.accepts, Scope.sees, Policy.isInfrastructure,
        Option.all_some]
      cases e.org == some o <;> cases p.kinds.contains e.aggregate.kind <;> simp
  | internal => exact Bool.and_comm _ _
  | elevated =>
    simp [wants, narrowed, hidden, Scope.sees]

end Access

end Journal
