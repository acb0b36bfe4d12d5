import Journal.Projection.Registry
import Journal.Proofs.Keyed
import Journal.Proofs.Store.Operation

/-!
# What a registry is told

A registry is built by declarations: a handler for a version of a type, or a type that is
irrelevant. Each may be refused, and one that is refused leaves no trace. **What a registry does
with an event is told by the declarations it accepted**, and by nothing else about them
(`Dispatches`): not by their order, since no two that are accepted speak of the same event. The
guards that each kind of declaration makes against the other are what keeps types that are ignored
and types that are handled apart (`Knows.apart`), and so the look at the ignored types that `apply`
takes first decides nothing.
-/

namespace Journal

namespace Registry

variable {σ : Type} {r s : Registry σ} {type : String} {version : Nat} {h : Handler σ}

inductive Declaration (σ : Type)
  | handle (type : String) (version : Nat) (h : Handler σ)
  | ignore (type : String)

namespace Declaration

def declare (r : Registry σ) : Declaration σ → Except ProjectionError (Registry σ)
  | handle type version h => r.register type version h
  | ignore type => r.ignore type

def duplicate : Declaration σ → ProjectionError
  | handle type version _ => .duplicateHandler type version
  | ignore type => .duplicateHandler type 0

/-- One of the declarations speaks of an event of which this one speaks. An ignored type may be
ignored again. -/
def Clashes (accepted : List (Declaration σ)) : Declaration σ → Prop
  | handle type version _ => ignore type ∈ accepted ∨ ∃ h, handle type version h ∈ accepted
  | ignore type => ∃ version h, handle type version h ∈ accepted

end Declaration

def receive (r : Registry σ) (d : Declaration σ) : Registry σ :=
  match d.declare r with
  | .ok s => s
  | .error _ => r

def after (r : Registry σ) (ds : List (Declaration σ)) : Registry σ := ds.foldl receive r

theorem receive_of_accepted {d : Declaration σ} (hd : d.declare r = .ok s) : r.receive d = s := by
  rw [receive, hd]

theorem receive_of_refused {d : Declaration σ} {error : ProjectionError}
    (hd : d.declare r = .error error) :
    r.receive d = r := by
  rw [receive, hd]

theorem after_cons (r : Registry σ) (d : Declaration σ) (ds : List (Declaration σ)) :
    r.after (d :: ds) = (r.receive d).after ds := rfl

def accepted (r : Registry σ) : List (Declaration σ) → List (Declaration σ)
  | [] => []
  | d :: rest =>
    match d.declare r with
    | .ok s => d :: s.accepted rest
    | .error _ => r.accepted rest

/-! ## Declarations and tables -/

theorem handlesType_iff :
    r.handlesType type = true ↔ ∃ version h, r.handlers.get? (type, version) = some h := by
  rw [handlesType, Keyed.keys, List.any_map, List.any_eq_true]
  constructor
  · rintro ⟨⟨⟨t, version⟩, h⟩, hmem, heq⟩
    obtain rfl : t = type := eq_of_beq heq
    exact ⟨version, h, Keyed.mem_entries_iff.mp hmem⟩
  · rintro ⟨version, h, hget⟩
    exact ⟨((type, version), h), Keyed.mem_entries_iff.mpr hget, beq_self_eq_true type⟩

/-- The tables of a registry hold what it accepted. -/
structure Knows (r : Registry σ) (accepted : List (Declaration σ)) : Prop where
  ignored : ∀ type, r.ignores type = true ↔ .ignore type ∈ accepted
  handled : ∀ type version h, r.handlers.get? (type, version) = some h ↔
    .handle type version h ∈ accepted
  apart : ∀ type version h, .ignore type ∈ accepted → .handle type version h ∉ accepted

namespace Knows

variable {accepted : List (Declaration σ)}

theorem empty : (empty : Registry σ).Knows [] where
  ignored _ := iff_of_false Bool.false_ne_true List.not_mem_nil
  handled _ _ _ := iff_of_false nofun List.not_mem_nil
  apart _ _ _ h := absurd h List.not_mem_nil

theorem handles_iff (hknows : r.Knows accepted) :
    r.handles type version = true ↔ ∃ h, .handle type version h ∈ accepted := by
  rw [handles, Keyed.contains, Option.isSome_iff_exists]
  exact exists_congr fun h => hknows.handled type version h

theorem handlesType_iff (hknows : r.Knows accepted) :
    r.handlesType type = true ↔ ∃ version h, .handle type version h ∈ accepted := by
  rw [Registry.handlesType_iff]
  exact exists_congr fun version => exists_congr fun h => hknows.handled type version h

/-- A declaration is refused exactly when it clashes. -/
theorem declare_of_clashes (hknows : r.Knows accepted) {d : Declaration σ}
    (hclash : d.Clashes accepted) :
    d.declare r = .error d.duplicate := by
  cases d with
  | handle type version h =>
    refine if_pos ?_
    rw [Bool.or_eq_true, hknows.handles_iff, hknows.ignored]
    exact hclash.symm
  | ignore type => exact if_pos (hknows.handlesType_iff.mpr hclash)

theorem register (hknows : r.Knows accepted) (h : Handler σ)
    (hfree : ¬ (Declaration.handle type version h).Clashes accepted) :
    ∃ s, r.register type version h = .ok s ∧ s.Knows (accepted ++ [.handle type version h]) := by
  have hnot : ¬ (r.handles type version || r.ignores type) = true := by
    rw [Bool.or_eq_true, hknows.handles_iff, hknows.ignored]
    exact fun hclash => hfree hclash.symm
  refine ⟨{ r with handlers := r.handlers.insert (type, version) h }, if_neg hnot, ?_, ?_, ?_⟩
  · intro t
    rw [List.mem_append, List.mem_singleton]
    exact (hknows.ignored t).trans (or_iff_left nofun).symm
  · intro t v g
    rw [Keyed.get?_insert, List.mem_append, List.mem_singleton]
    by_cases hsame : (t, v) = (type, version)
    · -- Nothing was declared for this version before, so its handler is the new one.
      obtain ⟨rfl, rfl⟩ := Prod.mk.inj hsame
      rw [if_pos rfl, or_iff_right fun hmem => hfree (Or.inr ⟨g, hmem⟩)]
      simp only [Option.some.injEq, Declaration.handle.injEq, true_and]
      exact eq_comm
    · rw [if_neg hsame, hknows.handled]
      refine (or_iff_left fun heq => hsame ?_).symm
      injection heq with ht hv _
      rw [ht, hv]
  · intro t v g hignored hhandled
    rw [List.mem_append, List.mem_singleton] at hignored hhandled
    have hbefore := hignored.resolve_right nofun
    rcases hhandled with hhandled | heq
    · exact hknows.apart t v g hbefore hhandled
    · injection heq with ht _ _
      exact hfree (Or.inl (ht ▸ hbefore))

theorem ignore (hknows : r.Knows accepted)
    (hfree : ¬ (Declaration.ignore (σ := σ) type).Clashes accepted) :
    ∃ s, r.ignore type = .ok s ∧ s.Knows (accepted ++ [.ignore type]) := by
  have hnot : ¬ r.handlesType type = true := fun h => hfree (hknows.handlesType_iff.mp h)
  have hapart : ∀ t v g, .ignore t ∈ accepted ++ [.ignore type] →
      Declaration.handle t v g ∉ accepted ++ [.ignore type] := by
    intro t v g hignored hhandled
    rw [List.mem_append, List.mem_singleton] at hignored hhandled
    have hbefore := hhandled.resolve_right nofun
    rcases hignored with hignored | heq
    · exact hknows.apart t v g hignored hbefore
    · injection heq with ht
      exact hfree ⟨v, g, ht ▸ hbefore⟩
  have hhandled :
      ∀ t v g, r.handlers.get? (t, v) = some g ↔ .handle t v g ∈ accepted ++ [.ignore type] := by
    intro t v g
    rw [List.mem_append, List.mem_singleton]
    exact (hknows.handled t v g).trans (or_iff_left nofun).symm
  cases hagain : r.ignores type with
  | true =>
    refine ⟨r, ?_, ?_, hhandled, hapart⟩
    · rw [Registry.ignore, if_neg hnot, if_pos hagain]
    · intro t
      rw [hknows.ignored, List.mem_append, List.mem_singleton]
      refine (or_iff_left_of_imp fun heq => ?_).symm
      rw [heq]
      exact (hknows.ignored type).mp hagain
  | false =>
    refine ⟨{ r with ignored := r.ignored ++ [type] }, ?_, ?_, hhandled, hapart⟩
    · rw [Registry.ignore, if_neg hnot, if_neg (ne_true_of_eq_false hagain)]
    · intro t
      rw [ignores, List.contains_iff_mem, List.mem_append, List.mem_singleton,
        ← List.contains_iff_mem, ← ignores, hknows.ignored, List.mem_append, List.mem_singleton,
        Declaration.ignore.injEq]

theorem declare_of_not_clashes (hknows : r.Knows accepted) {d : Declaration σ}
    (hfree : ¬ d.Clashes accepted) :
    ∃ s, d.declare r = .ok s ∧ s.Knows (accepted ++ [d]) := by
  cases d with
  | handle type version h => exact hknows.register h hfree
  | ignore type => exact hknows.ignore hfree

theorem after (hknows : r.Knows accepted) (ds : List (Declaration σ)) :
    (r.after ds).Knows (accepted ++ r.accepted ds) := by
  induction ds generalizing r accepted with
  | nil =>
    rw [Registry.accepted, List.append_nil]
    exact hknows
  | cons d rest ih =>
    rw [after_cons, Registry.accepted]
    by_cases hclash : d.Clashes accepted
    · rw [receive_of_refused (hknows.declare_of_clashes hclash), hknows.declare_of_clashes hclash]
      exact ih hknows
    · obtain ⟨s, hs, hknows'⟩ := hknows.declare_of_not_clashes hclash
      rw [receive_of_accepted hs, hs, List.append_cons]
      exact ih hknows'

end Knows

/-! ## Events -/

/-- What a registry does is told by the declarations it accepted. The clauses are about the answers
of the registry and not about its tables, so that they say as much to somebody who cannot see
these. -/
structure Dispatches (r : Registry σ) (accepted : List (Declaration σ)) : Prop where
  /-- No type is both ignored and handled. -/
  apart : ∀ type version, r.ignores type = true → r.handles type version = false
  /-- A declaration that speaks of an event spoken of already is refused and leaves the registry as
  it is; -/
  refuses : ∀ d : Declaration σ, d.Clashes accepted → d.declare r = .error d.duplicate ∧
    r.receive d = r
  /-- every other is accepted. -/
  accepts : ∀ d : Declaration σ, ¬ d.Clashes accepted → d.declare r = .ok (r.receive d)
  /-- An event of an ignored type leaves the state as it is, -/
  ignored : ∀ state e, .ignore e.type ∈ accepted → r.apply state e = .ok state
  /-- one of a version with a handler is handed to it, of which there is one only, -/
  handled : ∀ state e h, .handle e.type e.version h ∈ accepted → r.apply state e = h state e
  /-- and every other is an error; -/
  unknown : ∀ state e, .ignore e.type ∉ accepted → (∀ h, .handle e.type e.version h ∉ accepted) →
    r.apply state e = .error (.failed (.unknownEvent e.type e.version))
  /-- that another version of its type is handled does not help. -/
  unknownVersion : ∀ state e version h, .handle e.type version h ∈ accepted →
    (∀ h, .handle e.type e.version h ∉ accepted) →
    r.apply state e = .error (.failed (.unknownEvent e.type e.version))

variable {accepted : List (Declaration σ)}

theorem Knows.apply_unknown (hknows : r.Knows accepted) (state : σ) {e : Envelope Json}
    (hignored : .ignore e.type ∉ accepted) (hhandled : ∀ h, .handle e.type e.version h ∉ accepted) :
    r.apply state e = .error (.failed (.unknownEvent e.type e.version)) := by
  have hnone : r.handlers.get? (e.type, e.version) = none :=
    Option.eq_none_iff_forall_ne_some.mpr fun h hget => hhandled h ((hknows.handled _ _ h).mp hget)
  rw [apply, if_neg fun h => hignored ((hknows.ignored e.type).mp h), hnone]

theorem Knows.dispatches (hknows : r.Knows accepted) : r.Dispatches accepted where
  apart type version hignored := by
    refine Bool.eq_false_iff.mpr fun hhandles => ?_
    obtain ⟨h, hmem⟩ := hknows.handles_iff.mp hhandles
    exact hknows.apart type version h ((hknows.ignored type).mp hignored) hmem
  refuses d hclash := by
    have hrefused := hknows.declare_of_clashes hclash
    exact ⟨hrefused, receive_of_refused hrefused⟩
  accepts d hfree := by
    obtain ⟨s, hs, _⟩ := hknows.declare_of_not_clashes hfree
    rw [hs, receive_of_accepted hs]
  ignored state e hmem := if_pos ((hknows.ignored e.type).mpr hmem)
  handled state e h hmem := by
    have hnot : ¬ r.ignores e.type = true :=
      fun hignored => hknows.apart e.type e.version h ((hknows.ignored e.type).mp hignored) hmem
    rw [apply, if_neg hnot, (hknows.handled e.type e.version h).mpr hmem]
  unknown state e hignored hhandled := hknows.apply_unknown state hignored hhandled
  unknownVersion state e version h hmem hhandled :=
    hknows.apply_unknown state (fun hignored => hknows.apart e.type version h hignored hmem)
      hhandled

/-- The clauses leave no event out, and which of them is the one for an event depends only on what
was accepted. -/
theorem Dispatches.apply_eq (hr : r.Dispatches accepted) {others : List (Declaration σ)}
    (hs : s.Dispatches others) (hsame : ∀ d, d ∈ accepted ↔ d ∈ others) (state : σ)
    (e : Envelope Json) :
    r.apply state e = s.apply state e := by
  by_cases hignored : .ignore e.type ∈ accepted
  · rw [hr.ignored state e hignored, hs.ignored state e ((hsame _).mp hignored)]
  · by_cases hhandled : ∃ h, .handle e.type e.version h ∈ accepted
    · obtain ⟨h, hmem⟩ := hhandled
      rw [hr.handled state e h hmem, hs.handled state e h ((hsame _).mp hmem)]
    · rw [hr.unknown state e hignored fun h hmem => hhandled ⟨h, hmem⟩,
        hs.unknown state e (fun hmem => hignored ((hsame _).mpr hmem))
          fun h hmem => hhandled ⟨h, (hsame _).mpr hmem⟩]

theorem dispatches_after (ds : List (Declaration σ)) :
    (empty.after ds).Dispatches (empty.accepted ds) :=
  (Knows.empty.after ds).dispatches

/-- **A registry dispatches as it was told**, whatever it was told and in whatever order: what it
does with an event is read off the declarations it accepted, and of the same declarations, all
accepted, every order gives the same answers. -/
theorem dispatches_as_told (ds : List (Declaration σ)) :
    (empty.after ds).Dispatches (empty.accepted ds) ∧
    ∀ es, ds.Perm es → empty.accepted ds = ds → empty.accepted es = es →
      ∀ state e, (empty.after ds).apply state e = (empty.after es).apply state e := by
  refine ⟨dispatches_after ds, fun es hperm hds hes state e => ?_⟩
  refine (dispatches_after ds).apply_eq (dispatches_after es) (fun d => ?_) state e
  rw [hds, hes]
  exact hperm.mem_iff

def ledger : List (Declaration Nat) :=
  [.handle "ledger.posted" 1 fun n _ => .ok (n + 1), .ignore "ledger.audited",
    .handle "ledger.posted" 2 fun n _ => .ok (n - 1)]

def correction : Envelope Json := ⟨1, none, Sample.account, 1, "ledger.posted", 2,
      Sample.noon, .null⟩

/-- Told the other way round, a registry counts the same. -/
theorem dispatches_as_told_ledger :
    ledger.Perm ledger.reverse ∧ empty.accepted ledger = ledger ∧
      empty.accepted ledger.reverse = ledger.reverse ∧
      (empty.after ledger).apply 5 correction =
        (empty.after ledger.reverse).apply 5 correction := by
  have hperm : ledger.Perm ledger.reverse := (List.reverse_perm ledger).symm
  have hthere : empty.accepted ledger = ledger := by rfl
  have hback : empty.accepted ledger.reverse = ledger.reverse := by rfl
  exact ⟨hperm, hthere, hback, (dispatches_as_told ledger).2 ledger.reverse hperm hthere
    hback 5 correction⟩

end Registry

end Journal
