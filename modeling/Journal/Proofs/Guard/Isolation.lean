import Journal.Proofs.Guard.Automaton

/-!
# Keys are apart

Two requests have one key only if they were made for the same organization, by the same actor, at
the same endpoint and with the same key of the client's: the scope of an organization is the text of
its identifier, which tells organizations apart (`Uuid.text_injective`), and the scope of requests
made for none is no identifier's text.

**What a client is told under its key does not depend on what others do under theirs** (`isolated`).
The run is compared with the one in which the client is alone. There the calls come at other times,
so the two runs agree on everything about a record but its age; `SameUnder` is that agreement, and a
call carries it on whichever key it is made under.
-/

namespace Journal

namespace Guard

/-! ## The key of a request -/

theorem of_bind_eq_ok {ε α β : Type} {x : Except ε α} {f : α → Except ε β} {b : β}
    (h : x >>= f = .ok b) :
    ∃ a, x = .ok a ∧ f a = .ok b := by
  cases x with
  | error e => cases h
  | ok a => exact ⟨a, rfl, h⟩

theorem Key.eq_of_make {org : Option OrgId} {actor endpoint key : String} {k : Key}
    (h : Key.make org actor endpoint key = .ok k) : k = ⟨Key.scopeOf org, actor,
      endpoint, key⟩ := by
  obtain ⟨_, _, hendpoint⟩ := of_bind_eq_ok h
  obtain ⟨_, _, hkey⟩ := of_bind_eq_ok hendpoint
  obtain ⟨_, _, hmade⟩ := of_bind_eq_ok hkey
  exact (Except.ok.inj hmade).symm

theorem Key.text_ne_globalScope (o : OrgId) : o.text ≠ Key.globalScope := by
  intro h
  have hread : Uuid.parse? Key.globalScope = some o.uuid := h ▸ Uuid.parse?_text o.uuid
  have hunread : Uuid.parse? Key.globalScope = none := by decide +kernel
  rw [hunread] at hread
  cases hread

theorem Key.scopeOf_injective : Function.Injective Key.scopeOf := by
  intro org org' h
  cases org with
  | none =>
    cases org' with
    | none => rfl
    | some o => exact absurd h.symm (Key.text_ne_globalScope o)
  | some o =>
    cases org' with
    | none => exact absurd h (Key.text_ne_globalScope o)
    | some o' => exact congrArg (some ∘ OrgId.mk) (Uuid.text_injective h)

/-! ## What clients ask -/

inductive Question
  | reserve (hash : String)
  | record (hash : String) (response : Response)
  | release (hash : String)
  | lookup

structure Call where
  key : Key
  question : Question

def Record.content (r : Record) : Key × String × Option Response := (r.key, r.hash, r.response)

/-- What a client is told, besides the age of a record. -/
inductive Reply
  | verdict (v : Verdict)
  | recorded (outcome : Except StoreError Unit)
  | released
  | found (content : Option (Key × String × Option Response))

def Call.ask (c : Call) (now : Instant) (g : Guard) : Reply × Guard :=
  match c.question with
  | .reserve hash =>
    let (verdict, g) := (Operation.reserve c.key hash now).perform g
    (.verdict verdict, g)
  | .record hash response =>
    let (outcome, g) := (Operation.record c.key hash response now).perform g
    (.recorded outcome, g)
  | .release hash => (.released, ((Operation.release c.key hash).perform g).2)
  | .lookup => (.found ((g.lookup c.key).map Record.content), g)

/-- The replies to calls that are made one after the other, each at its instant, with the keys they
were made under. -/
def replies : (Nat → Instant) → Guard → List Call → List (Key × Reply)
  | _, _, [] => []
  | clock, g, c :: rest =>
    (c.key, (c.ask (clock 0) g).1) :: replies (fun n => clock (n + 1)) (c.ask (clock 0) g).2 rest

/-! ## One key among others -/

variable {g h : Guard} {k : Key} {c : Call}

/-- The guards hold the same under a key, but for its age. -/
def SameUnder (k : Key) (g h : Guard) : Prop :=
  (g.lookup k).map Record.content = (h.lookup k).map Record.content

theorem SameUnder.cases (hsame : SameUnder k g h) :
    (g.lookup k = none ∧ h.lookup k = none) ∨
    ∃ r t, g.lookup k = some r ∧ h.lookup k = some { r with createdAt := t } := by
  unfold SameUnder at hsame
  cases hg : g.lookup k with
  | none =>
    rw [hg] at hsame
    exact Or.inl ⟨rfl, Option.map_eq_none_iff.mp hsame.symm⟩
  | some r =>
    rw [hg] at hsame
    obtain ⟨s, hs, hcontent⟩ := Option.map_eq_some_iff.mp hsame.symm
    obtain ⟨key, hash, response, created⟩ := s
    obtain ⟨rfl, hrest⟩ := Prod.mk.inj hcontent
    obtain ⟨rfl, rfl⟩ := Prod.mk.inj hrest
    exact Or.inr ⟨r, created, rfl, hs⟩

theorem lookup_ask_of_ne (hne : c.key ≠ k) (now : Instant) (g : Guard) :
    (c.ask now g).2.lookup k = g.lookup k := by
  obtain ⟨l, question⟩ := c
  cases question with
  | reserve hash =>
    exact lookup_of_ignores (show (Operation.reserve l hash now).Ignores k from hne) g
  | record hash response =>
    exact lookup_of_ignores (show (Operation.record l hash response now).Ignores k from hne) g
  | release hash => exact lookup_of_ignores (show (Operation.release l hash).Ignores k from hne) g
  | lookup => rfl

theorem SameUnder.of_lookup {r s : Record} (hg : g.lookup k = some r) (hh : h.lookup k = some s)
    (hcontent : r.content = s.content) : SameUnder k g h := by
  rw [SameUnder, hg, hh, Option.map_some, Option.map_some, hcontent]

theorem SameUnder.insert {r s : Record} (hcontent : r.content = s.content) :
    SameUnder k ⟨g.records.insert k r⟩ ⟨h.records.insert k s⟩ :=
  .of_lookup ((lookup_insert g k k r).trans (if_pos rfl))
    ((lookup_insert h k k s).trans (if_pos rfl)) hcontent

theorem SameUnder.reserve (hsame : SameUnder k g h) (hash : String) (now later : Instant) :
    (g.reserve k hash now).1 = (h.reserve k hash later).1 ∧
      SameUnder k (g.reserve k hash now).2 (h.reserve k hash later).2 := by
  rw [Guard.reserve, Guard.reserve]
  rcases hsame.cases with ⟨hg, hh⟩ | ⟨r, t, hg, hh⟩
  · rw [hg, hh]
    exact ⟨rfl, .insert rfl⟩
  · rw [hg, hh]
    exact ⟨rfl, hsame⟩

theorem SameUnder.record (hsame : SameUnder k g h) (hash : String) (response : Response)
    (now later : Instant) :
    (Operation.perform (.record k hash response now) g).1 =
      (Operation.perform (.record k hash response later) h).1 ∧
      SameUnder k (Operation.perform (.record k hash response now) g).2
        (Operation.perform (.record k hash response later) h).2 := by
  rw [Operation.perform, Operation.perform, Guard.record, Guard.record]
  rcases hsame.cases with ⟨hg, hh⟩ | ⟨⟨key, first, answer, created⟩, t, hg, hh⟩
  · rw [hg, hh]
    exact ⟨rfl, .insert rfl⟩
  · rw [hg, hh]
    by_cases hhash : first = hash
    · cases answer with
      | none =>
        simp only [if_pos hhash]
        exact ⟨rfl, .insert rfl⟩
      | some kept =>
        simp only [if_pos hhash]
        exact ⟨rfl, hsame⟩
    · simp only [if_neg hhash]
      exact ⟨rfl, hsame⟩

theorem SameUnder.release (hsame : SameUnder k g h) (hash : String) :
    SameUnder k (g.release k hash) (h.release k hash) := by
  rw [SameUnder, lookup_release, lookup_release, if_pos rfl, if_pos rfl]
  rcases hsame.cases with ⟨hg, hh⟩ | ⟨r, t, hg, hh⟩
  · rw [hg, hh]
  · rw [hg, hh]
    by_cases hgive : r.hash = hash ∧ r.response = none
    · simp only [Option.filter, decide_eq_true hgive, Bool.not_true]
      rfl
    · simp only [Option.filter, decide_eq_false hgive, Bool.not_false]
      rfl

/-- A call under the key is answered alike, and leaves the same under it. -/
theorem SameUnder.ask (hsame : SameUnder k g h) (hkey : c.key = k) (now later : Instant) :
    (c.ask now g).1 = (c.ask later h).1 ∧ SameUnder k (c.ask now g).2 (c.ask later h).2 := by
  obtain ⟨l, question⟩ := c
  obtain rfl : l = k := hkey
  cases question with
  | reserve hash =>
    obtain ⟨hverdict, hafter⟩ := hsame.reserve hash now later
    exact ⟨congrArg Reply.verdict hverdict, hafter⟩
  | record hash response =>
    obtain ⟨houtcome, hafter⟩ := hsame.record hash response now later
    exact ⟨congrArg Reply.recorded houtcome, hafter⟩
  | release hash => exact ⟨rfl, hsame.release hash⟩
  | lookup => exact ⟨congrArg Reply.found hsame, hsame⟩

theorem SameUnder.ask_of_ne (hsame : SameUnder k g h) (hne : c.key ≠ k) (now : Instant) :
    SameUnder k (c.ask now g).2 h := by
  rw [SameUnder, lookup_ask_of_ne hne]
  exact hsame

/-- The calls under other keys come to nothing one by one, and the others meet the same under the
key in both runs. -/
theorem replies_alone (hsame : SameUnder k g h) (clock alone : Nat → Instant) (calls : List Call) :
    (replies clock g calls).filter (fun reply => decide (reply.1 = k)) =
      replies alone h (calls.filter fun c => decide (c.key = k)) := by
  induction calls generalizing g h clock alone with
  | nil => rfl
  | cons c rest ih =>
    by_cases hkey : c.key = k
    · obtain ⟨hreply, hafter⟩ := hsame.ask hkey (clock 0) (alone 0)
      simp only [replies, List.filter_cons, decide_eq_true hkey, if_true]
      rw [hreply, ih hafter]
    · simp only [replies, List.filter_cons, decide_eq_false hkey, Bool.false_eq_true, if_false]
      exact ih (hsame.ask_of_ne hkey (clock 0)) _ _

/-- **Keys are apart**: requests under one key were made for the same organization, by the same
actor, at the same endpoint and with the same key of the client's; and what is answered under a key
is, but for the age of records, what is answered when nobody asks under any other, whatever was
there before. -/
theorem isolated :
    (∀ {org org' : Option OrgId} {actor actor' endpoint endpoint' key key' : String} {k : Key},
      Key.make org actor endpoint key = .ok k → Key.make org' actor' endpoint' key' = .ok k →
        org = org' ∧ actor = actor' ∧ endpoint = endpoint' ∧ key = key') ∧
    ∀ (g : Guard) (k : Key) (calls : List Call) (clock alone : Nat → Instant),
      (replies clock g calls).filter (fun reply => decide (reply.1 = k)) =
        replies alone g (calls.filter fun c => decide (c.key = k)) := by
  refine ⟨fun hk hk' => ?_, fun g k calls clock alone => replies_alone rfl clock alone calls⟩
  obtain ⟨hscope, hactor, hendpoint, hkey⟩ :=
    Key.mk.inj ((Key.eq_of_make hk).symm.trans (Key.eq_of_make hk'))
  exact ⟨Key.scopeOf_injective hscope, hactor, hendpoint, hkey⟩

/-- Two tenants with one key of their own: one is being served when the other one asks. -/
def tenancy (org : Option OrgId) : Key := ⟨Key.scopeOf org, "teller", "payments.create", "k1"⟩

def counterHours : List Call :=
  [⟨tenancy none, .reserve "h1"⟩, ⟨tenancy (some ⟨.timeOrdered 0 0 7⟩), .reserve "h2"⟩,
    ⟨tenancy none, .lookup⟩, ⟨tenancy (some ⟨.timeOrdered 0 0 7⟩), .release "h2"⟩,
    ⟨tenancy none, .record "h1" ⟨201, none⟩⟩]

theorem isolated_tenancy :
    Key.make none "teller" "payments.create" "k1" = .ok (tenancy none) ∧
    (none : Option OrgId) = none ∧
    (replies (fun _ => opening) empty counterHours).filter
    (fun reply => decide (reply.1 = tenancy none)) =
      replies (fun n => ⟨1704096000 + n, 0⟩) empty
        [⟨tenancy none, .reserve "h1"⟩, ⟨tenancy none, .lookup⟩,
          ⟨tenancy none, .record "h1" ⟨201, none⟩⟩] := by
  have hmade : Key.make none "teller" "payments.create" "k1" = .ok (tenancy none) := by rfl
  exact ⟨hmade, (isolated.1 hmade hmade).1, isolated.2 empty (tenancy none) counterHours _ _⟩

end Guard

end Journal
