import Journal.Proofs.Guard.Lookup

/-!
# The automaton of a key

To a client of the guard a key is in one of three phases: nothing is known of it, or a request has
reserved it, or a request was answered under it. `Move` has the moves between them, one constructor
for each line of the table, together with the answer that goes with the move.

**Whatever is done with a guard, every key makes one of these moves** (`move_perform`), and keys do
not disturb each other. What follows from the table alone is said about runs: a key that is not
absent becomes absent by a release or a purge only, so that of two executions which both got the key
the first had lost it before the second came (`follows_automaton`).
-/

namespace Journal

namespace Guard

/-! ## Operations -/

inductive Operation
  | reserve (k : Key) (hash : String) (now : Instant)
  | record (k : Key) (hash : String) (response : Response) (now : Instant)
  | release (k : Key) (hash : String)
  | lookup (k : Key)
  | purge (asked : Duration) (now : Instant)

namespace Operation

def Answer : Operation → Type
  | reserve .. => Verdict
  | record .. => Except StoreError Unit
  | release .. => Unit
  | lookup _ => Option Record
  | purge .. => Nat

def perform : (op : Operation) → Guard → op.Answer × Guard
  | reserve k hash now, g => g.reserve k hash now
  | record k hash response now, g =>
    match g.record k hash response now with
    | .error e => (.error e, g)
    | .ok kept => (.ok (), kept)
  | release k hash, g => ((), g.release k hash)
  | lookup k, g => (g.lookup k, g)
  | purge asked now, g => g.purge asked now

/-- The operation is about another key. -/
def Ignores (k : Key) : Operation → Prop
  | reserve l .. | record l .. | release l _ | lookup l => l ≠ k
  | purge .. => False

end Operation

def after (g : Guard) (ops : List Operation) : Guard := ops.foldl (fun g op => (op.perform g).2) g

@[simp] theorem after_nil (g : Guard) : g.after [] = g := rfl

@[simp] theorem after_cons (g : Guard) (op : Operation) (ops : List Operation) :
    g.after (op :: ops) = ((op.perform g).2).after ops := rfl

theorem after_concat (g : Guard) (ops : List Operation) (op : Operation) :
    g.after (ops ++ [op]) = (op.perform (g.after ops)).2 := List.foldl_append

/-! ## Phases -/

/-- What has become of the requests under a key: nothing, a request that is being executed, or one
that was executed, with its response. When the record was made is left out, as only a purge looks at
it. -/
inductive Phase
  | absent
  | reserved (hash : String)
  | answered (hash : String) (response : Response)
  deriving DecidableEq

namespace Phase

def ofRecord : Option Record → Phase
  | none => .absent
  | some ⟨_, hash, none, _⟩ => .reserved hash
  | some ⟨_, hash, some response, _⟩ => .answered hash response

def hash? : Phase → Option String
  | .absent => none
  | .reserved hash | .answered hash _ => some hash

end Phase

def phase (g : Guard) (k : Key) : Phase := .ofRecord (g.lookup k)

/-- The moves of a key, each with the operation that makes it and the answer to the operation. A
response may come without a reservation, and of two the first stays; everything that is not a move
here cannot happen, whatever is done with the guard. -/
inductive Move (k : Key) : Phase → (op : Operation) → op.Answer → Phase → Prop
  | fresh {hash now} : Move k .absent (.reserve k hash now) Verdict.fresh (.reserved hash)
  | inFlight {hash now} : Move k (.reserved hash)
      (.reserve k hash now) Verdict.inFlight (.reserved hash)
  | replay {hash first now} :
    Move k (.answered hash first) (.reserve k hash now) (Verdict.replay first)
    (.answered hash first)
  | conflict {p h hash now} (belongs : p.hash? = some h) (other : h ≠ hash) :
    Move k p (.reserve k hash now) Verdict.conflict p
  | create {hash response now} :
    Move k .absent (.record k hash response now) (Except.ok ()) (.answered hash response)
  | complete {hash response now} :
    Move k (.reserved hash) (.record k hash response now) (Except.ok ()) (.answered hash response)
  | keep {hash first response now} :
    Move k (.answered hash first) (.record k hash response now) (Except.ok ())
    (.answered hash first)
  | reuse {p h hash response now} (belongs : p.hash? = some h) (other : h ≠ hash) :
    Move k p (.record k hash response now) (Except.error k.reused) p
  | giveUp {hash} : Move k (.reserved hash) (.release k hash) () .absent
  | stay {p hash} (others : p ≠ .reserved hash) : Move k p (.release k hash) () p
  | look {found : Option Record} (filed : ∀ r ∈ found, r.key = k) :
    Move k (.ofRecord found) (.lookup k) found (.ofRecord found)
  | expire {p asked now} {count : Nat} : Move k p (.purge asked now) count .absent
  | spare {p asked now} {count : Nat} : Move k p (.purge asked now) count p
  | ignore {p op} {answer : op.Answer} (ignores : op.Ignores k) : Move k p op answer p

/-! ## Every operation is a move of every key -/

/-- Records are found under their own keys. -/
def Filed (g : Guard) : Prop := ∀ k, ∀ r ∈ g.lookup k, r.key = k

variable {g : Guard} {k l : Key} {hash : String} {response : Response} {now : Instant}

theorem phase_of_lookup {r : Option Record} (h : g.lookup k = r) : g.phase k = .ofRecord r :=
  congrArg Phase.ofRecord h

theorem phase_insert (g : Guard) (k : Key) (r : Record) :
    phase ⟨g.records.insert k r⟩ k = .ofRecord (some r) :=
  phase_of_lookup ((lookup_insert g k k r).trans (if_pos rfl))

/-- A request that finds a record leaves the key as it is. -/
theorem move_verdict (k : Key) (r : Record) (hash : String) (now : Instant) :
    Move k (.ofRecord (some r)) (.reserve k hash now) (r.verdict hash) (.ofRecord (some r)) := by
  obtain ⟨key, h, first, createdAt⟩ := r
  by_cases hh : h = hash
  · subst hh
    rw [Record.verdict, if_pos rfl]
    cases first with
    | none => exact .inFlight
    | some first => exact .replay
  · rw [Record.verdict, if_neg hh]
    cases first with
    | none => exact .conflict rfl hh
    | some first => exact .conflict rfl hh

theorem move_reserve (g : Guard) (k : Key) (hash : String) (now : Instant) :
    Move k (g.phase k) (.reserve k hash now)
    (g.reserve k hash now).1 ((g.reserve k hash now).2.phase k) := by
  rw [reserve]
  cases hk : g.lookup k with
  | none =>
    dsimp only
    rw [phase_of_lookup hk, phase_insert]
    exact .fresh
  | some r =>
    dsimp only
    rw [phase_of_lookup hk]
    exact move_verdict k r hash now

theorem move_record (g : Guard) (k : Key) (hash : String) (response : Response) (now : Instant) :
    Move k (g.phase k) (.record k hash response now)
    (Operation.perform (.record k hash response now) g).1
      ((Operation.perform (.record k hash response now) g).2.phase k) := by
  rw [Operation.perform, record, phase]
  -- One case for each phase, and one for each request where the key belongs to one.
  rcases hk : g.lookup k with _ | ⟨key, h, first, createdAt⟩
  · dsimp only
    rw [phase_insert]
    exact .create
  · by_cases hh : h = hash
    · subst hh
      cases first with
      | none =>
        simp only [if_true]
        rw [phase_insert]
        exact .complete
      | some first =>
        simp only [if_true]
        rw [phase_of_lookup hk]
        exact .keep
    · simp only [if_neg hh]
      rw [phase_of_lookup hk]
      cases first with
      | none => exact .reuse rfl hh
      | some first => exact .reuse rfl hh

theorem move_release (g : Guard) (k : Key) (hash : String) :
    Move k (g.phase k) (.release k hash) () ((g.release k hash).phase k) := by
  have hafter := lookup_release g k k hash
  rw [if_pos rfl] at hafter
  rw [phase_of_lookup hafter, phase]
  rcases g.lookup k with _ | ⟨key, h, first, createdAt⟩
  · exact .stay (by simp [Phase.ofRecord])
  · by_cases hgive : h = hash ∧ first = none
    · obtain ⟨rfl, rfl⟩ := hgive
      simp only [Option.filter]
      exact .giveUp
    · rw [Option.filter_some_pos (by simp only [decide_eq_false hgive, Bool.not_false])]
      refine .stay fun hreserved => hgive ?_
      cases first with
      | none => exact ⟨Phase.reserved.inj hreserved, rfl⟩
      | some first => cases hreserved

theorem lookup_purge_of_none (h : g.lookup k = none) (asked : Duration) (now : Instant) :
    (g.purge asked now).2.lookup k = none := by
  rw [lookup_purge, h]
  cases expiry? asked now with
  | none => rfl
  | some cutoff => rfl

theorem move_purge (g : Guard) (k : Key) (asked : Duration) (now : Instant) :
    Move k (g.phase k) (.purge asked now)
    (g.purge asked now).1 ((g.purge asked now).2.phase k) := by
  cases hk : g.lookup k with
  | none =>
    rw [phase_of_lookup hk, phase_of_lookup (lookup_purge_of_none hk asked now)]
    exact .spare
  | some r =>
    rcases lookup_purge_cases hk asked now with hkept | hgone
    · rw [phase_of_lookup hkept, phase_of_lookup hk]
      exact .spare
    · rw [phase_of_lookup hgone]
      exact .expire

theorem lookup_of_ignores {op : Operation} (h : op.Ignores k) (g : Guard) :
    (op.perform g).2.lookup k = g.lookup k := by
  cases op with
  | reserve l hash now => exact (lookup_reserve g l k hash now).trans (if_neg h.symm)
  | record l hash response now =>
    rw [Operation.perform]
    cases hrecord : g.record l hash response now with
    | error e => rfl
    | ok kept => exact (lookup_record hrecord k).trans (if_neg h.symm)
  | release l hash => exact (lookup_release g l k hash).trans (if_neg h.symm)
  | lookup l => rfl
  | purge asked now => exact absurd h id

/-- **Every operation is a move of every key.** -/
theorem move_perform (hfiled : g.Filed) (k : Key) (op : Operation) :
    Move k (g.phase k) op (op.perform g).1 ((op.perform g).2.phase k) := by
  by_cases hignores : op.Ignores k
  · rw [phase_of_lookup (lookup_of_ignores hignores g), ← phase]
    exact .ignore hignores
  · cases op with
    | reserve l hash now =>
      obtain rfl : l = k := Decidable.of_not_not hignores
      exact move_reserve g l hash now
    | record l hash response now =>
      obtain rfl : l = k := Decidable.of_not_not hignores
      exact move_record g l hash response now
    | release l hash =>
      obtain rfl : l = k := Decidable.of_not_not hignores
      exact move_release g l hash
    | lookup l =>
      obtain rfl : l = k := Decidable.of_not_not hignores
      exact .look (hfiled l)
    | purge asked now => exact move_purge g k asked now

/-! ## Runs -/

theorem filed_empty : empty.Filed := fun _ _ h => absurd h (by simp [empty, lookup])

theorem key_getD (hfiled : g.Filed) (k : Key) (hash : String) (now : Instant) :
    ((g.lookup k).getD ⟨k, hash, none, now⟩).key = k := by
  cases hk : g.lookup k with
  | none => rfl
  | some r => exact hfiled k r hk

theorem filed_perform (hfiled : g.Filed) (op : Operation) : (op.perform g).2.Filed := by
  intro l r hr
  by_cases hignores : op.Ignores l
  · rw [lookup_of_ignores hignores] at hr
    exact hfiled l r hr
  · cases op with
    | reserve k hash now =>
      obtain rfl : k = l := Decidable.of_not_not hignores
      rw [Operation.perform, lookup_reserve, if_pos rfl] at hr
      rw [← Option.some.inj hr]
      exact key_getD hfiled k hash now
    | record k hash response now =>
      obtain rfl : k = l := Decidable.of_not_not hignores
      rw [Operation.perform] at hr
      cases hrecord : g.record k hash response now with
      | error e =>
        rw [hrecord] at hr
        exact hfiled k r hr
      | ok kept =>
        rw [hrecord] at hr
        dsimp only at hr
        rw [lookup_record hrecord, if_pos rfl] at hr
        rw [← Option.some.inj hr]
        exact key_getD hfiled k hash now
    | release k hash =>
      obtain rfl : k = l := Decidable.of_not_not hignores
      rw [Operation.perform, lookup_release, if_pos rfl] at hr
      -- A release and a purge only take records away.
      exact hfiled k r (Option.filter_eq_some_iff.mp hr).1
    | lookup k => exact hfiled l r hr
    | purge asked now =>
      rw [Operation.perform, lookup_purge] at hr
      cases hexpiry : expiry? asked now with
      | none =>
        rw [hexpiry] at hr
        exact hfiled l r hr
      | some cutoff =>
        rw [hexpiry] at hr
        exact hfiled l r (Option.filter_eq_some_iff.mp hr).1

theorem filed_after (hfiled : g.Filed) (ops : List Operation) : (g.after ops).Filed := by
  induction ops generalizing g with
  | nil => exact hfiled
  | cons op ops ih => exact ih (filed_perform hfiled op)

/-- The operation takes a key away that is in a phase. -/
def Operation.Frees (k : Key) : Phase → Operation → Prop
  | .reserved hash, .release l h => l = k ∧ h = hash
  | p, .purge .. => p ≠ .absent
  | _, _ => False

/-- One of the operations took the key away. -/
def FreedIn (g : Guard) (k : Key) (ops : List Operation) : Prop :=
  ∃ before op since, ops = before ++ op :: since ∧ op.Frees k ((g.after before).phase k) ∧
    (g.after (before ++ [op])).phase k = .absent

theorem FreedIn.cons {op : Operation} {ops : List Operation} (h : (op.perform g).2.FreedIn k ops) :
    g.FreedIn k (op :: ops) := by
  obtain ⟨before, freeing, since, rfl, hfrees, habsent⟩ := h
  exact ⟨op :: before, freeing, since, rfl, hfrees, habsent⟩

/-- A key that belongs to a request goes on to belong to it, unless it is taken away. -/
theorem Move.hash_or_frees {p q : Phase} {op : Operation} {answer : op.Answer}
    (h : Move k p op answer q) (belongs : p.hash? = some hash) :
    q.hash? = some hash ∨ op.Frees k p ∧ q = .absent := by
  cases h with
  | fresh | create => cases belongs
  | giveUp => exact Or.inr ⟨⟨rfl, rfl⟩, rfl⟩
  | expire =>
    refine Or.inr ⟨?_, rfl⟩
    cases p with
    | absent => cases belongs
    | reserved | answered => exact Phase.noConfusion
  | _ => exact Or.inl belongs

theorem hash_after_or_freedIn (hfiled : g.Filed) (belongs : (g.phase k).hash? = some hash)
    (ops : List Operation) :
    ((g.after ops).phase k).hash? = some hash ∨ g.FreedIn k ops := by
  induction ops generalizing g with
  | nil => exact Or.inl belongs
  | cons op ops ih =>
    rcases (move_perform hfiled k op).hash_or_frees belongs with hstill | ⟨hfrees, habsent⟩
    · rcases ih (filed_perform hfiled op) hstill with hafter | hfreed
      · exact Or.inl hafter
      · exact Or.inr hfreed.cons
    · exact Or.inr ⟨[], op, ops, rfl, hfrees, habsent⟩

/-- A request passes when nothing is known of its key, and then the key is its own. -/
theorem Move.of_fresh {p q : Phase} (h : Move k p (.reserve k hash now) Verdict.fresh q) :
    p = .absent ∧ q = .reserved hash := by
  cases h with
  | fresh => exact ⟨rfl, rfl⟩
  | ignore hignores => exact absurd rfl hignores

/-- Two requests pass under one key only if it was taken away in between. -/
theorem freedIn_of_fresh (hfiled : g.Filed) {between : List Operation} {again : String}
    {later : Instant} (hfirst : (g.reserve k hash now).1 = .fresh)
    (hsecond : (((g.reserve k hash now).2.after between).reserve k again later).1 = .fresh) :
    (g.reserve k hash now).2.FreedIn k between := by
  have hreserved : (g.reserve k hash now).2.Filed := filed_perform hfiled (.reserve k hash now)
  have hmove := move_reserve g k hash now
  rw [hfirst] at hmove
  have hagain := move_reserve ((g.reserve k hash now).2.after between) k again later
  rw [hsecond] at hagain
  have hbelongs : ((g.reserve k hash now).2.phase k).hash? = some hash :=
    congrArg Phase.hash? hmove.of_fresh.2
  -- The key belongs to the first request until it is taken away, and belonged to none when the
  -- second passed.
  refine (hash_after_or_freedIn hreserved hbelongs between).resolve_left fun hstill => ?_
  rw [hagain.of_fresh.1] at hstill
  cases hstill

/-- **The guard follows the automaton**, key by key and whatever is done with it; and a request that
passes under a key under which another one has passed does so because the key was given up or purged
in between. -/
theorem follows_automaton (ops : List Operation) :
    (∀ k, empty.phase k = .absent) ∧
    (∀ k op, Move k ((empty.after ops).phase k) op (op.perform (empty.after ops)).1
      ((empty.after (ops ++ [op])).phase k)) ∧
    ∀ k hash now between again later, ((empty.after ops).reserve k hash now).1 = .fresh →
      ((((empty.after ops).reserve k hash now).2.after between).reserve k again later).1 = .fresh →
        ((empty.after ops).reserve k hash now).2.FreedIn k between := by
  have hfiled : (empty.after ops).Filed := filed_after filed_empty ops
  refine ⟨fun k => rfl, fun k op => ?_, fun k hash now between again later hfirst hsecond => ?_⟩
  · rw [after_concat]
    exact move_perform hfiled k op
  · exact freedIn_of_fresh hfiled hfirst hsecond

def till : Key := ⟨"_global", "teller", "payments.create", "k1"⟩

def opening : Instant := ⟨1704096000, 0⟩

/-- A payment is given up, and another one passes under its key. -/
theorem follows_automaton_retried :
    (empty.reserve till "h1" opening).1 = .fresh ∧
      (((empty.reserve till "h1" opening).2.after [.record till "h2" ⟨200, none⟩ opening,
        .release till "h1"]).reserve till "h2" opening).1 = .fresh ∧
      (empty.reserve till "h1" opening).2.FreedIn till [.record till "h2" ⟨200, none⟩ opening,
          .release till "h1"] := by
  have hfirst : (empty.reserve till "h1" opening).1 = .fresh := by decide
  have hsecond : (((empty.reserve till "h1" opening).2.after
      [.record till "h2" ⟨200, none⟩ opening, .release till "h1"]).reserve till "h2" opening).1 =
        .fresh := by decide
  exact ⟨hfirst, hsecond, (follows_automaton []).2.2 till "h1" opening _ "h2" opening
    hfirst hsecond⟩

end Guard

end Journal
