import Journal.Proofs.Decimal.Whole
import Journal.Proofs.Settings.Kinds

/-!
# Settings that are accepted

The variables are checked one after the other, and `checks` is the list of what is asked of them, in
this order. **The settings are accepted exactly when all checks hold, and then they can be used as
they stand; otherwise the error names the variable of the first check that does not hold**
(`checked_ofVariables`).

`Checked` says this of any part of the reading, with the checks that it makes: two parts one after
the other make the checks of the first and then those of the second (`Checked.bind`), and nothing
but that is used of how they are read.
-/

namespace Journal

def SettingsError.blames : SettingsError → String
  | .missing v => v
  | .invalid v _ => v

namespace Settings

/-- Something that is asked of the variables, and the variable that is named when it does not
hold. -/
structure Check where
  names : String
  holds : Variables → Prop

/-- The number that a variable gives: the one that its text denotes without the blanks around it,
which is below the limit, or the standard one if there is no text. -/
def Gives (name : String) (limit standard : Nat) (vars : Variables) (n : Nat) : Prop :=
  match vars name with
  | none => n = standard
  | some s => Decimal.Denotes (Text.trim s) n ∧ n < limit

def reads (name : String) (limit standard : Nat) : Check where
  names := name
  holds vars := ∃ n, Gives name limit standard vars n

def given (name : String) : Check where
  names := name
  holds vars := ∃ s, vars name = some s ∧ Text.trim s ≠ ""

def connectionsFit : Check where
  names := "DB_MIN_CONNECTIONS"
  holds vars := ∀ most least, Gives "DB_MAX_CONNECTIONS" (2 ^ 32) 10 vars most →
    Gives "DB_MIN_CONNECTIONS" (2 ^ 32) 1 vars least → 1 ≤ most ∧ least ≤ most

def batchFits : Check where
  names := "CONSUMER_BATCH_SIZE"
  holds vars := ∀ size, Gives "CONSUMER_BATCH_SIZE" (2 ^ 64) 100 vars size → 1 ≤ size ∧ size ≤ 1000

def kindsNamed : Check where
  names := "READ_INFRA_AGGREGATE_TYPES"
  holds vars := ∀ s, vars "READ_INFRA_AGGREGATE_TYPES" = some s → ∀ name, Lists s name →
    Name.WellFormed name

/-- What is asked of the variables, in the order in which they are read. -/
def checks : List Check :=
  [given "DATABASE_URL", reads "DB_MAX_CONNECTIONS" (2 ^ 32) 10,
    reads "DB_MIN_CONNECTIONS" (2 ^ 32) 1, connectionsFit,
    reads "DB_ACQUIRE_TIMEOUT_MS" (2 ^ 64) 5000, reads "CONSUMER_BATCH_SIZE" (2 ^ 64) 100,
    batchFits, reads "CONSUMER_POLL_INTERVAL_MS" (2 ^ 64) 100,
    reads "IDEMPOTENCY_RETENTION_HOURS" (2 ^ 64) 24, kindsNamed]

/-- The policy hides what the variable lists, each kind once, or what the standard policy hides if
there is no list. -/
def Hides (vars : Variables) (p : Policy) : Prop :=
  match vars "READ_INFRA_AGGREGATE_TYPES" with
  | none => p = .standard
  | some s => (p.kinds.map (·.name)).Nodup ∧ ∀ name, name ∈ p.kinds.map (·.name) ↔ Lists s name

/-- Settings that can be used as they stand. Each is what its variable gives, within its bounds; and
the two that are clamped where they are used are such that clamping leaves them alone. -/
structure Usable (vars : Variables) (s : Settings) : Prop where
  url : vars "DATABASE_URL" = some s.pool.url ∧ Text.trim s.pool.url ≠ ""
  most : Gives "DB_MAX_CONNECTIONS" (2 ^ 32) 10 vars s.pool.most
  least : Gives "DB_MIN_CONNECTIONS" (2 ^ 32) 1 vars s.pool.least
  connections : 1 ≤ s.pool.most ∧ s.pool.least ≤ s.pool.most
  patience : ∃ millis, Gives "DB_ACQUIRE_TIMEOUT_MS" (2 ^ 64) 5000 vars millis ∧
    s.pool.patience = .ofMillis millis
  batchSize : Gives "CONSUMER_BATCH_SIZE" (2 ^ 64) 100 vars s.consumer.batchSize
  fits : 1 ≤ s.consumer.batchSize ∧ s.consumer.batchSize ≤ 1000
  pollInterval : ∃ millis, Gives "CONSUMER_POLL_INTERVAL_MS" (2 ^ 64) 100 vars millis ∧
    s.consumer.pollInterval = .ofMillis millis
  backoff : s.consumer.backoff = Consumer.Config.standard.backoff
  retention : ∃ hours, Gives "IDEMPOTENCY_RETENTION_HOURS" (2 ^ 64) 24 vars hours ∧
    s.retention = .ofSeconds (max (24 * 3600) (min (hours * 3600) (2 ^ 64 - 1)))
  policy : Hides vars s.policy
  unclamped : pageSize (some s.consumer.batchSize) = s.consumer.batchSize
  applied : Guard.retention s.retention = s.retention

/-- The reading makes the checks in their order: with all of them it has a result with the property,
and at the first one that does not hold it ends with an error that names its variable. -/
def Checked {α : Type} (vars : Variables) (todo : List Check) (post : α → Prop) :
    Except SettingsError α → Prop
  | .ok a => (∀ check ∈ todo, check.holds vars) ∧ post a
  | .error e => ∃ before check after, todo = before ++ check :: after ∧
      (∀ c ∈ before, c.holds vars) ∧ ¬ check.holds vars ∧ e.blames = check.names

variable {α β : Type} {vars : Variables} {first rest : List Check} {post : α → Prop}
  {post' : β → Prop} {name : String} {limit standard n m : Nat}

/-! ## Checks in order -/

theorem Checked.bind {x : Except SettingsError α} {f : α → Except SettingsError β}
    (h : Checked vars first post x) (hf : ∀ a, post a → Checked vars rest post' (f a)) :
    Checked vars (first ++ rest) post' (x >>= f) := by
  cases x with
  | error e =>
    obtain ⟨before, check, after, rfl, hbefore, hnot, hname⟩ := h
    exact ⟨before, check, after ++ rest, by simp, hbefore, hnot, hname⟩
  | ok a =>
    obtain ⟨hfirst, ha⟩ := h
    have hrest := hf a ha
    show Checked vars (first ++ rest) post' (f a)
    cases hb : f a with
    | ok b =>
      rw [hb] at hrest
      exact ⟨List.forall_mem_append.mpr ⟨hfirst, hrest.1⟩, hrest.2⟩
    | error e =>
      rw [hb] at hrest
      obtain ⟨before, check, after, rfl, hbefore, hnot, hname⟩ := hrest
      exact ⟨first ++ before, check, after, by simp, List.forall_mem_append.mpr ⟨hfirst, hbefore⟩,
        hnot, hname⟩

theorem Checked.done {a : α} (h : post a) : Checked vars [] post (.ok a) := ⟨by simp, h⟩

theorem Checked.passes {check : Check} {a : α} (hholds : check.holds vars) (h : post a) :
    Checked vars [check] post (.ok a) :=
  ⟨by simpa using hholds, h⟩

theorem Checked.fails {check : Check} {e : SettingsError} (hnot : ¬ check.holds vars)
    (hname : e.blames = check.names) : Checked vars [check] post (.error e) :=
  ⟨[], check, [], rfl, by simp, hnot, hname⟩

/-! ## The variables -/

theorem number_eq_ok_iff (hlimit : 0 < limit) :
    number vars name limit standard = .ok n ↔ Gives name limit standard vars n := by
  unfold number Gives
  cases vars name with
  | none =>
    simp only [Except.ok.injEq]
    exact eq_comm
  | some s =>
    show _ ↔ Decimal.Denotes (Text.trim s) n ∧ n < limit
    rw [← Decimal.readWhole_eq_ok_iff hlimit]
    cases hread : Decimal.readWhole limit (Text.trim s) with
    | ok k => simp [hread]
    | error fault => simp [hread]

theorem checked_number (hlimit : 0 < limit) :
    Checked vars [reads name limit standard] (Gives name limit standard vars)
    (number vars name limit standard) := by
  cases hread : number vars name limit standard with
  | ok n =>
    have hgives := (number_eq_ok_iff hlimit).mp hread
    exact .passes ⟨n, hgives⟩ hgives
  | error e =>
    refine .fails ?_ ?_
    · rintro ⟨n, hgives⟩
      rw [(number_eq_ok_iff hlimit).mpr hgives] at hread
      cases hread
    · unfold number at hread
      split at hread
      · cases hread
      · split at hread
        · cases hread
        · cases hread
          rfl

theorem Gives.unique (hlimit : 0 < limit) (hn : Gives name limit standard vars n)
    (hm : Gives name limit standard vars m) : n = m := by
  rw [← number_eq_ok_iff hlimit] at hn hm
  exact Except.ok.inj (hn.symm.trans hm)

theorem checked_needed (name : String) :
    Checked vars [given name] (fun s => vars name = some s ∧ Text.trim s ≠ "")
    (needed vars name) := by
  unfold needed
  cases hvar : vars name with
  | none =>
    refine .fails ?_ rfl
    rintro ⟨s, hs, -⟩
    rw [hvar] at hs
    cases hs
  | some s =>
    by_cases hblank : Text.blank s = true
    · simp only [if_pos hblank]
      refine .fails ?_ rfl
      rintro ⟨s', hs', htrim⟩
      rw [hvar] at hs'
      obtain rfl := Option.some.inj hs'
      exact htrim (Text.trim_isEmpty_iff.mpr hblank)
    · simp only [if_neg hblank]
      have htrim : Text.trim s ≠ "" := fun h => hblank (Text.trim_isEmpty_iff.mp h)
      exact .passes ⟨s, hvar, htrim⟩ ⟨rfl, htrim⟩

theorem checked_connections :
    Checked vars [reads "DB_MAX_CONNECTIONS" (2 ^ 32) 10, reads "DB_MIN_CONNECTIONS" (2 ^ 32) 1,
      connectionsFit]
      (fun p => Gives "DB_MAX_CONNECTIONS" (2 ^ 32) 10 vars p.1 ∧
        Gives "DB_MIN_CONNECTIONS" (2 ^ 32) 1 vars p.2 ∧
        1 ≤ p.1 ∧ p.2 ≤ p.1) (connections vars) := by
  refine (checked_number (by decide)).bind fun most hmost => (checked_number (by decide)).bind
    fun least hleast => ?_
  by_cases hbad : most = 0 ∨ most < least
  · rw [if_pos hbad]
    refine .fails ?_ rfl
    intro hfit
    have := hfit most least hmost hleast
    omega
  · rw [if_neg hbad]
    have hgood : 1 ≤ most ∧ least ≤ most := by omega
    refine .passes ?_ ⟨hmost, hleast, hgood⟩
    intro most' least' hmost' hleast'
    rw [hmost'.unique (by decide) hmost, hleast'.unique (by decide) hleast]
    exact hgood

theorem checked_batchSize :
    Checked vars [reads "CONSUMER_BATCH_SIZE" (2 ^ 64) 100, batchFits]
      (fun size => Gives "CONSUMER_BATCH_SIZE" (2 ^ 64) 100 vars size ∧ 1 ≤ size ∧ size ≤ 1000)
      (batchSize vars) := by
  refine (checked_number (by decide)).bind fun size hsize => ?_
  by_cases hbad : size = 0 ∨ largestPageSize < size
  · rw [if_pos hbad]
    refine .fails ?_ rfl
    intro hfit
    have := hfit size hsize
    simp only [largestPageSize] at hbad
    omega
  · rw [if_neg hbad]
    have hgood : 1 ≤ size ∧ size ≤ 1000 := by
      simp only [largestPageSize] at hbad
      omega
    refine .passes ?_ ⟨hsize, hgood⟩
    intro size' hsize'
    rw [hsize'.unique (by decide) hsize]
    exact hgood

theorem checked_readPolicy : Checked vars [kindsNamed] (Hides vars) (readPolicy vars) := by
  unfold readPolicy Hides
  cases hvar : vars "READ_INFRA_AGGREGATE_TYPES" with
  | none =>
    refine .passes ?_ rfl
    intro s hs
    rw [hvar] at hs
    cases hs
  | some s =>
    rcases AggregateKind.mapM_parse (listed s) with
      ⟨kinds, hkinds, hnames, hall⟩ | ⟨e, he, name, hname, hbad⟩
    · simp only [hkinds]
      obtain ⟨hnodup, hmem⟩ := Policy.names_ofKinds kinds
      refine .passes ?_ ⟨hnodup, fun name => ?_⟩
      · intro s' hs' name hlists
        rw [hvar] at hs'
        obtain rfl := Option.some.inj hs'
        exact hall name (mem_listed_iff.mpr hlists)
      · rw [← mem_listed_iff, ← hnames, List.mem_map, List.mem_map]
        simp only [hmem]
    · simp only [he]
      refine .fails ?_ rfl
      intro hnamed
      exact hbad (hnamed s hvar name (mem_listed_iff.mp hname))

/-! ## The settings -/

theorem pageSize_of_fits (h : 1 ≤ n ∧ n ≤ 1000) : pageSize (some n) = n := by
  simp only [pageSize, largestPageSize, Option.getD_some]
  omega

theorem retention_hours (n : Nat) :
    Guard.retention (hours n) = .ofSeconds (max (24 * 3600) (min (n * 3600) (2 ^ 64 - 1))) := by
  simp only [Guard.retention, Guard.leastRetention, hours, Duration.ofHours,
    Duration.ofSeconds, Duration.max, Duration.nanosPerSecond, Duration.mk.injEq]
  show max _ _ = _
  omega

theorem retention_retention (d : Duration) :
    Guard.retention (Guard.retention d) = Guard.retention d := by
  simp only [Guard.retention, Duration.max, Duration.mk.injEq]
  exact Nat.max_eq_left (Nat.le_max_right _ _)

/-- **The settings are checked in order, and what is accepted can be used as it stands**, whatever
the variables hold. There is no third outcome: with every check met there are settings, and
otherwise there is an error that names the variable of the first check that is not. -/
theorem checked_ofVariables (vars : Variables) : Checked vars checks (Usable vars)
    (ofVariables vars) := by
  refine (checked_needed "DATABASE_URL").bind fun url hurl => ?_
  refine checked_connections.bind fun ⟨most, least⟩ hconnections => ?_
  refine (checked_number (by decide)).bind fun patience hpatience => ?_
  refine checked_batchSize.bind fun size hsize => ?_
  refine (checked_number (by decide)).bind fun interval hinterval => ?_
  refine (checked_number (by decide)).bind fun hours hhours => ?_
  refine checked_readPolicy.bind fun policy hpolicy => ?_
  refine .done ?_
  constructor
  case url => exact hurl
  case most => exact hconnections.1
  case least => exact hconnections.2.1
  case connections => exact hconnections.2.2
  case patience => exact ⟨patience, hpatience, rfl⟩
  case batchSize => exact hsize.1
  case fits => exact hsize.2
  case pollInterval => exact ⟨interval, hinterval, rfl⟩
  case backoff => rfl
  case retention => exact ⟨hours, hhours, retention_hours hours⟩
  case policy => exact hpolicy
  case unclamped => exact pageSize_of_fits hsize.2
  case applied => exact retention_retention _

end Settings

end Journal
