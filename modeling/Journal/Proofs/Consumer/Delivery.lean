import Journal.Proofs.Consumer.Outline

/-!
# At-least-once delivery

**What the checkpoint has passed was delivered**: the handler applied the event and then flushed,
both before the checkpoint was moved over the event, and it was not cleared since. This holds at
every moment of every run, whatever fails and whenever the process ends; nothing is said of how
often an event is delivered.

The statement is about the record of a run and is made of three parts, each the reason for the next:
`Applied`, `Flushed`, `Acknowledged`. A deed that follows does no harm to any of them (the `cons`
lemmas) with two exceptions, and these come in the order that makes them harmless: a reset puts the
checkpoint to zero, behind which there are no events, and only then may the handler be cleared.
-/

namespace Journal

namespace Consumer

/-- Where the deeds, the latest first, have put the checkpoint. -/
def placed : List Deed → EventId
  | [] => 0
  | .advanced p :: _ => p
  | .reset :: _ => 0
  | .applied _ :: before | .flushed :: before | .cleared :: before => placed before

def Applied (e : Event) (deeds : List Deed) : Prop :=
  ∃ since before, deeds = since ++ .applied e :: before ∧ .cleared ∉ since

def Flushed (e : Event) (deeds : List Deed) : Prop :=
  ∃ since before, deeds = since ++ .flushed :: before ∧ .cleared ∉ since ∧ Applied e before

/-- The checkpoint was moved over the event after the handler had flushed it, and nothing was taken
back since. This is what a restart relies on: such an event is not read again, and need not be. -/
def Acknowledged (e : Event) (deeds : List Deed) : Prop :=
  ∃ since p before, deeds = since ++ .advanced p :: before ∧ .cleared ∉ since ∧ .reset ∉ since ∧
    (placed before < e.id ∧ e.id ≤ p) ∧ Flushed e before

variable {e : Event} {d : Deed} {deeds : List Deed}

/-! ## Deeds that follow -/

theorem not_mem_cons {d' : Deed} (h : d' ∉ deeds) (hne : d ≠ d') : d' ∉ d :: deeds := by
  intro hmem
  rcases List.mem_cons.mp hmem with heq | hmem
  · exact hne heq.symm
  · exact h hmem

theorem Applied.cons (h : Applied e deeds) (hd : d ≠ .cleared) : Applied e (d :: deeds) := by
  obtain ⟨since, before, rfl, hclear⟩ := h
  exact ⟨d :: since, before, rfl, not_mem_cons hclear hd⟩

theorem Flushed.cons (h : Flushed e deeds) (hd : d ≠ .cleared) : Flushed e (d :: deeds) := by
  obtain ⟨since, before, rfl, hclear, happlied⟩ := h
  exact ⟨d :: since, before, rfl, not_mem_cons hclear hd, happlied⟩

theorem Acknowledged.cons (h : Acknowledged e deeds) (hclear : d ≠ .cleared) (hreset : d ≠ .reset) :
    Acknowledged e (d :: deeds) := by
  obtain ⟨since, p, before, rfl, hc, hr, hp, hflushed⟩ := h
  exact ⟨d :: since, p, before, rfl, not_mem_cons hc hclear, not_mem_cons hr hreset, hp, hflushed⟩

theorem applied_self (e : Event) (deeds : List Deed) : Applied e (.applied e :: deeds) :=
  ⟨[], deeds, rfl, List.not_mem_nil⟩

theorem Applied.flushed (h : Applied e deeds) : Flushed e (.flushed :: deeds) :=
  ⟨[], deeds, rfl, List.not_mem_nil, h⟩

theorem Flushed.acknowledged (h : Flushed e deeds) {p : EventId} (hlt : placed deeds < e.id)
    (hle : e.id ≤ p) :
    Acknowledged e (.advanced p :: deeds) :=
  ⟨[], p, deeds, rfl, List.not_mem_nil, List.not_mem_nil, ⟨hlt, hle⟩, h⟩

/-! ## Applied since a clear -/

variable {since before : List Deed}

theorem Applied.append (h : Applied e before) (hclear : .cleared ∉ since) :
    Applied e (since ++ before) := by
  obtain ⟨more, first, rfl, hmore⟩ := h
  refine ⟨since ++ more, first, (List.append_assoc _ _ _).symm, fun hmem => ?_⟩
  rcases List.mem_append.mp hmem with hmem | hmem
  · exact hclear hmem
  · exact hmore hmem

theorem Flushed.applied (h : Flushed e deeds) : Applied e deeds := by
  obtain ⟨since, before, rfl, hclear, happlied⟩ := h
  have hnext : Applied e (.flushed :: before) := happlied.cons (by rintro ⟨⟩)
  exact hnext.append hclear

theorem Acknowledged.applied (h : Acknowledged e deeds) : Applied e deeds := by
  obtain ⟨since, p, before, rfl, hclear, _, _, hflushed⟩ := h
  have hnext : Applied e (.advanced p :: before) := hflushed.applied.cons (by rintro ⟨⟩)
  exact hnext.append hclear

theorem Applied.mem_since (h : Applied e (since ++ .cleared :: before)) : .applied e ∈ since := by
  obtain ⟨since', before', hdeeds, hclear⟩ := h
  rcases List.append_eq_append_iff.mp hdeeds with ⟨more, rfl, hmore⟩ | ⟨more, rfl, hmore⟩
  · cases more with
    | nil => cases hmore
    | cons d more =>
      cases hmore
      exact absurd (List.mem_append_right _ List.mem_cons_self) hclear
  · cases more with
    | nil => cases hmore
    | cons d more =>
      cases hmore
      exact List.mem_append_right _ List.mem_cons_self

/-! ## The outline -/

variable {η : Type} {c : Setting η} {w x : World η}

/-- The record knows the checkpoint, and all that it has passed is acknowledged. -/
structure World.Delivered (c : Setting η) (w : World η) : Prop where
  placed : placed w.deeds = w.position c
  acknowledged : ∀ e ∈ w.store.log.toList, w.selects c e = true → e.id ≤ w.position c →
    Acknowledged e w.deeds

theorem World.Delivered.drift (h : w.Delivered c) (hs : w.Sound c) (hd : c.drift w x) :
    x.Delivered c := by
  refine ⟨?_, fun e he hsel hle => ?_⟩
  · rw [deeds_of_drift hd, position_of_drift hd]
    exact h.placed
  · rw [selects_of_drift hd] at hsel
    rw [position_of_drift hd] at hle
    rw [deeds_of_drift hd]
    exact h.acknowledged e (hs.mem_of_drift hd he (Nat.le_trans hle hs.position_le)) hsel hle

theorem World.Delivered.told (h : w.Delivered c) {s : η} {r : Attempt String Unit}
    (hplaced : Consumer.placed (d :: w.deeds) = Consumer.placed w.deeds) (hclear : d ≠ .cleared)
    (hreset : d ≠ .reset) : (w.told d s r).Delivered c := by
  cases r with
  | error stop => exact ⟨h.placed, h.acknowledged⟩
  | ok _ =>
    refine ⟨hplaced.trans h.placed, fun e he hsel hle => ?_⟩
    exact (h.acknowledged e he hsel hle).cons hclear hreset

theorem World.Delivered.advanced (h : w.Delivered c) {cs : Checkpoints} {p : EventId}
    (hkept : ∀ e ∈ w.store.log.toList, w.selects c e = true → w.position c < e.id → e.id ≤ p →
      Flushed e w.deeds)
    (hcs : cs.positionOf c.name = p) : (w.settled (.advanced p) cs).Delivered c := by
  refine ⟨hcs.symm, fun e he hsel hle => ?_⟩
  have hle' : e.id ≤ p := hcs ▸ hle
  rcases Nat.lt_or_ge (w.position c) e.id with hlt | hge
  · have hplaced : Consumer.placed w.deeds < e.id := h.placed ▸ hlt
    exact (hkept e he hsel hlt hle').acknowledged hplaced hle'
  · exact (h.acknowledged e he hsel hge).cons nofun nofun

theorem World.Sound.delivered (h : w.Sound c) (hplaced : Consumer.placed w.deeds = 0)
    (hzero : w.position c = 0) :
    w.Delivered c := by
  refine ⟨hplaced.trans hzero.symm, fun e he _ hle => ?_⟩
  have hpos := (h.ordered.id_bounds he).1
  rw [hzero] at hle
  exact absurd (Nat.le_trans hpos hle) (Nat.not_succ_le_zero 0)

/-- What the handler took is applied, what it kept is flushed. -/
def deliveryOutline (c : Setting η) : Outline c where
  inv w := w.Delivered c
  taken e w := Applied e w.deeds
  kept e w := Flushed e w.deeds
  inv_drift hs hd h := h.drift hs hd
  taken_drift hd h := by
    rw [deeds_of_drift hd]
    exact h
  kept_drift hd h := by
    rw [deeds_of_drift hd]
    exact h
  applied := by
    intro w e r s _ h _ _
    refine ⟨h.told rfl nofun nofun, fun d hd => ?_, ?_⟩
    · cases r with
      | error stop => exact hd
      | ok _ => exact hd.cons nofun
    · rintro rfl
      exact applied_self e w.deeds
  flushed := by
    intro w r s _ h _
    refine ⟨h.told rfl nofun nofun, ?_⟩
    rintro rfl e he
    exact he.flushed
  advanced _ h _ hkept hcs := h.advanced hkept hcs
  -- A reset leaves nothing to answer for, so that the clear that follows it can take everything
  -- back.
  reset := by
    intro w cs hs _ hcs
    have hle : cs.positionOf c.name ≤ w.store.log.head := by
      rw [hcs]
      exact Nat.zero_le _
    exact (hs.settled .reset hle).delivered rfl hcs
  cleared := by
    intro w r s hs h hzero _
    cases r with
    | error stop => exact ⟨h.placed, h.acknowledged⟩
    | ok _ => exact (hs.told .cleared s (.ok ())).delivered (h.placed.trans hzero) hzero
  restarted _ h _ := ⟨h.placed, h.acknowledged⟩

/-! ## Every run -/

/-- What can be relied on at a moment of a run. -/
structure AtLeastOnce (c : Setting η) (s : Moment η) : Prop where
  /-- The record has every write of the checkpoint. -/
  placed : placed s.world.deeds = s.world.position c
  /-- Every selected event that the checkpoint has passed was applied and flushed before it was
  passed. -/
  acknowledged : ∀ e ∈ s.world.store.log.toList, s.world.selects c e = true →
    e.id ≤ s.world.position c → Acknowledged e s.world.deeds
  /-- Whatever happens next, the checkpoint does not go back, unless by the reset of a rebuild. -/
  forward : ∀ s', c.Step s s' → s.world.position c ≤ s'.world.position c ∨
    (∃ p, s.task = some (.rebuild, p)) ∧ s'.world.deeds = .reset :: s.world.deeds

theorem World.Fresh.delivered (h : w.Fresh c) : w.Delivered c := by
  refine h.sound.delivered ?_ h.position
  rw [h.deeds]
  rfl

/-- **At-least-once delivery**, for every handler, filter, scope and batch size, and every run:
others append between any two questions, handlers fail or crash, writes of the checkpoint are
refused, and the consumer may start again at any moment. What is assumed is only that it starts with
a checkpoint that nobody has moved. -/
theorem atLeastOnce_of_reachable {start : World η} (fresh : start.Fresh c) {s : Moment η}
    (h : c.Reachable start s) : AtLeastOnce c s := by
  have hholds : (deliveryOutline c).Holds s :=
    Outline.holds_of_reachable fresh.sound fresh.delivered h
  have hdelivered : s.world.Delivered c := hholds.world.2
  exact ⟨hdelivered.placed, hdelivered.acknowledged, fun s' hstep => hholds.position_step hstep⟩

def bookkeeper : Setting Unit :=
  ⟨"balances", 2, .all, .internal, ⟨fun _ _ _ _ => True, fun _ _ _ => True, fun _ _ _ => True,
    fun _ _ => True⟩⟩

def morning : World Unit := ⟨(Store.empty .standard).after Sample.quarter, .empty, (), []⟩

def willing : Service Unit :=
  ⟨fun _ _ => (.ok (), ()), fun _ => (.ok (), ()), fun _ => (.ok (), ())⟩

def evening : World Unit := bookkeeper.outcome willing Sample.noon .cycle morning

/-- The two events that the bookkeeper's first cycle has passed were delivered. -/
theorem atLeastOnce_evening :
    morning.Fresh bookkeeper ∧ bookkeeper.Reachable morning ⟨evening, none⟩ ∧
      evening.position bookkeeper = 2 ∧ evening.store.log.head = 4 ∧
      AtLeastOnce bookkeeper ⟨evening, none⟩ := by
  have hfresh : morning.Fresh bookkeeper := ⟨⟨.standard, Sample.quarter, rfl⟩, rfl, rfl⟩
  have hobeys : willing.Obeys bookkeeper.handler :=
    ⟨fun _ _ => trivial, fun _ => trivial, fun _ => trivial⟩
  have hrun : bookkeeper.Reachable morning ⟨evening, none⟩ :=
    Setting.Reachable.run hobeys Sample.noon .cycle .start
  exact ⟨hfresh, hrun, by decide +kernel, by decide +kernel, atLeastOnce_of_reachable hfresh hrun⟩

end Consumer

end Journal
