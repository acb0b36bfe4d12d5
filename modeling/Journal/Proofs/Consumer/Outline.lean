import Journal.Proofs.Consumer.Fetch

/-!
# Proof outlines for a consumer

What a cycle and a rebuild do is the same whatever one wants to know about it: fetch, apply one
event after the other, flush, advance; reset, clear. An `Outline` says what has to be known at each
of these points, and nothing about the programs, about where they can fail and about the others.
**`Outline.holds_of_reachable` turns an outline into an invariant of every run.**

An outline speaks about events twice: a *taken* event is one that the handler answered for, a *kept*
event one that was flushed as well. Both are lost when the handler is cleared, which is no loss
because the checkpoint is at zero then: that is all that the order of the two steps of a rebuild is
for.
-/

namespace Journal

namespace Consumer

variable {η : Type} {c : Setting η}

/-- What is known of the worlds of a run, and why every step leaves it so. A property of runs is
proved by giving an outline of it: what the handler has taken and kept of an event, an invariant,
and for each kind of step why the invariant is kept. The rest, from the single questions up to whole
runs, is done here once. -/
structure Outline (c : Setting η) where
  inv : World η → Prop
  taken : Event → World η → Prop
  kept : Event → World η → Prop
  inv_drift : ∀ {w x}, w.Sound c → c.drift w x → inv w → inv x
  taken_drift : ∀ {w x e}, c.drift w x → taken e w → taken e x
  kept_drift : ∀ {w x e}, c.drift w x → kept e w → kept e x
  applied : ∀ {w e r h}, w.Sound c → inv w → w.Due c taken e → c.handler.apply e w.handler r h →
    inv (w.told (.applied e) h r) ∧ (∀ d, taken d w → taken d (w.told (.applied e) h r)) ∧
      (r = .ok () → taken e (w.told (.applied e) h r))
  flushed : ∀ {w r h}, w.Sound c → inv w → c.handler.flush w.handler r h →
    inv (w.told .flushed h r) ∧ (r = .ok () → ∀ e, taken e w → kept e (w.told .flushed h r))
  advanced : ∀ {w cs p}, w.Sound c → inv w → w.position c < p →
    (∀ e ∈ w.store.log.toList, w.selects c e = true → w.position c < e.id → e.id ≤ p → kept e w) →
    cs.positionOf c.name = p → inv (w.settled (.advanced p) cs)
  reset : ∀ {w cs}, w.Sound c → inv w → cs.positionOf c.name = 0 → inv (w.settled .reset cs)
  cleared : ∀ {w r h}, w.Sound c → inv w → w.position c = 0 → c.handler.clear w.handler r h →
    inv (w.told .cleared h r)
  restarted : ∀ {w h}, w.Sound c → inv w → c.handler.restart w.handler h →
    inv { w with handler := h }

namespace Outline

variable (O : Outline c) {t : Task} {w x : World η}

/-- The invariant, and the checkpoint does not go back unless a rebuild resets it. -/
def terms (t : Task) : Terms c.surroundings where
  inv w := w.Sound c ∧ O.inv w
  permits v x := v.position c ≤ x.position c ∨ t = .rebuild ∧ x.deeds = .reset :: v.deeds
  inv_drift := fun h hd => ⟨h.1.drift hd, O.inv_drift h.1 hd h.2⟩

def Keeps (t : Task) {α : Type} (p : Program calls α) (w : World η) : Prop :=
  p.Upholds (O.terms t) (fun _ _ => True) w

variable {O}

/-! ## Questions that change nothing -/

def Quiet : Ask → Prop
  | .acquire | .release | .enter _ | .position | .filter | .read .. => True
  | .apply _ | .flush | .advance _ | .reset | .clear => False

theorem eq_of_quiet {q : Ask} (hq : Quiet q) {r : calls.Answer q} (h : c.answers q w r x) :
    x = w := by
  cases q with
  | acquire | release | enter => exact h
  | position | filter | read => exact h.1
  | apply | flush | advance | reset | clear => exact hq.elim

theorem keeps_done {α : Type} (a : α) (h : (O.terms t).inv w) :
    O.Keeps t (.done a : Program calls α) w :=
  .of_done h fun _ _ => trivial

theorem upholds_quiet {α : Type} {post : α → World η → Prop} {q : Ask}
    {next : calls.Answer q → Program calls α} (hq : Quiet q) (hinv : (O.terms t).inv w)
    (hnext : ∀ v r, c.drift w v → (O.terms t).inv v → c.answers q v r v →
      (next r).Upholds (O.terms t) post v) :
    (Program.ask q next).Upholds (O.terms t) post w := by
  refine .of_ask hinv fun v hd hv r x ha => ?_
  have hx : x = v := eq_of_quiet hq ha
  rw [hx] at ha ⊢
  exact ⟨Or.inl (Nat.le_refl _), hnext v r hd hv ha⟩

/-! ## Applying a page -/

/-- On the way from the read to the advance: of the page that is in hand, the handler has these
events. -/
structure Midway (O : Outline c) (has : Event → World η → Prop) (p : EventId) (page : Page)
    (done : List Event) (w : World η) : Prop where
  sound : w.Sound c
  inv : O.inv w
  position : w.position c = p
  fetched : w.Fetched c page
  done : ∀ e ∈ done, has e w

variable {has : Event → World η → Prop} {p : EventId} {page : Page} {done rest : List Event}

theorem Midway.drift (stable : ∀ {w x e}, c.drift w x → has e w → has e x)
    (h : O.Midway has p page done w) (hd : c.drift w x) : O.Midway has p page done x :=
  ⟨h.sound.drift hd, O.inv_drift h.sound hd h.inv, (position_of_drift hd).trans h.position,
    h.fetched.drift h.sound hd, fun e he => stable hd (h.done e he)⟩

theorem Midway.terms (h : O.Midway has p page done w) : (O.terms t).inv w := ⟨h.sound, h.inv⟩

theorem Midway.applied {e : Event} {r : Attempt String Unit} {s : η}
    (h : O.Midway O.taken p page done w) (hpage : page.events = done ++ e :: rest)
    (ha : c.handler.apply e w.handler r s) :
    (O.terms t).inv (w.told (.applied e) s r) ∧
      (r = .ok () → O.Midway O.taken p page (done ++ [e]) (w.told (.applied e) s r)) := by
  obtain ⟨hinv, hkeep, htaken⟩ := O.applied h.sound h.inv (h.fetched.due h.sound hpage h.done) ha
  have hsound : (w.told (.applied e) s r).Sound c := h.sound.told _ _ _
  refine ⟨⟨hsound, hinv⟩, fun hr => ?_⟩
  refine ⟨hsound, hinv, ?_, h.fetched.told _ _ _, ?_⟩
  · rw [World.position_told]
    exact h.position
  · intro d hd
    rcases List.mem_append.mp hd with hd | hd
    · exact hkeep d (h.done d hd)
    · rw [List.mem_singleton.mp hd]
      exact htaken hr

/-- What the handler was given is taken, unless it failed on one of the events. The induction is on
what is left of the page; what it carries is that all before that is taken. -/
theorem upholds_applyAll (hpage : page.events = done ++ rest) (h : O.Midway O.taken p page done w) :
    (applyAll c.name rest).Upholds (O.terms t)
    (fun r v => r = .ok () → O.Midway O.taken p page page.events v) w := by
  induction rest generalizing done w with
  | nil =>
    rw [List.append_nil] at hpage
    refine .of_done h.terms fun v hd _ => ?_
    rw [hpage]
    exact h.drift O.taken_drift hd
  | cons e rest ih =>
    refine .of_ask h.terms fun v hd _ r x ha => ?_
    obtain ⟨s, happly, rfl⟩ := ha
    have hv : O.Midway O.taken p page done v := h.drift O.taken_drift hd
    obtain ⟨hinv, hdone⟩ := hv.applied (t := t) hpage happly
    refine ⟨Or.inl (Nat.le_of_eq (World.position_told _ _ _ _).symm), ?_⟩
    rcases r with stop | _
    · rcases stop with reason | _
      · exact .of_done hinv fun _ _ hr => nomatch hr
      · exact .of_done hinv fun _ _ hr => nomatch hr
    · have hrest : page.events = (done ++ [e]) ++ rest := by
        rw [List.append_assoc]
        exact hpage
      exact ih hrest (hdone rfl)

/-! ## Moving the checkpoint -/

theorem Midway.flushed {r : Attempt String Unit} {s : η} (h : O.Midway O.taken p page done w)
    (hf : c.handler.flush w.handler r s) :
    (O.terms t).inv (w.told .flushed s r) ∧
    (r = .ok () → O.Midway O.kept p page done (w.told .flushed s r)) := by
  obtain ⟨hinv, hkept⟩ := O.flushed h.sound h.inv hf
  have hsound : (w.told .flushed s r).Sound c := h.sound.told _ _ _
  refine ⟨⟨hsound, hinv⟩, fun hr => ?_⟩
  refine ⟨hsound, hinv, ?_, h.fetched.told _ _ _, fun e he => hkept hr e (h.done e he)⟩
  rw [World.position_told]
  exact h.position

theorem Midway.advanced {cs : Checkpoints} (h : O.Midway O.kept p page page.events w)
    (hlt : p < page.next) (hcs : cs.positionOf c.name = page.next) :
    (O.terms t).inv (w.settled (.advanced page.next) cs) := by
  refine ⟨h.sound.settled _ ?_, O.advanced h.sound h.inv ?_ ?_ hcs⟩
  · rw [hcs]
    exact h.fetched.next_le
  · rw [h.position]
    exact hlt
  · intro e he hsel hpast hnext
    exact h.done e (h.fetched.mem_events.mpr ⟨he, ⟨hpast, hnext⟩, hsel⟩)

theorem keeps_advance (progress : Progress) (h : O.Midway O.kept p page page.events w)
    (hlt : p < page.next) :
    O.Keeps t (.ask (.advance page.next) fun
      | .ok () => .done (.ok progress)
      | .error e => failed (.checkpoint e)) w := by
  refine .of_ask h.terms fun v hd hv r x ha => ?_
  have hmid : O.Midway O.kept p page page.events v := h.drift O.kept_drift hd
  have hend : ∀ {y}, (O.terms t).inv y → O.Keeps t
      (match r with
        | .ok () => .done (.ok progress)
        | .error e =>
          (failed (.checkpoint e) : Program calls (Attempt ConsumerError Progress))) y := by
    intro y hy
    rcases r with e | _
    · exact keeps_done _ hy
    · exact keeps_done _ hy
  rcases ha with ⟨e, _, rfl⟩ | ⟨now, cs, hcs, rfl⟩
  · exact ⟨Or.inl (Nat.le_refl _), hend hv⟩
  · obtain ⟨hle, hpos⟩ := Checkpoints.positionOf_advance hcs
    exact ⟨Or.inl (Nat.le_trans hle (Nat.le_of_eq hpos.symm)), hend (hmid.advanced hlt hpos)⟩

theorem keeps_settle (h : O.Midway O.taken p page page.events w) :
    O.Keeps t (settle c.name p page) w := by
  unfold settle
  split
  · next hlt =>
    refine upholds_quiet trivial h.terms fun v _ hd hv _ => ?_
    have hmid : O.Midway O.taken p page page.events v := h.drift O.taken_drift hd
    split
    · -- Nothing was applied, and there is nothing to be flushed.
      next hempty =>
      have hnil : page.events = [] := List.isEmpty_iff.mp hempty
      refine keeps_advance _ ⟨hmid.sound, hmid.inv, hmid.position, hmid.fetched, fun e he => ?_⟩ hlt
      rw [hnil] at he
      exact absurd he List.not_mem_nil
    · refine .of_ask hmid.terms fun x hd' _ r y ha => ?_
      obtain ⟨s, hflush, rfl⟩ := ha
      have hmid' : O.Midway O.taken p page page.events x := hmid.drift O.taken_drift hd'
      obtain ⟨hinv, hkept⟩ := hmid'.flushed (t := t) hflush
      refine ⟨Or.inl (Nat.le_of_eq (World.position_told _ _ _ _).symm), ?_⟩
      rcases r with stop | _
      · rcases stop with reason | _
        · exact keeps_done _ hinv
        · exact keeps_done _ hinv
      · exact keeps_advance _ (hkept rfl) hlt
  · exact keeps_done _ h.terms

/-! ## Cycles and rebuilds -/

theorem keeps_cycle (h : (O.terms t).inv w) : O.Keeps t (cycle c.name c.batchSize) w := by
  refine upholds_quiet trivial h fun v _ _ hv _ => ?_
  refine upholds_quiet trivial hv fun v r _ hv ha => ?_
  rcases r with e | p
  · exact keeps_done _ hv
  · -- The checkpoint stays where it was read until this task moves it, and nobody else does.
    have hp : v.position c = p := (ha.2 p rfl).symm
    refine upholds_quiet trivial hv fun x f hd hx hf => ?_
    obtain rfl : f = c.filter := hf.2
    have hpx : x.position c = p := (position_of_drift hd).trans hp
    refine upholds_quiet trivial hx fun y r hd hy hr => ?_
    have hpy : y.position c = p := (position_of_drift hd).trans hpx
    rcases r with e | page
    · exact keeps_done _ hy
    · have hread := hr.2 page rfl
      rw [← hpy] at hread
      have hfetched := World.Fetched.of_read hy.1 hread
      refine upholds_quiet trivial hy fun z _ hd hz _ => ?_
      have hmid : O.Midway O.taken p page [] z :=
        ⟨hz.1, hz.2, (position_of_drift hd).trans hpy, hfetched.drift hy.1 hd, fun e he =>
          absurd he List.not_mem_nil⟩
      refine .bind ((upholds_applyAll (List.nil_append _).symm hmid).mono fun r v hv hpost => ?_)
      rcases r with stop | _
      · exact keeps_done _ hv
      · exact keeps_settle (hpost rfl)

theorem keeps_clear {next : Attempt String Unit → Program calls (Attempt ConsumerError Unit)}
    (h : (O.terms t).inv w) (hzero : w.position c = 0)
    (hnext : ∀ r v, (O.terms t).inv v → O.Keeps t (next r) v) :
    O.Keeps t (.ask .clear next) w := by
  refine .of_ask h fun v hd hv r x ha => ?_
  obtain ⟨s, hclear, rfl⟩ := ha
  have hpos : v.position c = 0 := (position_of_drift hd).trans hzero
  refine ⟨Or.inl (Nat.le_of_eq (World.position_told _ _ _ _).symm), hnext r _ ?_⟩
  exact ⟨hv.1.told _ _ _, O.cleared hv.1 hv.2 hpos hclear⟩

theorem keeps_resetAndClear (h : (O.terms .rebuild).inv w) :
    O.Keeps .rebuild (resetAndClear c.name) w := by
  refine .of_ask h fun v _ hv r x ha => ?_
  rcases ha with ⟨e, rfl, rfl⟩ | ⟨now, rfl⟩
  · exact ⟨Or.inl (Nat.le_refl _), keeps_done _ hv⟩
  · -- Whatever the answer says, the checkpoint is at zero now; only the good answer goes on to the
    -- clear.
    have hzero : (v.checkpoints.reset c.name now).positionOf c.name = 0 :=
      Checkpoints.positionOf_reset _ _ now
    have hinv : (O.terms .rebuild).inv (v.settled .reset (v.checkpoints.reset c.name now)) := by
      refine ⟨hv.1.settled _ ?_, O.reset hv.1 hv.2 hzero⟩
      rw [hzero]
      exact Nat.zero_le _
    refine ⟨Or.inr ⟨rfl, rfl⟩, ?_⟩
    rcases r with e | _
    · exact keeps_done _ hinv
    · refine keeps_clear hinv hzero fun r x hx => ?_
      rcases r with stop | _
      · rcases stop with reason | _
        · exact keeps_done _ hx
        · exact keeps_done _ hx
      · exact keeps_done _ hx

theorem keeps_exclusively {α : Type} {body : Program calls (Attempt ConsumerError α)}
    (hbody : ∀ v, (O.terms t).inv v → O.Keeps t body v) (h : (O.terms t).inv w) :
    O.Keeps t (exclusively body) w := by
  refine upholds_quiet trivial h fun v _ _ hv _ => ?_
  refine .bind ((hbody v hv).mono fun r x hx _ => ?_)
  have hrelease {y} (hy : (O.terms t).inv y) : O.Keeps t (.ask .release fun _ => .done r) y :=
    upholds_quiet trivial hy fun _ _ _ hz _ => keeps_done _ hz
  have hidle : O.Keeps t (.ask (.enter .idle) fun _ => .ask .release fun _ => .done r) x :=
    upholds_quiet trivial hx fun _ _ _ hy _ => hrelease hy
  rcases r with stop | _
  · rcases stop with reason | _
    · exact hidle
    · exact hrelease hx
  · exact hidle

theorem keeps_runOnce (h : (O.terms t).inv w) : O.Keeps t (runOnce c.name c.batchSize) w :=
  keeps_exclusively (fun _ hv => keeps_cycle hv) h

theorem keeps_rebuild (h : (O.terms .rebuild).inv w) : O.Keeps .rebuild (rebuild c.name) w :=
  keeps_exclusively (fun _ hv => upholds_quiet trivial hv fun _ _ _ hx _ =>
    keeps_resetAndClear hx) h

theorem keeps_program (t : Task) (h : (O.terms t).inv w) : O.Keeps t (c.program t) w := by
  cases t with
  | cycle => exact .bind ((keeps_runOnce h).mono fun _ _ hv _ => keeps_done _ hv)
  | rebuild => exact .bind ((keeps_rebuild h).mono fun _ _ hv _ => keeps_done _ hv)

/-! ## Runs -/

def Holds (O : Outline c) (s : Moment η) : Prop :=
  match s.task with
  | none => s.world.Sound c ∧ O.inv s.world
  | some (t, p) => O.Keeps t p s.world

theorem Holds.world {s : Moment η} (h : O.Holds s) : s.world.Sound c ∧ O.inv s.world := by
  obtain ⟨w, _ | ⟨t, p⟩⟩ := s
  · exact h
  · exact Program.Upholds.inv h

theorem Holds.step {s s' : Moment η} (h : O.Holds s) (hstep : c.Step s s') : O.Holds s' := by
  cases hstep with
  | @others w x task hd =>
    obtain _ | ⟨t, p⟩ := task
    · exact (O.terms .cycle).inv_drift h hd
    · exact Program.Upholds.drift h hd
  | begin t => exact keeps_program t h
  | answer ha => exact (Program.Upholds.answer h ha).2
  | finish => exact Program.Upholds.inv h
  | crash hrestart =>
    have hw := h.world
    exact ⟨⟨hw.1.ordered, hw.1.position_le⟩, O.restarted hw.1 hw.2 hrestart⟩

/-- **What an outline says of one world, it says of every world of a run.** -/
theorem holds_of_reachable {start : World η} (hsound : start.Sound c) (hinv : O.inv start)
    {s : Moment η} (h : c.Reachable start s) : O.Holds s := by
  induction h with
  | start => exact ⟨hsound, hinv⟩
  | step _ hnext ih => exact ih.step hnext

theorem Holds.position_step {s s' : Moment η} (h : O.Holds s) (hstep : c.Step s s') :
    s.world.position c ≤ s'.world.position c ∨
      (∃ p, s.task = some (.rebuild, p)) ∧ s'.world.deeds = .reset :: s.world.deeds := by
  cases hstep with
  | others hd => exact Or.inl (Nat.le_of_eq (position_of_drift hd).symm)
  | begin t => exact Or.inl (Nat.le_refl _)
  | answer ha =>
    rcases (Program.Upholds.answer h ha).1 with hle | ⟨ht, hreset⟩
    · exact Or.inl hle
    · exact Or.inr ⟨⟨_, by rw [ht]⟩, hreset⟩
  | finish => exact Or.inl (Nat.le_refl _)
  | crash => exact Or.inl (Nat.le_refl _)

end Outline

end Consumer

end Journal
