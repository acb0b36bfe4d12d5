import Journal.Proofs.Consumer.Delivery

/-!
# What a cycle has done when it ends well

An outline says nothing of the result of a cycle. Here the result is what it is about: **a cycle
that ends well has handed the handler exactly the selected events of the stretch that the checkpoint
has moved over, has counted them, and tells the checkpoint as it is** (`upholds_runOnce`). When it
says that there was nothing more to read, the checkpoint has passed everything that was in the log
when the cycle began: a page without successor ends at the head, also where the filter leaves out
what is there.

A `Desk` keeps an account of the events that a task hands to the handler, whatever the handler makes
of them.
-/

namespace Journal

theorem Access.next_of_not_hasMore {a : Access} {accepted : List Event} {head : EventId}
    (h : (a.page accepted head).hasMore = false) : head ≤ (a.page accepted head).next := by
  unfold Access.page at h ⊢
  dsimp only at h ⊢
  split at h
  · cases h
  · next hfew =>
    rw [if_neg hfew]
    exact Nat.le_max_left _ _

/-- A page without successor ends at the head of the log, or beyond it. -/
theorem Paging.head_le_next {s : Store} {past : EventId} {limit : Option Nat} {f : Filter}
    {scope : Scope} {page : Page} (hread : s.read past limit f scope = .ok page)
    (last : page.hasMore = false) :
    s.log.head ≤ page.next := by
  obtain ⟨_, rfl⟩ := page_of_read hread
  exact Access.next_of_not_hasMore last

namespace Consumer

variable {η : Type} {c : Setting η} {w x y : World η}

/-! ## Worlds that come later -/

/-- What is in the log, and what was done, is there still. Everything else of a world may have
changed in the meantime, as others write to the log and move their own checkpoints. -/
structure World.Grown (c : Setting η) (w x : World η) : Prop where
  log : w.store.log.toList <+: x.store.log.toList
  selects : x.selects c = w.selects c
  deeds : w.deeds <:+ x.deeds

namespace World.Grown

theorem refl (w : World η) : w.Grown c w := ⟨List.prefix_refl _, rfl, List.suffix_refl _⟩

theorem trans (h : w.Grown c x) (h' : x.Grown c y) : w.Grown c y :=
  ⟨h.log.trans h'.log, h'.selects.trans h.selects, h.deeds.trans h'.deeds⟩

theorem head_le (h : w.Grown c x) : w.store.log.head ≤ x.store.log.head := h.log.length_le

theorem of_drift (h : c.drift w x) : w.Grown c x :=
  ⟨prefix_of_drift h, World.selects_of_drift h, deeds_of_drift h ▸ List.suffix_refl _⟩

theorem told (w : World η) (d : Deed) (s : η) (r : Attempt String Unit) :
    w.Grown c (w.told d s r) := by
  cases r with
  | error stop => exact ⟨List.prefix_refl _, rfl, List.suffix_refl _⟩
  | ok _ => exact ⟨List.prefix_refl _, rfl, List.suffix_cons _ _⟩

theorem settled (w : World η) (d : Deed) (cs : Checkpoints) : w.Grown c (w.settled d cs) :=
  ⟨List.prefix_refl _, rfl, List.suffix_cons _ _⟩

theorem of_answers {q : Ask} {r : calls.Answer q} (h : c.answers q w r x) : w.Grown c x := by
  cases q with
  | acquire | release | enter =>
    obtain rfl : x = w := h
    exact refl x
  | position | filter | read =>
    obtain rfl : x = w := h.1
    exact refl x
  | apply | flush | clear =>
    obtain ⟨s, _, rfl⟩ := h
    exact told w _ s r
  | advance p =>
    rcases h with ⟨e, _, rfl⟩ | ⟨now, cs, _, rfl⟩
    · exact refl x
    · exact settled w _ cs
  | reset =>
    rcases h with ⟨e, _, rfl⟩ | ⟨now, rfl⟩
    · exact refl x
    · exact settled w _ _

end World.Grown

/-! ## The account -/

/-- A world, and the events that the task under way has handed to the handler, the latest first. The
world alone does not tell them apart from those that an earlier task has handed over. -/
structure Desk (η : Type) where
  world : World η
  handed : List Event

def handedBy : Ask → List Event → List Event
  | .apply e, handed => e :: handed
  | _, handed => handed

def Setting.desk (c : Setting η) : Surroundings calls (Desk η) where
  answers q s r t := c.answers q s.world r t.world ∧ t.handed = handedBy q s.handed
  drift s t := c.drift s.world t.world ∧ t.handed = s.handed
  drift_refl s := ⟨c.surroundings.drift_refl s.world, rfl⟩
  drift_trans h h' := ⟨c.surroundings.drift_trans h.1 h'.1, h'.2.trans h.2⟩

/-- Nothing is asked of a task but that the world stays sound. -/
def Setting.deskTerms (c : Setting η) : Terms c.desk where
  inv s := s.world.Sound c
  permits _ _ := True
  inv_drift hs hd := hs.drift hd.1

variable {s : Desk η} {p : EventId} {page : Page} {done rest : List Event}

theorem upholds_asking {α : Type} {post : α → Desk η → Prop} {q : Ask}
    {next : calls.Answer q → Program calls α} (hq : Outline.Quiet q) (sound : s.world.Sound c)
    (hnext : ∀ t r, c.drift s.world t.world → t.handed = s.handed → t.world.Sound c →
      c.answers q t.world r t.world → (next r).Upholds c.deskTerms post t) :
    (Program.ask q next).Upholds c.deskTerms post s := by
  refine .of_ask sound fun t hd ht r u ha => ⟨trivial, ?_⟩
  -- A question that only asks leaves the desk as it is.
  have hworld : u.world = t.world := Outline.eq_of_quiet hq ha.1
  have hhanded : u.handed = t.handed := by
    rw [ha.2]
    cases q with
    | apply => exact hq.elim
    | _ => rfl
  obtain ⟨world, handed⟩ := u
  dsimp only at hworld hhanded
  subst hworld hhanded
  exact hnext t r hd.1 hd.2 ht ha.1

/-! ## A page -/

/-- Of the page that is in hand, these events have been handed over. -/
structure Desk.Working (c : Setting η) (p : EventId) (page : Page) (done : List Event)
    (s : Desk η) : Prop where
  sound : s.world.Sound c
  position : s.world.position c = p
  fetched : s.world.Fetched c page
  handed : s.handed = done.reverse

/-- The page has been handed over, and the checkpoint is at its end. -/
structure Desk.Finished (c : Setting η) (p : EventId) (page : Page) (s : Desk η) : Prop where
  sound : s.world.Sound c
  position : s.world.position c = page.next
  events : page.events = (s.world.store.log.between p page.next).filter (s.world.selects c)
  handed : s.handed = page.events.reverse

namespace Desk

theorem Working.drift {t : Desk η} (h : s.Working c p page done) (hd : c.desk.drift s t) :
    t.Working c p page done where
  sound := h.sound.drift hd.1
  position := (position_of_drift hd.1).trans h.position
  fetched := h.fetched.drift h.sound hd.1
  handed := hd.2.trans h.handed

theorem Finished.drift {t : Desk η} (h : s.Finished c p page) (hd : c.desk.drift s t) :
    t.Finished c p page where
  sound := h.sound.drift hd.1
  position := (position_of_drift hd.1).trans h.position
  events := by
    have hnext : page.next ≤ s.world.store.log.head := h.position ▸ h.sound.position_le
    rw [h.sound.between_of_drift hd.1 hnext, World.selects_of_drift hd.1]
    exact h.events
  handed := hd.2.trans h.handed

theorem Working.told {d : Deed} {r : Attempt String Unit} {handler : η}
    (h : s.Working c p page done) {handed : List Event} {more : List Event}
    (hmore : handed = more.reverse) :
    Working c p page more ⟨s.world.told d handler r, handed⟩ where
  sound := h.sound.told d handler r
  position := (World.position_told _ _ _ _).trans h.position
  fetched := h.fetched.told d handler r
  handed := hmore

theorem Working.advanced {cs : Checkpoints} (h : s.Working c p page page.events)
    (hcs : cs.positionOf c.name = page.next) :
    Finished c p page ⟨s.world.settled (.advanced page.next) cs, s.handed⟩ where
  sound := h.sound.settled _ (hcs ▸ h.fetched.next_le)
  position := hcs
  events := h.position ▸ h.fetched.events
  handed := h.handed

theorem Working.finished (h : s.Working c p page page.events) (hnext : page.next = p) :
    s.Finished c p page where
  sound := h.sound
  position := h.position.trans hnext.symm
  events := h.position ▸ h.fetched.events
  handed := h.handed

end Desk

/-! ## The parts of a cycle -/

/-- Events are handed over in the order of the page. The induction is on what is left of it. -/
theorem upholds_handing (hpage : page.events = done ++ rest) (h : s.Working c p page done) :
    (applyAll c.name rest).Upholds c.deskTerms (fun r t => r = .ok () →
      t.Working c p page page.events) s := by
  induction rest generalizing done s with
  | nil =>
    rw [List.append_nil] at hpage
    refine .of_done h.sound fun t hd _ => ?_
    rw [hpage]
    exact h.drift hd
  | cons e rest ih =>
    refine .of_ask h.sound fun t hd _ r u ha => ⟨trivial, ?_⟩
    obtain ⟨⟨handler, _, hworld⟩, hhanded⟩ := ha
    have hworking : t.Working c p page done := h.drift hd
    have hmore : u.handed = (done ++ [e]).reverse := by
      rw [hhanded, handedBy, hworking.handed, List.reverse_append]
      rfl
    have hnext : u.Working c p page (done ++ [e]) := by
      obtain ⟨world, handed⟩ := u
      dsimp only at hworld
      subst hworld
      exact hworking.told hmore
    rcases r with stop | _
    · rcases stop with reason | _
      · exact .of_done hnext.sound fun _ _ hr => nomatch hr
      · exact .of_done hnext.sound fun _ _ hr => nomatch hr
    · have hrest : page.events = (done ++ [e]) ++ rest := by
        rw [List.append_assoc]
        exact hpage
      exact ih hrest hnext

def EndsWith (c : Setting η) (p : EventId) (page : Page) (r : Attempt ConsumerError Progress)
    (s : Desk η) : Prop :=
  ∀ progress, r = .ok progress →
    progress = ⟨page.events.length, page.next, !page.hasMore⟩ ∧ s.Finished c p page

theorem upholds_advance (h : s.Working c p page page.events) (hlt : p < page.next) :
    Program.Upholds c.deskTerms (EndsWith c p page) (.ask (.advance page.next) fun
      | .ok () => .done (.ok ⟨page.events.length, max page.next p, !page.hasMore⟩)
      | .error e => failed (.checkpoint e)) s := by
  refine .of_ask h.sound fun t hd ht r u ha => ⟨trivial, ?_⟩
  obtain ⟨world, handed⟩ := u
  have hworking : t.Working c p page page.events := h.drift hd
  rcases ha with ⟨⟨e, rfl, hworld⟩ | ⟨now, cs, hcs, hworld⟩, hhanded⟩
  · dsimp only at hworld
    subst hworld
    exact .of_done ht fun _ _ _ hr => nomatch hr
  · dsimp only at hworld hhanded
    subst hworld hhanded
    have hfinished := hworking.advanced (Checkpoints.positionOf_advance hcs).2
    rcases r with e | _
    · exact .of_done hfinished.sound fun _ _ _ hr => nomatch hr
    · refine .of_done hfinished.sound fun v hd' progress hr => ⟨?_, hfinished.drift hd'⟩
      rw [← Except.ok.inj hr, Nat.max_eq_left (Nat.le_of_lt hlt)]

theorem upholds_settle (h : s.Working c p page page.events) :
    (settle c.name p page).Upholds c.deskTerms (EndsWith c p page) s := by
  unfold settle
  split
  · next hlt =>
    refine upholds_asking trivial h.sound fun t _ hd hhanded _ _ => ?_
    have hworking : t.Working c p page page.events := h.drift ⟨hd, hhanded⟩
    split
    · exact upholds_advance hworking hlt
    · refine .of_ask hworking.sound fun u hd' _ r v ha => ⟨trivial, ?_⟩
      obtain ⟨⟨handler, _, hworld⟩, hflushed⟩ := ha
      have hworking' : u.Working c p page page.events := hworking.drift hd'
      have hnext : v.Working c p page page.events := by
        obtain ⟨world, handed⟩ := v
        dsimp only at hworld hflushed
        subst hworld
        exact hworking'.told (hflushed.trans hworking'.handed)
      rcases r with stop | _
      · rcases stop with reason | _
        · exact .of_done hnext.sound fun _ _ _ hr => nomatch hr
        · exact .of_done hnext.sound fun _ _ _ hr => nomatch hr
      · exact upholds_advance hnext hlt
  · next hge =>
    -- A page never ends before the position that it was read from.
    have hnext : page.next = p :=
      Nat.le_antisymm (Nat.le_of_not_lt hge) (h.position ▸ h.fetched.past_le)
    refine .of_done h.sound fun t hd progress hr => ⟨?_, (h.finished hnext).drift hd⟩
    rw [← Except.ok.inj hr, hnext, Nat.max_self]

/-! ## Cycles -/

/-- What a cycle has done that began in the first world and came to this. -/
structure World.Cycled (c : Setting η) (w : World η) (progress : Progress) (handed : List Event)
    (x : World η) :
    Prop where
  position : x.position c = progress.position
  position_le : w.position c ≤ progress.position
  applied : progress.applied = handed.length
  handed : handed.reverse =
    (x.store.log.between (w.position c) progress.position).filter (x.selects c)
  caughtUp : progress.caughtUp = true → w.store.log.head ≤ progress.position

theorem World.Cycled.drift {progress : Progress} {handed : List Event}
    (h : w.Cycled c progress handed x) (sound : x.Sound c) (hd : c.drift x y) :
    w.Cycled c progress handed y where
  position := (position_of_drift hd).trans h.position
  position_le := h.position_le
  applied := h.applied
  handed := by
    have hle : progress.position ≤ x.store.log.head := h.position ▸ sound.position_le
    rw [sound.between_of_drift hd hle, selects_of_drift hd]
    exact h.handed
  caughtUp := h.caughtUp

theorem Desk.Finished.cycled (h : s.Finished c (w.position c) page)
    (past_le : w.position c ≤ page.next)
    (last : page.hasMore = false → w.store.log.head ≤ page.next) :
    w.Cycled c ⟨page.events.length, page.next, !page.hasMore⟩ s.handed s.world where
  position := h.position
  position_le := past_le
  applied := by rw [h.handed, List.length_reverse]
  handed := by
    rw [h.handed, List.reverse_reverse]
    exact h.events
  caughtUp hcaught := last ((Bool.not_eq_true' _).mp hcaught)

def CycleEnds (c : Setting η) (w : World η) (r : Attempt ConsumerError Progress)
    (s : Desk η) : Prop :=
  ∀ progress, r = .ok progress → w.Cycled c progress s.handed s.world

theorem upholds_failed {α : Type} {post : Attempt ConsumerError α → Desk η → Prop}
    (e : ConsumerError) (sound : s.world.Sound c) (hpost : ∀ t, post (.error (.failed e)) t) :
    (failed e : Program calls (Attempt ConsumerError α)).Upholds c.deskTerms post s :=
  .of_done sound fun t _ => hpost t

theorem upholds_cycle (sound : s.world.Sound c) (handed : s.handed = []) (grown : w.Grown c s.world)
    (position : s.world.position c = w.position c) :
    (cycle c.name c.batchSize).Upholds c.deskTerms (CycleEnds c w) s := by
  refine upholds_asking trivial sound fun t _ hdt hst ht _ => ?_
  refine upholds_asking trivial ht fun u r hdu hsu hu ha => ?_
  have hup : u.world.position c = w.position c :=
    (position_of_drift hdu).trans ((position_of_drift hdt).trans position)
  rcases r with e | p
  · exact upholds_failed _ hu fun _ _ hr => nomatch hr
  · obtain rfl : p = w.position c := (ha.2 p rfl).trans hup
    refine upholds_asking trivial hu fun v f hdv hsv hv hf => ?_
    obtain rfl : f = c.filter := hf.2
    refine upholds_asking trivial hv fun x r hdx hsx hx hr => ?_
    rcases r with e | page
    · exact upholds_failed _ hx fun _ _ hr => nomatch hr
    · have hxp : x.world.position c = w.position c :=
        (position_of_drift hdx).trans ((position_of_drift hdv).trans hup)
      have hgrown : w.Grown c x.world :=
        (((grown.trans (.of_drift hdt)).trans (.of_drift hdu)).trans (.of_drift hdv)).trans
          (.of_drift hdx)
      have hnone : x.handed = [] := hsx.trans (hsv.trans (hsu.trans (hst.trans handed)))
      have hread := hr.2 page rfl
      have hlast : page.hasMore = false → w.store.log.head ≤ page.next := fun hmore =>
        Nat.le_trans hgrown.head_le (Paging.head_le_next hread hmore)
      rw [← hxp] at hread
      have hfetched := World.Fetched.of_read hx hread
      have hpast : w.position c ≤ page.next := hxp ▸ hfetched.past_le
      refine upholds_asking trivial hx fun y _ hdy hsy hy _ => ?_
      have hworking : y.Working c (w.position c) page [] :=
        ⟨hy, (position_of_drift hdy).trans hxp, hfetched.drift hx hdy, hsy.trans hnone⟩
      refine .bind ((upholds_handing (List.nil_append _).symm hworking).mono fun r z hz hpost => ?_)
      rcases r with stop | _
      · exact .of_done hz fun _ _ _ hr => nomatch hr
      · refine (upholds_settle (hpost rfl)).mono fun r z _ hends progress hr => ?_
        obtain ⟨rfl, hfinished⟩ := hends progress hr
        exact hfinished.cycled hpast hlast

/-! ## Alone among the tasks of the consumer -/

/-- What a task is wrapped in changes nothing of what it has done. -/
theorem upholds_exclusively {α : Type} {body : Program calls (Attempt ConsumerError α)}
    {post : Attempt ConsumerError α → Desk η → Prop} (sound : s.world.Sound c)
    (stable : ∀ r t u, t.world.Sound c → c.desk.drift t u → post r t → post r u)
    (hbody : ∀ t, c.desk.drift s t → t.world.Sound c → body.Upholds c.deskTerms post t) :
    (exclusively body).Upholds c.deskTerms post s := by
  refine upholds_asking trivial sound fun t _ hd hhanded ht _ => ?_
  refine .bind ((hbody t ⟨hd, hhanded⟩ ht).mono fun r u hu hpost => ?_)
  have hrelease : ∀ {v : Desk η}, v.world.Sound c → post r v →
      Program.Upholds c.deskTerms post (.ask .release fun _ => .done r) v := by
    intro v hv hpost
    refine upholds_asking trivial hv fun x _ hd hhanded hx _ => ?_
    have hpost' : post r x := stable r v x hv ⟨hd, hhanded⟩ hpost
    exact .of_done hx fun y hd' => stable r x y hx hd' hpost'
  have hidle : Program.Upholds c.deskTerms post (.ask (.enter .idle) fun _ =>
      .ask .release fun _ => .done r) u :=
    upholds_asking trivial hu fun v _ hd hhanded hv _ =>
      hrelease hv (stable r u v hu ⟨hd, hhanded⟩ hpost)
  rcases r with stop | _
  · rcases stop with reason | _
    · exact hidle
    · exact hrelease hu hpost
  · exact hidle

/-- **A cycle that ends well has handed over what the checkpoint has moved past.** -/
theorem upholds_runOnce (sound : s.world.Sound c) (handed : s.handed = []) :
    (runOnce c.name c.batchSize).Upholds c.deskTerms (CycleEnds c s.world) s := by
  refine upholds_exclusively sound (fun r t u ht hd hends progress hr => ?_) fun t hd ht => ?_
  · rw [hd.2]
    exact (hends progress hr).drift ht hd.1
  · exact upholds_cycle ht (hd.2.trans handed) (.of_drift hd.1) (position_of_drift hd.1)

/-! ## Resets -/

def ClearedSince (deeds : List Deed) (x : World η) : Prop :=
  ∃ since before, x.deeds = since ++ .cleared :: before ∧ deeds <:+ before

theorem ClearedSince.grown {deeds : List Deed} (h : ClearedSince deeds x) (grown : x.Grown c y) :
    ClearedSince deeds y := by
  obtain ⟨since, before, hdeeds, hbefore⟩ := h
  obtain ⟨more, hmore⟩ := grown.deeds
  refine ⟨more ++ since, before, ?_, hbefore⟩
  rw [← hmore, hdeeds, List.append_assoc]

def ResetEnds (c : Setting η) (deeds : List Deed) (r : Attempt ConsumerError Unit)
    (s : Desk η) : Prop :=
  r = .ok () → s.world.position c = 0 ∧ ClearedSince deeds s.world

theorem upholds_resetAndClear {deeds : List Deed} (sound : s.world.Sound c)
    (before : deeds <:+ s.world.deeds) :
    (resetAndClear c.name).Upholds c.deskTerms (ResetEnds c deeds) s := by
  refine .of_ask sound fun t hdt ht r u ha => ⟨trivial, ?_⟩
  obtain ⟨world, handed⟩ := u
  have hbefore : deeds <:+ t.world.deeds := before.trans (World.Grown.of_drift hdt.1).deeds
  rcases ha with ⟨⟨e, rfl, hworld⟩ | ⟨now, hworld⟩, -⟩
  · dsimp only at hworld
    subst hworld
    exact upholds_failed _ ht fun _ hr => nomatch hr
  · dsimp only at hworld
    subst hworld
    have hzero : (t.world.checkpoints.reset c.name now).positionOf c.name = 0 :=
      Checkpoints.positionOf_reset _ _ now
    have hsound : (t.world.settled .reset (t.world.checkpoints.reset c.name now)).Sound c :=
      ht.settled _ (hzero ▸ Nat.zero_le _)
    rcases r with e | _
    · exact upholds_failed _ hsound fun _ hr => nomatch hr
    · refine .of_ask hsound fun v hdv hv r x ha => ⟨trivial, ?_⟩
      obtain ⟨⟨handler, _, hworld⟩, -⟩ := ha
      obtain ⟨world, handed⟩ := x
      dsimp only at hworld
      subst hworld
      have hsound' : (v.world.told .cleared handler r).Sound c := hv.told _ _ _
      rcases r with stop | _
      · rcases stop with reason | _
        · exact upholds_failed _ hsound' fun _ hr => nomatch hr
        · exact .of_done hsound' fun _ _ hr => nomatch hr
      · refine .of_done hsound' fun y hdy _ => ⟨?_, ?_⟩
        · exact (position_of_drift hdy.1).trans ((position_of_drift hdv.1).trans hzero)
        · refine ClearedSince.grown ⟨[], v.world.deeds, rfl, ?_⟩ (.of_drift hdy.1)
          exact hbefore.trans ((List.suffix_cons _ _).trans (World.Grown.of_drift hdv.1).deeds)

/-- A reset that ends well has put the checkpoint to zero and cleared the handler. -/
theorem upholds_rebuild (sound : s.world.Sound c) :
    (rebuild c.name).Upholds c.deskTerms (ResetEnds c s.world.deeds) s := by
  refine upholds_exclusively sound (fun r t u _ hd hends hr => ?_) fun t hd ht => ?_
  · obtain ⟨hzero, hcleared⟩ := hends hr
    exact ⟨(position_of_drift hd.1).trans hzero, hcleared.grown (.of_drift hd.1)⟩
  · refine upholds_asking trivial ht fun u _ hd' _ hu _ => ?_
    exact upholds_resetAndClear hu
      ((World.Grown.of_drift hd.1).deeds.trans (World.Grown.of_drift hd').deeds)

end Consumer

end Journal
