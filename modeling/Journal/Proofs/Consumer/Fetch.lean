import Journal.Proofs.Consumer.Run
import Journal.Proofs.Read.Paging

/-!
# Pages in hand

Between the read and the last event of the page, others go on writing, and the handler may take its
time. **The page that was read stays the page that would be read now** (`World.Fetched.drift`): the
checkpoint does not move while the page is worked on, the page ends within the log as it was, and a
log that grows does not change what is in it. The one thing this needs of all runs is that the
checkpoint never gets ahead of the log (`World.Sound`).

Events are applied in the order of the page, so that the handler, when it is given one, has all
selected events before it (`World.Fetched.due`).
-/

namespace Journal

namespace Consumer

variable {η : Type} {c : Setting η} {w x : World η}

/-! ## Drifting -/

theorem handler_of_drift (h : c.drift w x) : x.handler = w.handler := by
  obtain ⟨ops, cs, _, rfl⟩ := h
  rfl

theorem deeds_of_drift (h : c.drift w x) : x.deeds = w.deeds := by
  obtain ⟨ops, cs, _, rfl⟩ := h
  rfl

theorem position_of_drift (h : c.drift w x) : x.position c = w.position c := by
  obtain ⟨ops, cs, hcs, rfl⟩ := h
  exact hcs

theorem prefix_of_drift (h : c.drift w x) : w.store.log.toList <+: x.store.log.toList := by
  obtain ⟨ops, cs, _, rfl⟩ := h
  exact Store.prefix_after w.store ops

theorem head_le_of_drift (h : c.drift w x) : w.store.log.head ≤ x.store.log.head :=
  (prefix_of_drift h).length_le

namespace World

def selects (c : Setting η) (w : World η) : Event → Bool := c.filter.selects c.scope w.store.policy

/-- What holds in every run: the log is in order, and the checkpoint is in the log. -/
structure Sound (c : Setting η) (w : World η) : Prop where
  ordered : w.store.log.Ordered
  position_le : w.position c ≤ w.store.log.head

theorem Fresh.sound (h : w.Fresh c) : w.Sound c := by
  obtain ⟨policy, ops, hstore⟩ := h.store
  refine ⟨?_, ?_⟩
  · rw [hstore]
    exact Store.ordered_after Log.ordered_empty ops
  · rw [h.position]
    exact Nat.zero_le _

theorem selects_of_drift (h : c.drift w x) : x.selects c = w.selects c := by
  obtain ⟨ops, cs, _, rfl⟩ := h
  simp [selects]

theorem Sound.drift (hs : w.Sound c) (h : c.drift w x) : x.Sound c := by
  refine ⟨?_, ?_⟩
  · obtain ⟨ops, cs, _, rfl⟩ := h
    exact Store.ordered_after hs.ordered ops
  · rw [position_of_drift h]
    exact Nat.le_trans hs.position_le (head_le_of_drift h)

/-- Others add nothing to a stretch of the log that was complete. -/
theorem Sound.between_of_drift (hs : w.Sound c) (h : c.drift w x) {past upTo : EventId}
    (hup : upTo ≤ w.store.log.head) :
    x.store.log.between past upTo = w.store.log.between past upTo :=
  Log.between_of_prefix (hs.drift h).ordered (prefix_of_drift h) hup

theorem Sound.mem_of_drift (hs : w.Sound c) (h : c.drift w x) {e : Event}
    (he : e ∈ x.store.log.toList) (hid : e.id ≤ w.store.log.head) : e ∈ w.store.log.toList := by
  -- Membership is a matter of one stretch, the whole log as it was.
  have hpos := ((hs.drift h).ordered.id_bounds he).1
  have hin : e ∈ x.store.log.between 0 w.store.log.head := Log.mem_between.mpr ⟨he, hpos, hid⟩
  rw [hs.between_of_drift h (Nat.le_refl _)] at hin
  exact (Log.mem_between.mp hin).1

theorem Sound.told (h : w.Sound c) (d : Deed) (s : η) (r : Attempt String Unit) :
    (w.told d s r).Sound c := by
  refine ⟨?_, ?_⟩
  · rw [told_store]
    exact h.ordered
  · rw [position_told, told_store]
    exact h.position_le

theorem Sound.settled (h : w.Sound c) {cs : Checkpoints} (d : Deed)
    (hle : cs.positionOf c.name ≤ w.store.log.head) :
    (w.settled d cs).Sound c :=
  ⟨h.ordered, hle⟩

/-! ## Pages in hand -/

/-- The page is what a read past the checkpoint gives, and the checkpoint can be moved to its
end. -/
structure Fetched (c : Setting η) (page : Page) (w : World η) : Prop where
  events : page.events = (w.store.log.between (w.position c) page.next).filter (w.selects c)
  past_le : w.position c ≤ page.next
  next_le : page.next ≤ w.store.log.head

theorem Fetched.of_read (hs : w.Sound c) {limit : Option Nat} {page : Page}
    (hread : w.store.read (w.position c) limit c.filter c.scope = .ok page) : w.Fetched c page := by
  have hpage := Paging.pageOf_read hs.ordered hread
  refine ⟨hpage.events, hpage.past_le, ?_⟩
  have hnext := hpage.next_le
  rw [Nat.max_eq_left hs.position_le] at hnext
  exact hnext

theorem Fetched.drift {page : Page} (hf : w.Fetched c page) (hs : w.Sound c) (h : c.drift w x) :
    x.Fetched c page := by
  refine ⟨?_, ?_, Nat.le_trans hf.next_le (head_le_of_drift h)⟩
  · rw [position_of_drift h, hs.between_of_drift h hf.next_le, selects_of_drift h]
    exact hf.events
  · rw [position_of_drift h]
    exact hf.past_le

theorem Fetched.mem_events {page : Page} (hf : w.Fetched c page) {e : Event} :
    e ∈ page.events ↔
      e ∈ w.store.log.toList ∧ (w.position c < e.id ∧ e.id ≤ page.next) ∧ w.selects c e = true := by
  rw [hf.events, List.mem_filter, Log.mem_between, and_assoc]

theorem Fetched.told {page : Page} (h : w.Fetched c page) (d : Deed) (s : η)
    (r : Attempt String Unit) :
    (w.told d s r).Fetched c page := by
  cases r with
  | ok _ => exact ⟨h.events, h.past_le, h.next_le⟩
  | error _ => exact ⟨h.events, h.past_le, h.next_le⟩

/-- The handler is given the event next: it is selected, not yet settled, and nothing before it is
left out. -/
structure Due (c : Setting η) (taken : Event → World η → Prop) (e : Event)
    (w : World η) : Prop where
  mem : e ∈ w.store.log.toList
  selected : w.selects c e = true
  unsettled : w.position c < e.id
  before : ∀ d ∈ w.store.log.toList, w.selects c d = true → w.position c < d.id →
    d.id < e.id → taken d w

theorem Fetched.due {page : Page} (hf : w.Fetched c page) (hs : w.Sound c) {done rest : List Event}
    {e : Event} (hpage : page.events = done ++ e :: rest) {taken : Event → World η → Prop}
    (hdone : ∀ d ∈ done, taken d w) : w.Due c taken e := by
  have hmem : e ∈ page.events := by
    rw [hpage]
    exact List.mem_append_right _ List.mem_cons_self
  obtain ⟨hlog, ⟨hpast, hnext⟩, hsel⟩ := hf.mem_events.mp hmem
  refine ⟨hlog, hsel, hpast, ?_⟩
  intro d hd hdsel hdpast hlt
  -- The event before is on the page, and on the page it stands before.
  have hdpage : d ∈ page.events :=
    hf.mem_events.mpr ⟨hd, ⟨hdpast, Nat.le_trans (Nat.le_of_lt hlt) hnext⟩, hdsel⟩
  have hasc : page.events.Pairwise (fun d e => d.id < e.id) := by
    rw [hf.events]
    exact (Log.pairwise_between hs.ordered _ _).filter _
  rw [hpage] at hdpage hasc
  rcases List.mem_append.mp hdpage with hdone' | hlater
  · exact hdone d hdone'
  · rcases List.mem_cons.mp hlater with rfl | hrest
    · exact absurd hlt (Nat.lt_irrefl _)
    · have hcons := (List.pairwise_append.mp hasc).2.1
      have hgt := (List.pairwise_cons.mp hcons).1 d hrest
      exact absurd (Nat.lt_trans hlt hgt) (Nat.lt_irrefl _)

end World

end Consumer

end Journal
