import Journal.Projection.Tracker
import Journal.Proofs.Log.Stretch

/-!
# What a projection has folded

A projection is given events one by one, some of them again, and keeps a state. `Tracker.Follows`
says what the state is: the fold of the registry over the selected events up to the watermark,
**each once and in the order of the log, however they were delivered**. An event at or below the
watermark is in the fold already and is passed over; an event beyond it may only be delivered when
nothing selected lies between (`Follows.deliver`).

A projection that has come as far as the log has the state that one gets by replaying the log from
its start (`Follows.rebuild`). That is a fact about the fold alone: no word here is about how the
projection came that far.
-/

namespace Journal

variable {σ : Type}

namespace Registry

def fold (r : Registry σ) (state : σ) (es : List Event) : Attempt ProjectionError σ :=
  es.foldlM (fun s e => r.apply s e.envelope) state

theorem fold_eq_foldlM (r : Registry σ) (state : σ) (es : List Event) :
    r.fold state es = (es.map Event.envelope).foldlM r.apply state := by
  rw [List.foldlM_map, fold]

theorem fold_append (r : Registry σ) (state : σ) (es fs : List Event) :
    r.fold state (es ++ fs) = (r.fold state es).bind fun s => r.fold s fs :=
  List.foldlM_append

theorem fold_concat {r : Registry σ} {state s : σ} {es : List Event} (h : r.fold state es = .ok s)
    (e : Event) :
    r.fold state (es ++ [e]) = r.apply s e.envelope := by
  rw [fold_append, h]
  simp only [Except.bind, fold, List.foldlM_cons]
  cases r.apply s e.envelope <;> rfl

end Registry

namespace Projection

def advance (p : Projection σ) (state : σ) (id : EventId) : Projection σ :=
  { p with state, watermark := id }

theorem apply_of_lt {p : Projection σ} {e : Envelope Json} (h : p.watermark < e.id) :
    p.apply e = (p.registry.apply p.state e).map fun s => p.advance s e.id := by
  rw [apply, if_neg (Nat.not_le_of_lt h)]
  rfl

end Projection

namespace Tracker

def advance (t : Tracker σ) (state : σ) (id : EventId) : Tracker σ :=
  { t with projection := t.projection.advance state id, last := id }

theorem deliver_of_le {t : Tracker σ} {e : Envelope Json} (hours : t.mismatch? e = none)
    (h : e.id ≤ t.last) :
    t.deliver e = .ok (.duplicate, t) := by
  rw [deliver, hours]
  exact if_pos h

theorem deliver_of_lt {t : Tracker σ} (hlast : t.last = t.projection.watermark) {e : Envelope Json}
    (hours : t.mismatch? e = none) (h : t.projection.watermark < e.id) :
    t.deliver e =
      (t.projection.registry.apply t.projection.state e).map fun s =>
      (.applied, t.advance s e.id) := by
  have hnot : ¬ e.id ≤ t.last := by
    rw [hlast]
    exact Nat.not_le_of_lt h
  rw [deliver, hours]
  simp only [if_neg hnot, Projection.apply_of_lt h]
  cases t.projection.registry.apply t.projection.state e <;> rfl

/-- A delivery fails, or comes too late, or takes the state one event further. -/
theorem deliver_cases {t : Tracker σ} (hlast : t.last = t.projection.watermark)
    (e : Envelope Json) :
    (∃ stop, t.deliver e = .error stop) ∨
    (e.id ≤ t.projection.watermark ∧ t.deliver e = .ok (.duplicate, t)) ∨
    (t.projection.watermark < e.id ∧ ∃ s, t.projection.registry.apply t.projection.state e = .ok s ∧
      t.deliver e = .ok (.applied, t.advance s e.id)) := by
  cases hours : t.mismatch? e with
  | some error => exact Or.inl ⟨.failed error, by rw [deliver, hours]⟩
  | none =>
    rcases Nat.lt_or_ge t.projection.watermark e.id with hlt | hge
    · have hdeliver := deliver_of_lt hlast hours hlt
      cases happly : t.projection.registry.apply t.projection.state e with
      | error stop =>
        rw [happly] at hdeliver
        exact Or.inl ⟨stop, hdeliver⟩
      | ok s =>
        rw [happly] at hdeliver
        exact Or.inr (Or.inr ⟨hlt, s, rfl, hdeliver⟩)
    · exact Or.inr (Or.inl ⟨hge, deliver_of_le hours (hlast ▸ hge)⟩)

/-! ## Following the log -/

/-- The state of the projection is the fold over the selected events up to the watermark, and the
watermark is past all selected events that this position is past. -/
structure Follows (r : Registry σ) (init : σ) (l : Log) (selects : Event → Bool)
    (position : EventId) (t : Tracker σ) :
    Prop where
  registry : t.projection.registry = r
  initial : t.projection.initial = init
  last : t.last = t.projection.watermark
  watermark_le : t.projection.watermark ≤ l.head
  folded : r.fold init ((l.between 0 t.projection.watermark).filter selects) =
    .ok t.projection.state
  passed : ∀ e ∈ l.toList, selects e = true → e.id ≤ position → e.id ≤ t.projection.watermark

namespace Follows

variable {r : Registry σ} {init : σ} {l m : Log} {selects : Event → Bool} {position : EventId}
  {t : Tracker σ}

theorem of_start (hreg : t.projection.registry = r) (hinit : t.projection.initial = init)
    (hstate : t.projection.state = init) (hmark : t.projection.watermark = 0) (hlast : t.last = 0) :
    t.Follows r init l selects 0 := by
  refine ⟨hreg, hinit, hlast.trans hmark.symm, ?_, ?_, fun e he _ hle => ?_⟩
  · rw [hmark]
    exact Nat.zero_le _
  · rw [hmark, Log.between_self, List.filter_nil, hstate]
    rfl
  · rw [hmark]
    exact hle

theorem start (r : Registry σ) (init : σ) (l : Log) (selects : Event → Bool) (org : Option OrgId) :
    (Tracker.start (.start r init) org).Follows r init l selects 0 :=
  of_start rfl rfl rfl rfl rfl

theorem reset (h : t.Follows r init l selects position) : t.reset.Follows r init l selects 0 :=
  of_start h.registry h.initial h.initial rfl rfl

theorem grow (h : t.Follows r init l selects position) (hm : m.Ordered)
    (hpre : l.toList <+: m.toList) (hpos : position ≤ l.head) :
    t.Follows r init m selects position := by
  refine ⟨h.registry, h.initial, h.last, Nat.le_trans h.watermark_le hpre.length_le, ?_,
    fun e he hsel hle => ?_⟩
  · rw [Log.between_of_prefix hm hpre h.watermark_le]
    exact h.folded
  · have hin : e ∈ m.between 0 position := Log.mem_between.mpr ⟨he, (hm.id_bounds he).1, hle⟩
    rw [Log.between_of_prefix hm hpre hpos] at hin
    exact h.passed e (Log.mem_between.mp hin).1 hsel hle

/-- A position may be taken that passes nothing but what is folded. -/
theorem settle (h : t.Follows r init l selects position) {p : EventId}
    (hp : ∀ e ∈ l.toList, selects e = true → position < e.id → e.id ≤ p →
      e.id ≤ t.projection.watermark) :
    t.Follows r init l selects p := by
  refine ⟨h.registry, h.initial, h.last, h.watermark_le, h.folded, fun e he hsel hle => ?_⟩
  rcases Nat.lt_or_ge position e.id with hlt | hge
  · exact hp e he hsel hlt hle
  · exact h.passed e he hsel hge

/-- **A delivery in order keeps a projection on the log**, also when it was delivered before. -/
theorem deliver (h : t.Follows r init l selects position) (hl : l.Ordered) {e : Event}
    (he : e ∈ l.toList) (hsel : selects e = true)
    (hbefore : ∀ d ∈ l.toList, selects d = true → d.id < e.id → d.id ≤ t.projection.watermark)
    {d : Delivery} {t' : Tracker σ} (hd : t.deliver e.envelope = .ok (d, t')) :
    t'.Follows r init l selects position ∧ t.projection.watermark ≤ t'.projection.watermark ∧
      e.id ≤ t'.projection.watermark := by
  rcases deliver_cases h.last e.envelope with ⟨stop, hc⟩ | ⟨hle, hc⟩ | ⟨hlt, s, happly, hc⟩
  · rw [hc] at hd
    cases hd
  · rw [hc] at hd
    cases hd
    exact ⟨h, Nat.le_refl _, hle⟩
  · rw [hc] at hd
    cases hd
    -- The new watermark takes in this event and no other, since no selected one is between.
    refine ⟨⟨h.registry, h.initial, rfl, (hl.id_bounds he).2, ?_, fun d hd hdsel hdle => ?_⟩,
      Nat.le_of_lt hlt, Nat.le_refl _⟩
    · show r.fold init ((l.between 0 e.id).filter selects) = .ok s
      rw [Log.filter_between_next hl he hsel hlt hbefore,
        Registry.fold_concat h.folded, ← h.registry]
      exact happly
    · exact Nat.le_trans (h.passed d hd hdsel hdle) (Nat.le_of_lt hlt)

end Follows

/-! ## Replaying -/

def reached (p : EventId) (es : List (Envelope Json)) : EventId := es.foldl (fun _ e => e.id) p

/-- Events that are all new are folded one by one. The induction is on the events; what it carries
is that those left are beyond the watermark, since they ascend. -/
theorem deliverAll_of_fold {es : List (Envelope Json)} {t : Tracker σ} (horg : t.org = none)
    (hlast : t.last = t.projection.watermark) (hasc : es.Pairwise (fun d e => d.id < e.id))
    (hnew : ∀ e ∈ es, t.projection.watermark < e.id) {s : σ}
    (hfold : es.foldlM t.projection.registry.apply t.projection.state = .ok s) :
    ∃ n, t.deliverAll es = (.ok n, t.advance s (reached t.projection.watermark es)) := by
  induction es generalizing t with
  | nil =>
    obtain rfl := Except.ok.inj hfold
    obtain ⟨projection, org, last⟩ := t
    obtain rfl : last = projection.watermark := hlast
    exact ⟨0, rfl⟩
  | cons e es ih =>
    obtain ⟨hfirst, hrest⟩ := List.pairwise_cons.mp hasc
    rw [List.foldlM_cons] at hfold
    cases happly : t.projection.registry.apply t.projection.state e with
    | error stop =>
      rw [happly] at hfold
      cases hfold
    | ok s' =>
      rw [happly] at hfold
      have hours : t.mismatch? e = none := by rw [mismatch?, horg]
      have hdeliver := deliver_of_lt hlast hours (hnew e List.mem_cons_self)
      rw [happly] at hdeliver
      obtain ⟨n, hgo⟩ := ih (t := t.advance s' e.id) horg rfl hrest hfirst hfold
      refine ⟨n + 1, ?_⟩
      rw [deliverAll, hdeliver]
      simp only [Except.map, hgo]
      rfl

theorem rebuild_of_fold (p : Projection σ) {es : List (Envelope Json)}
    (hasc : es.Pairwise (fun d e => d.id < e.id)) (hpos : ∀ e ∈ es, 0 < e.id) {s : σ}
    (hfold : es.foldlM p.registry.apply p.initial = .ok s) :
    rebuild p es = .ok ((start p none).reset.advance s (reached 0 es)) := by
  obtain ⟨n, hgo⟩ := deliverAll_of_fold (t := (start p none).reset) rfl rfl hasc hpos hfold
  rw [rebuild, hgo]
  rfl

/-- **A projection that has come as far as the log has the state of a replay from its start.** -/
theorem Follows.rebuild {r : Registry σ} {init : σ} {l : Log} {selects : Event → Bool}
    {position : EventId} {t : Tracker σ} (h : t.Follows r init l selects position) (hl : l.Ordered)
    (hall : ∀ e ∈ l.toList, selects e = true → e.id ≤ t.projection.watermark) :
    ∃ t', Tracker.rebuild (.start r init) ((l.toList.filter selects).map Event.envelope) = .ok t' ∧
      t'.projection.state = t.projection.state := by
  -- The stretch up to the watermark is, of what is selected, the whole log.
  have hwhole : (l.between 0 t.projection.watermark).filter selects = l.toList.filter selects := by
    rw [Log.between, List.filter_filter]
    refine List.filter_congr fun e he => ?_
    cases hsel : selects e with
    | false => rfl
    | true => exact decide_eq_true ⟨(hl.id_bounds he).1, hall e he hsel⟩
  have hfold := h.folded
  rw [hwhole, Registry.fold_eq_foldlM] at hfold
  have hasc : ((l.toList.filter selects).map Event.envelope).Pairwise (fun d e => d.id < e.id) :=
    List.pairwise_map.mpr (hl.pairwise_id.filter _)
  have hpos : ∀ e ∈ (l.toList.filter selects).map Event.envelope, 0 < e.id := by
    intro e he
    obtain ⟨d, hd, rfl⟩ := List.mem_map.mp he
    exact (hl.id_bounds (List.mem_of_mem_filter hd)).1
  exact ⟨_, rebuild_of_fold (.start r init) hasc hpos hfold, rfl⟩

end Tracker

end Journal
