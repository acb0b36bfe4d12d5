import Journal.Proofs.Projection.Faithful

/-!
# Deliveries in any order

Whoever delivers events to a tracker may deliver them twice, late, or to one that has no use for
them. **A tracker makes of any deliveries what it would have made of the events it took, one after
the other** (`Receives`): these ascend, its state is their fold, and whatever else was delivered has
left no trace. Both the tracker and its projection keep a place of their own in the log; that the
two agree is what the induction on the deliveries carries.

Deliveries that bring each event at least once, for the first time in its order, end where a replay
ends (`after_of_redelivered`): what was delivered before is at or behind the place, what is new is
beyond it.
-/

namespace Journal

variable {σ : Type}

theorem Registry.foldlM_concat_eq_ok {r : Registry σ} {state s : σ} {es : List (Envelope Json)}
    {e : Envelope Json} :
    (es ++ [e]).foldlM r.apply state = .ok s ↔ ∃ s', es.foldlM r.apply state = .ok s' ∧
    r.apply s' e = .ok s := by
  rw [List.foldlM_append]
  cases es.foldlM r.apply state with
  | error stop => exact iff_of_false nofun fun ⟨_, h, _⟩ => nomatch h
  | ok s' =>
    have hone : [e].foldlM r.apply s' = r.apply s' e := by
      rw [List.foldlM_cons]
      cases r.apply s' e <;> rfl
    refine ⟨fun h => ⟨s', rfl, hone ▸ h⟩, ?_⟩
    rintro ⟨_, hs, h⟩
    obtain rfl := Except.ok.inj hs
    exact hone.trans h

namespace Tracker

variable {t : Tracker σ} {es ds : List (Envelope Json)}

def receive (t : Tracker σ) (e : Envelope Json) : Tracker σ :=
  match t.deliver e with
  | .ok (_, t) => t
  | .error _ => t

def after (t : Tracker σ) (es : List (Envelope Json)) : Tracker σ := es.foldl receive t

-- Whether the delivery is answered with `applied`.
def takes (t : Tracker σ) (e : Envelope Json) : Bool :=
  match t.deliver e with
  | .ok (.applied, _) => true
  | _ => false

def taken (t : Tracker σ) : List (Envelope Json) → List (Envelope Json)
  | [] => []
  | e :: rest => if t.takes e then e :: (t.receive e).taken rest else (t.receive e).taken rest

theorem after_cons (t : Tracker σ) (e : Envelope Json) (es : List (Envelope Json)) :
    t.after (e :: es) = (t.receive e).after es := rfl

theorem after_concat (t : Tracker σ) (es : List (Envelope Json)) (e : Envelope Json) :
    t.after (es ++ [e]) = (t.after es).receive e :=
  List.foldl_append

/-- A delivery is passed over, or takes the state one event further. -/
theorem receive_cases (hlast : t.last = t.projection.watermark) (e : Envelope Json) :
    (t.takes e = false ∧ t.receive e = t) ∨
    (t.takes e = true ∧ t.projection.watermark < e.id ∧
      ∃ s, t.projection.registry.apply t.projection.state e = .ok s ∧
        t.receive e = t.advance s e.id) := by
  unfold takes receive
  rcases deliver_cases hlast e with ⟨stop, hc⟩ | ⟨_, hc⟩ | ⟨hlt, s, happly, hc⟩
  · rw [hc]
    exact Or.inl ⟨rfl, rfl⟩
  · rw [hc]
    exact Or.inl ⟨rfl, rfl⟩
  · rw [hc]
    exact Or.inr ⟨rfl, hlt, s, happly, rfl⟩

theorem last_receive (hlast : t.last = t.projection.watermark) (e : Envelope Json) :
    (t.receive e).last = (t.receive e).projection.watermark := by
  rcases receive_cases hlast e with ⟨_, h⟩ | ⟨_, _, s, _, h⟩
  · rw [h]
    exact hlast
  · rw [h]
    rfl

theorem last_after (hlast : t.last = t.projection.watermark) (es : List (Envelope Json)) :
    (t.after es).last = (t.after es).projection.watermark := by
  induction es generalizing t with
  | nil => exact hlast
  | cons e rest ih => exact ih (last_receive hlast e)

theorem taken_cons (t : Tracker σ) (e : Envelope Json) (rest : List (Envelope Json)) :
    t.taken (e :: rest) = if t.takes e then e :: (t.receive e).taken rest
    else (t.receive e).taken rest := rfl

/-! ## Whatever is delivered -/

theorem taken_ascending (hlast : t.last = t.projection.watermark) (es : List (Envelope Json)) :
    (t.taken es).Pairwise (fun d e => d.id < e.id) ∧
    ∀ e ∈ t.taken es, t.projection.watermark < e.id := by
  induction es generalizing t with
  | nil => exact ⟨.nil, fun e he => absurd he List.not_mem_nil⟩
  | cons e rest ih =>
    obtain ⟨hasc, hbeyond⟩ := ih (last_receive hlast e)
    rcases receive_cases hlast e with ⟨htakes, h⟩ | ⟨htakes, hlt, s, _, h⟩
    · rw [h] at hasc hbeyond
      rw [taken_cons, htakes, h]
      exact ⟨hasc, hbeyond⟩
    · -- All that is taken later is beyond the new place, which is where this event is.
      rw [h] at hasc hbeyond
      rw [taken_cons, htakes, h]
      refine ⟨List.pairwise_cons.mpr ⟨hbeyond, hasc⟩, fun d hd => ?_⟩
      rcases List.mem_cons.mp hd with rfl | hd
      · exact hlt
      · exact Nat.lt_trans hlt (hbeyond d hd)

theorem folded_taken (hlast : t.last = t.projection.watermark) (es : List (Envelope Json)) :
    (t.taken es).foldlM t.projection.registry.apply t.projection.state =
      .ok (t.after es).projection.state := by
  induction es generalizing t with
  | nil => rfl
  | cons e rest ih =>
    have hrest := ih (last_receive hlast e)
    rw [after_cons]
    rcases receive_cases hlast e with ⟨htakes, h⟩ | ⟨htakes, _, s, happly, h⟩
    · rw [h] at hrest ⊢
      rw [taken_cons, htakes, h]
      exact hrest
    · rw [h] at hrest ⊢
      rw [taken_cons, htakes, h]
      simp only [if_true, List.foldlM_cons, happly]
      exact hrest

/-- What deliveries make of a tracker, in whatever order they come. -/
structure Receives (t : Tracker σ) (es : List (Envelope Json)) : Prop where
  /-- The tracker and its projection are at the same place. -/
  last : (t.after es).last = (t.after es).projection.watermark
  /-- The events taken ascend -/
  ascending : (t.taken es).Pairwise fun d e => d.id < e.id
  /-- from where the tracker was, -/
  beyond : ∀ e ∈ t.taken es, t.projection.watermark < e.id
  /-- and the state is their fold. -/
  folded : (t.taken es).foldlM t.projection.registry.apply t.projection.state =
    .ok (t.after es).projection.state
  /-- A delivery that is not taken changes nothing. -/
  passed : ∀ before e since, es = before ++ e :: since → (t.after before).takes e = false →
    t.after (before ++ [e]) = t.after before

theorem receives_of_last (hlast : t.last = t.projection.watermark) (es : List (Envelope Json)) :
    t.Receives es where
  last := last_after hlast es
  ascending := (taken_ascending hlast es).1
  beyond := (taken_ascending hlast es).2
  folded := folded_taken hlast es
  passed before e _ _ hnot := by
    rw [after_concat]
    rcases receive_cases (last_after hlast before) e with ⟨_, h⟩ | ⟨htakes, _⟩
    · exact h
    · rw [hnot] at htakes
      cases htakes

/-! ## Each event at least once -/

/-- Deliveries of events one after the other, among which come again some that were delivered
already. New events come in their order, and those that come again in any. -/
inductive Redelivered : List (Envelope Json) → List (Envelope Json) → Prop
  | none : Redelivered [] []
  | first {es ds : List (Envelope Json)} (h : Redelivered es ds) (e : Envelope Json) :
    Redelivered (es ++ [e]) (ds ++ [e])
  | again {es ds : List (Envelope Json)} (h : Redelivered es ds) {e : Envelope Json} (he : e ∈ es) :
    Redelivered es (ds ++ [e])

theorem reached_concat (p : EventId) (es : List (Envelope Json)) (e : Envelope Json) :
    reached p (es ++ [e]) = e.id := by
  rw [reached, List.foldl_append]
  rfl

theorem le_reached {p : EventId} (hasc : es.Pairwise fun d e => d.id < e.id) {e : Envelope Json}
    (he : e ∈ es) :
    e.id ≤ reached p es := by
  rcases List.eq_nil_or_concat' es with rfl | ⟨front, last, rfl⟩
  · exact absurd he List.not_mem_nil
  · rw [reached_concat]
    rcases List.mem_append.mp he with he | he
    · exact Nat.le_of_lt ((List.pairwise_append.mp hasc).2.2 e he last (List.mem_singleton_self _))
    · exact Nat.le_of_eq (congrArg Envelope.id (List.mem_singleton.mp he))

theorem reached_lt {p : EventId} {last : Envelope Json}
    (hasc : (es ++ [last]).Pairwise fun d e => d.id < e.id) (hp : p < last.id) :
    reached p es < last.id := by
  rcases List.eq_nil_or_concat' es with rfl | ⟨front, e, rfl⟩
  · exact hp
  · rw [reached_concat]
    exact (List.pairwise_append.mp hasc).2.2 e (List.mem_append_right _ (List.mem_singleton_self _))
      last (List.mem_singleton_self _)

/-- The induction is on the deliveries. At each of them the tracker is at the last event that has
come for the first time: what comes again is not beyond it, and what is new is. -/
theorem after_of_redelivered (horg : t.org = none) (hlast : t.last = t.projection.watermark)
    (h : Redelivered es ds) (hasc : es.Pairwise fun d e => d.id < e.id)
    (hnew : ∀ e ∈ es, t.projection.watermark < e.id) {s : σ}
    (hfold : es.foldlM t.projection.registry.apply t.projection.state = .ok s) :
    t.after ds = t.advance s (reached t.projection.watermark es) := by
  induction h generalizing s with
  | none =>
    obtain rfl := Except.ok.inj hfold
    obtain ⟨projection, org, last⟩ := t
    obtain rfl : last = projection.watermark := hlast
    rfl
  | @first es ds _ e ih =>
    obtain ⟨s', hbefore, happly⟩ := Registry.foldlM_concat_eq_ok.mp hfold
    have hlast' : e ∈ es ++ [e] := List.mem_append_right _ (List.mem_singleton_self _)
    have hlt := reached_lt hasc (hnew e hlast')
    have hours : (t.advance s' (reached t.projection.watermark es)).mismatch? e = none := by
      rw [mismatch?, advance, horg]
    rw [after_concat,
      ih (List.pairwise_append.mp hasc).1 (fun d hd => hnew d (List.mem_append_left _ hd)) hbefore,
      reached_concat, receive, deliver_of_lt rfl hours hlt]
    simp only [advance, Projection.advance, happly, Except.map]
  | @again es ds _ e he ih =>
    have hours : (t.advance s (reached t.projection.watermark es)).mismatch? e = none := by
      rw [mismatch?, advance, horg]
    rw [after_concat, ih hasc hnew hfold, receive, deliver_of_le hours (le_reached hasc he)]

/-- **Redelivery is harmless**: whatever is delivered to a tracker, new or resumed, it keeps the
fold of what it took and its place. Deliveries of all events, each for the first time in its order,
end at the fold of the events and at the last of them, which is where a replay ends. The end is
stated by itself, since a tracker that took nothing would agree with its replay as well. -/
theorem receives_of_start (p : Projection σ) (org : Option OrgId) (ds : List (Envelope Json)) :
    (start p org).Receives ds ∧
    ∀ es s, es.Pairwise (fun d e => d.id < e.id) → (∀ e ∈ es, 0 < e.id) →
      es.foldlM p.registry.apply p.initial = .ok s → Redelivered es ds →
      ((start (.start p.registry p.initial) none).after ds).projection.state = s ∧
      ((start (.start p.registry p.initial) none).after ds).last = reached 0 es ∧
      rebuild p es = .ok ((start (.start p.registry p.initial) none).after ds) := by
  refine ⟨receives_of_last rfl ds, fun es s hasc hpos hfold hdelivered => ?_⟩
  have hafter := after_of_redelivered (t := start (.start p.registry p.initial) none)
    rfl rfl hdelivered hasc hpos hfold
  rw [rebuild_of_fold p hasc hpos hfold, hafter]
  exact ⟨rfl, rfl, rfl⟩

end Tracker

namespace Sample

def posted (id : EventId) : Envelope Json :=
  ⟨id, some org, account, id, "ledger.posted", 1, noon, .null⟩

theorem redelivered_posted : Tracker.Redelivered [posted 3, posted 5]
    [posted 3, posted 3, posted 5, posted 3] :=
  (((Tracker.Redelivered.none.first (posted 3)).again List.mem_cons_self).first (posted 5)).again
    List.mem_cons_self

end Sample

namespace Tracker

/-- Two postings are counted twice, not four times, and that is what a replay counts. -/
theorem receives_posted :
    [Sample.posted 3, Sample.posted 5].Pairwise (fun d e => d.id < e.id) ∧
    (∀ e ∈ [Sample.posted 3, Sample.posted 5], 0 < e.id) ∧
    [Sample.posted 3, Sample.posted 5].foldlM Consumer.counting.apply 0 = .ok 2 ∧
    Redelivered [Sample.posted 3, Sample.posted 5]
      [Sample.posted 3, Sample.posted 3, Sample.posted 5, Sample.posted 3] ∧
    let counted := (start (.start Consumer.counting 0) none).after
      [Sample.posted 3, Sample.posted 3, Sample.posted 5, Sample.posted 3]
    counted.projection.state = 2 ∧ counted.last = 5 ∧
    rebuild (.start Consumer.counting 0) [Sample.posted 3, Sample.posted 5] = .ok counted := by
  have hasc : [Sample.posted 3, Sample.posted 5].Pairwise (fun d e => d.id < e.id) := by
    decide +kernel
  have hpos : ∀ e ∈ [Sample.posted 3, Sample.posted 5], 0 < e.id := by decide +kernel
  have hfold : [Sample.posted 3, Sample.posted 5].foldlM Consumer.counting.apply 0 = .ok 2 := by
    decide +kernel
  exact ⟨hasc, hpos, hfold, Sample.redelivered_posted,
    (receives_of_start (.start Consumer.counting 0) none _).2 _ 2 hasc hpos hfold
    Sample.redelivered_posted⟩

end Tracker

end Journal
