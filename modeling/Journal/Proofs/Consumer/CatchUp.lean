import Journal.Proofs.Consumer.Cycle
import Journal.Proofs.Program.Transcript
import Journal.Proofs.Store.Poison
import Mathlib.Algebra.Order.Floor.Div

/-!
# Catching up

A consumer that catches up makes one cycle after the other and has nothing to count them by. **Left
alone, it makes as many as there are pages ahead of it, and one when there is none**
(`catchesUp_of_undisturbed`): it is handed what is ahead of its checkpoint in the order of the log
and each event once, and ends at the head, or where it was if that is beyond.

What makes it end is that a page with a successor is full (`Paging.length_of_hasMore`): such a page
takes as many events off what is ahead as a page can hold, and leaves some. A page without successor
takes what is left, and if that had been more than a page it would have had a successor.

What was handed over, and in how many turns, is read off the transcript of a run; the rules for
`Ends` go through the program from its first question to its last.
-/

namespace Journal

/-! ## What is ahead -/

namespace Log

def ahead (l : Log) (selects : Event → Bool) (past : EventId) : List Event :=
  l.toList.filter fun e => decide (past < e.id) && selects e

variable {l : Log} {selects : Event → Bool} {past : EventId} {limit : Nat} {page : Page}

theorem pairwise_ahead (h : l.Ordered) (selects : Event → Bool) (past : EventId) :
    (l.ahead selects past).Pairwise (fun d e => d.id < e.id) :=
  h.pairwise_id.filter _

theorem mem_ahead {e : Event} : e ∈ l.ahead selects past ↔ e ∈ l.toList ∧ past < e.id ∧
    selects e = true := by
  rw [ahead, List.mem_filter, Bool.and_eq_true, decide_eq_true_iff]

/-- A page is the beginning of what is ahead of it, and the rest is ahead of the position to go on
from. -/
theorem PageOf.ahead_eq (h : l.PageOf selects past limit page) (ordered : l.Ordered) :
    l.ahead selects past = page.events ++ l.ahead selects page.next := by
  have hpast := h.past_le
  rw [filter_split (pairwise_ahead ordered selects past) page.next, h.events]
  congr 1
  · rw [ahead, between, List.filter_filter, List.filter_filter]
    refine List.filter_congr fun e _ => ?_
    rw [Bool.eq_iff_iff]
    simp only [Bool.and_eq_true, decide_eq_true_iff]
    lia
  · rw [ahead, ahead, List.filter_filter]
    refine List.filter_congr fun e _ => ?_
    rw [Bool.eq_iff_iff]
    simp only [Bool.and_eq_true, decide_eq_true_iff]
    lia

theorem PageOf.hasMore_iff_ahead (h : l.PageOf selects past limit page) :
    page.hasMore = true ↔ l.ahead selects page.next ≠ [] := by
  rw [h.hasMore_iff, ne_eq, List.eq_nil_iff_forall_not_mem, not_forall_not]
  refine exists_congr fun e => ?_
  rw [mem_ahead]
  lia

end Log

theorem Access.length_of_hasMore {a : Access} {accepted : List Event} {head : EventId}
    (h : (a.page accepted head).hasMore = true) :
    (a.page accepted head).events.length = a.limit := by
  unfold Access.page at h ⊢
  dsimp only at h ⊢
  split at h
  · next hmany =>
    rw [if_pos hmany]
    exact List.length_take_of_le (Nat.le_of_lt hmany)
  · cases h

theorem Paging.length_of_hasMore {s : Store} {past : EventId} {limit : Option Nat} {f : Filter}
    {scope : Scope} {page : Page} (hread : s.read past limit f scope = .ok page)
    (more : page.hasMore = true) :
    page.events.length = pageSize limit := by
  obtain ⟨_, rfl⟩ := page_of_read hread
  exact Access.length_of_hasMore more

namespace Consumer

variable {η : Type} {c : Setting η} {w x : World η}

def World.ahead (c : Setting η) (w : World η) : List Event :=
  w.store.log.ahead (w.selects c) (w.position c)

def World.cycles (c : Setting η) (w : World η) : Nat :=
  max 1 ((w.ahead c).length ⌈/⌉ pageSize (some c.batchSize))

/-! ## A consumer that is left alone -/

/-- The consumer's questions are answered, and nothing else happens: the checkpoint and the log are
as they were when it last asked, and a checkpoint that does not go back is written. What its handler
makes of an event is open. -/
structure Setting.Undisturbed (c : Setting η)
    (answer : (q : calls.Ask) → World η → calls.Answer q × World η) :
    Prop where
  honest : ∀ q w, c.answers q w (answer q w).1 (answer q w).2
  position : ∀ w, (answer .position w).1 = .ok (w.position c)
  read : ∀ past limit f w, (answer (.read past limit f) w).1 = w.store.read past
    (some limit) f c.scope
  advance : ∀ p w, w.position c ≤ p → (answer (.advance p) w).1 = .ok ()

/-! ## The account of a run -/

def Failed : (q : calls.Ask) × calls.Answer q → Prop
  | ⟨.apply _, (r : Attempt String Unit)⟩ => r ≠ .ok ()
  | ⟨.flush, (r : Attempt String Unit)⟩ => r ≠ .ok ()
  | ⟨.clear, (r : Attempt String Unit)⟩ => r ≠ .ok ()
  | _ => False

def handedIn : List ((q : calls.Ask) × calls.Answer q) → List Event
  | [] => []
  | ⟨q, _⟩ :: rest => handedBy q (handedIn rest)

def turnsBy : Ask → Nat → Nat
  | .acquire, turns => turns + 1
  | _, turns => turns

def turnsIn : List ((q : calls.Ask) × calls.Answer q) → Nat
  | [] => 0
  | ⟨q, _⟩ :: rest => turnsBy q (turnsIn rest)

theorem handedIn_append (asked more : List ((q : calls.Ask) × calls.Answer q)) :
    handedIn (asked ++ more) = handedIn asked ++ handedIn more := by
  induction asked with
  | nil => rfl
  | cons a rest ih =>
    obtain ⟨q, r⟩ := a
    cases q with
    | apply e => exact congrArg (e :: ·) ih
    | _ => exact ih

theorem turnsIn_append (asked more : List ((q : calls.Ask) × calls.Answer q)) :
    turnsIn (asked ++ more) = turnsIn more + turnsIn asked := by
  induction asked with
  | nil => rfl
  | cons a rest ih =>
    obtain ⟨q, r⟩ := a
    cases q with
    | acquire => exact congrArg (· + 1) ih
    | _ => exact ih

variable {answer : (q : calls.Ask) → World η → calls.Answer q × World η} {α β : Type}

/-- Unless the handler fails on the way, the program ends with this result, in this world, with
these events handed over and so many turns taken. What the program asks for is read off its
transcript, so that nothing has to be assumed about the answers but that they are the right ones. -/
def Ends (answer : (q : calls.Ask) → World η → calls.Answer q × World η) (p : Program calls α)
    (w : World η) (post : α → World η → List Event → Nat → Prop) : Prop :=
  (∀ a ∈ p.transcript answer w, ¬ Failed a) →
    post (p.run answer w).1 (p.run answer w).2 (handedIn (p.transcript answer w))
    (turnsIn (p.transcript answer w))

namespace Ends

variable {post post' : α → World η → List Event → Nat → Prop} {p : Program calls α}

theorem done {a : α} (h : post a w [] 0) : Ends answer (.done a) w post := fun _ => h

theorem mono (h : Ends answer p w post) (hpost : ∀ a x handed turns, post a x handed turns →
      post' a x handed turns) :
    Ends answer p w post' :=
  fun smooth => hpost _ _ _ _ (h smooth)

theorem ask {q : calls.Ask} {next : calls.Answer q → Program calls α} {r : calls.Answer q}
    (ha : answer q w = (r, x)) (h : ¬ Failed ⟨q, r⟩ →
      Ends answer (next r) x fun a y handed turns => post a y (handedBy q handed)
      (turnsBy q turns)) :
    Ends answer (.ask q next) w post := by
  intro smooth
  rw [Program.transcript_ask, ha] at smooth ⊢
  rw [Program.run_ask, ha]
  exact h (smooth _ List.mem_cons_self) fun a ha => smooth a (List.mem_cons_of_mem _ ha)

theorem bind {f : α → Program calls β} {post : β → World η → List Event → Nat → Prop}
    (h : Ends answer p w fun a x handed turns =>
      Ends answer (f a) x fun b y more others => post b y (handed ++ more) (others + turns)) :
    Ends answer (p.bind f) w post := by
  intro smooth
  rw [Program.transcript_bind] at smooth ⊢
  rw [Program.run_bind, handedIn_append, turnsIn_append]
  exact h (fun a ha => smooth a (List.mem_append_left _ ha)) fun a ha =>
    smooth a (List.mem_append_right _ ha)

end Ends

/-! ## How its questions are answered -/

namespace Setting.Undisturbed

variable (h : c.Undisturbed answer)

include h

theorem enter_eq (s : State) (w : World η) : answer (.enter s) w = ((), w) :=
  Prod.ext rfl (h.honest (.enter s) w)

theorem acquire_eq (w : World η) : answer .acquire w = ((), w) := Prod.ext rfl (h.honest .acquire w)

theorem release_eq (w : World η) : answer .release w = ((), w) := Prod.ext rfl (h.honest .release w)

theorem position_eq (w : World η) : answer .position w = (.ok (w.position c), w) :=
  Prod.ext (h.position w) (h.honest .position w).1

theorem filter_eq (w : World η) : answer .filter w = (c.filter, w) :=
  Prod.ext (h.honest .filter w).2 (h.honest .filter w).1

theorem read_eq (past : EventId) (limit : Nat) (f : Filter) (w : World η) :
    answer (.read past limit f) w = (w.store.read past (some limit) f c.scope, w) :=
  Prod.ext (h.read past limit f w) (h.honest (.read past limit f) w).1

theorem apply_eq (e : Event) (w : World η) :
    ∃ handler r, answer (.apply e) w = (r, w.told (.applied e) handler r) := by
  obtain ⟨handler, _, hx⟩ := h.honest (.apply e) w
  exact ⟨handler, _, Prod.ext rfl hx⟩

theorem flush_eq (w : World η) : ∃ handler r, answer .flush w = (r, w.told .flushed handler r) := by
  obtain ⟨handler, _, hx⟩ := h.honest .flush w
  exact ⟨handler, _, Prod.ext rfl hx⟩

theorem advance_eq {p : EventId} (hle : w.position c ≤ p) :
    ∃ cs, cs.positionOf c.name = p ∧
    answer (.advance p) w = (.ok (), w.settled (.advanced p) cs) := by
  have hok := h.advance p w hle
  rcases h.honest (.advance p) w with ⟨e, hfailed, _⟩ | ⟨now, cs, hcs, hx⟩
  · rw [hok] at hfailed
    cases hfailed
  · exact ⟨cs, (Checkpoints.positionOf_advance hcs).2, Prod.ext hok hx⟩

end Setting.Undisturbed

variable {page : Page}

/-! ## The page that is read -/

structure World.Readable (c : Setting η) (w : World η) : Prop where
  ordered : w.store.log.Ordered
  alive : w.store.poisoned = false
  granted : Access.refusal? c.filter w.store.policy c.scope = none

structure World.Fetches (c : Setting η) (w : World η) (page : Page) : Prop where
  read : w.store.read (w.position c) (some c.batchSize) c.filter c.scope = .ok page
  past_le : w.position c ≤ page.next
  next_le : page.next ≤ max w.store.log.head (w.position c)
  ahead : w.ahead c = page.events ++ w.store.log.ahead (w.selects c) page.next
  -- A page with a successor is full, and a page without one has all that is left.
  more : page.hasMore = true →
    page.events.length = pageSize (some c.batchSize) ∧
    w.store.log.ahead (w.selects c) page.next ≠ []
  last : page.hasMore = false → page.events.length ≤ pageSize (some c.batchSize) ∧
    w.store.log.ahead (w.selects c) page.next = [] ∧ w.store.log.head ≤ page.next

theorem World.Readable.fetches (h : w.Readable c) : ∃ page, w.Fetches c page := by
  have hread := Paging.read_eq h.alive h.granted (w.position c) (some c.batchSize)
  have hpage := Paging.pageOf_read h.ordered hread
  refine ⟨_, hread, hpage.past_le, hpage.next_le, hpage.ahead_eq h.ordered, fun hmore => ?_,
    fun hlast => ?_⟩
  · exact ⟨Paging.length_of_hasMore hread hmore, hpage.hasMore_iff_ahead.mp hmore⟩
  · refine ⟨hpage.length_le, ?_, Paging.head_le_next hread hlast⟩
    by_contra hne
    rw [hpage.hasMore_iff_ahead.mpr hne] at hlast
    cases hlast

/-! ## One cycle -/

theorem ends_applyAll (h : c.Undisturbed answer) (name : String) (events : List Event) :
    Ends answer (applyAll name events) w fun r x handed turns =>
      r = .ok () ∧ (x.store = w.store ∧ x.position c = w.position c) ∧ handed = events ∧
          turns = 0 := by
  induction events generalizing w with
  | nil => exact .done ⟨rfl, ⟨rfl, rfl⟩, rfl, rfl⟩
  | cons e rest ih =>
    obtain ⟨handler, r, ha⟩ := h.apply_eq e w
    refine .ask ha fun hok => ?_
    rcases r with stop | _
    · exact absurd nofun hok
    · refine ih.mono fun r x handed turns ⟨hr, hx, hhanded, hturns⟩ => ⟨hr, hx, ?_, hturns⟩
      rw [handedBy, hhanded]

/-- The cycle ends with the checkpoint at the end of the page, and nothing has changed in the
store. -/
def Passed (c : Setting η) (w : World η) (page : Page) (r : Attempt ConsumerError Progress)
    (x : World η) : Prop :=
  r = .ok ⟨page.events.length, page.next, !page.hasMore⟩ ∧ x.store = w.store ∧
    x.position c = page.next

theorem ends_advance (h : c.Undisturbed answer) {p : EventId} (hp : w.position c = p)
    (past_le : p ≤ page.next) :
    Ends answer (.ask (.advance page.next) fun
      | .ok () => .done (.ok ⟨page.events.length, max page.next p, !page.hasMore⟩)
      | .error e => failed (.checkpoint e) : Program calls (Attempt ConsumerError Progress)) w
      fun r x handed turns => Passed c w page r x ∧ handed = [] ∧ turns = 0 := by
  obtain ⟨cs, hcs, ha⟩ := h.advance_eq (hp.trans_le past_le)
  refine .ask ha fun _ => .done ⟨⟨?_, rfl, hcs⟩, rfl, rfl⟩
  rw [Nat.max_eq_left past_le]

theorem ends_settle (h : c.Undisturbed answer) (past_le : w.position c ≤ page.next) :
    Ends answer (settle c.name (w.position c) page) w
      fun r x handed turns => Passed c w page r x ∧ handed = [] ∧ turns = 0 := by
  unfold settle
  split
  · refine .ask (h.enter_eq .checkpointing w) fun _ => ?_
    split
    · exact ends_advance h rfl past_le
    · obtain ⟨handler, r, ha⟩ := h.flush_eq w
      refine .ask ha fun hok => ?_
      rcases r with stop | _
      · exact absurd nofun hok
      · exact ends_advance h rfl past_le
  · next hge =>
    -- A page does not end before the position that it was read from, and so this one ends there.
    have hnext : w.position c = page.next := Nat.le_antisymm past_le (Nat.le_of_not_lt hge)
    refine .done ⟨⟨?_, rfl, hnext⟩, rfl, rfl⟩
    rw [Nat.max_eq_left past_le]

theorem ends_cycle (h : c.Undisturbed answer) (hpage : w.Fetches c page) :
    Ends answer (cycle c.name c.batchSize) w
      fun r x handed turns => Passed c w page r x ∧ handed = page.events ∧ turns = 0 := by
  refine .ask (h.enter_eq .fetching w) fun _ => .ask (h.position_eq w) fun _ =>
      .ask (h.filter_eq w) fun _ =>
    .ask (h.read_eq _ _ _ w) fun _ => ?_
  rw [hpage.read]
  refine .ask (h.enter_eq .applying w) fun _ => .bind ?_
  refine (ends_applyAll h c.name page.events).mono
    fun r x handed turns ⟨hr, ⟨hstore, hposition⟩, hhanded, hturns⟩ => ?_
  have past_le := hpage.past_le
  rw [hr]
  dsimp only
  rw [← hposition] at past_le ⊢
  refine (ends_settle h past_le).mono
    fun r y more others ⟨⟨hr', hstore', hnext⟩, hmore, hothers⟩ => ?_
  have hevents : handed ++ more = page.events := by rw [hhanded, hmore, List.append_nil]
  have hnone : others + turns = 0 := by rw [hothers, hturns]
  exact ⟨⟨hr', hstore'.trans hstore, hnext⟩, hevents, hnone⟩

theorem ends_runOnce (h : c.Undisturbed answer) (hpage : w.Fetches c page) :
    Ends answer (runOnce c.name c.batchSize) w
      fun r x handed turns => Passed c w page r x ∧ handed = page.events ∧ turns = 1 := by
  refine .ask (h.acquire_eq w) fun _ => .bind ?_
  refine (ends_cycle h hpage).mono fun r x handed turns ⟨⟨hr, hx⟩, hhanded, hturns⟩ => ?_
  rw [hr]
  refine .ask (h.enter_eq .idle x) fun _ => .ask (h.release_eq x) fun _ => .done ⟨⟨rfl, hx⟩, ?_, ?_⟩
  · rw [hhanded]
    exact List.append_nil _
  · rw [hturns]
    rfl

/-! ## Cycle after cycle -/

theorem ceilDiv_add_self {size : Nat} (hsize : 0 < size) (n : Nat) :
    (size + n) ⌈/⌉ size = n ⌈/⌉ size + 1 := by
  rw [Nat.ceilDiv_eq_add_pred_div, Nat.ceilDiv_eq_add_pred_div, Nat.add_assoc,
    Nat.add_sub_assoc (by lia), Nat.add_div_left _ hsize]

theorem ceilDiv_pos {size n : Nat} (hsize : 0 < size) (hn : 0 < n) : 0 < n ⌈/⌉ size := by
  rw [Nat.ceilDiv_eq_add_pred_div]
  exact Nat.div_pos (by lia) hsize

namespace World

theorem cycles_of_last (h : w.Fetches c page) (last : page.hasMore = false) : w.cycles c = 1 := by
  obtain ⟨hle, hnil, _⟩ := h.last last
  rw [cycles, h.ahead, hnil, List.append_nil]
  refine Nat.max_eq_left ?_
  rw [ceilDiv_le_iff_le_mul (Paging.one_le_pageSize _), Nat.mul_one]
  exact hle

/-- A full page is one of those ahead, and there is another one. -/
theorem cycles_of_more (h : w.Fetches c page) (more : page.hasMore = true)
    (hstore : x.store = w.store) (hnext : x.position c = page.next) :
    w.cycles c = x.cycles c + 1 := by
  obtain ⟨hfull, hne⟩ := h.more more
  have hx : x.ahead c = w.store.log.ahead (w.selects c) page.next := by
    rw [ahead, selects, hstore, hnext, selects]
  have hsize : 0 < pageSize (some c.batchSize) := Paging.one_le_pageSize _
  have hpos := ceilDiv_pos hsize (List.length_pos_iff.mpr hne)
  rw [cycles, cycles, hx, h.ahead, List.length_append, hfull, ceilDiv_add_self hsize]
  lia

end World

/-- What a consumer has come to that has caught up. -/
structure CaughtUp (c : Setting η) (w : World η) (applied : Nat)
    (r : Option (Attempt ConsumerError Nat)) (x : World η)
    (handed : List Event) (turns : Nat) : Prop where
  /-- It has taken as many cycles as there are pages ahead, -/
  turns : turns = w.cycles c
  /-- was handed what is ahead, each event once and in order, -/
  handed : handed = w.ahead c
  /-- tells how many these are, -/
  result : r = some (.ok (applied + (w.ahead c).length))
  /-- and is at the head of the log, or where it was if that is beyond. -/
  position : x.position c = max (w.position c) w.store.log.head

/-- What a consumer comes to that may take so many cycles at most: it has caught up, or these were
not enough, and then there are more pages ahead than that. The store is as it was either way. -/
structure CatchesUp (c : Setting η) (w : World η) (rounds applied : Nat)
    (r : Option (Attempt ConsumerError Nat))
    (x : World η) (handed : List Event) (turns : Nat) : Prop where
  short : rounds < w.cycles c → r = none
  enough : w.cycles c ≤ rounds → CaughtUp c w applied r x handed turns
  store : x.store = w.store

/-- The induction is on the rounds. A cycle changes neither the log nor what may be read of it, so
that what is left to do after a full page is what there was to do without that page. -/
theorem ends_catchUp (h : c.Undisturbed answer) (readable : w.Readable c) (rounds applied : Nat) :
    Ends answer (catchUp c.name c.batchSize rounds applied) w (CatchesUp c w rounds applied) := by
  induction rounds generalizing w applied with
  | zero =>
    have hmany : ¬ w.cycles c ≤ 0 := Nat.not_le_of_lt (Nat.le_max_left _ _)
    exact .done ⟨fun _ => rfl, fun hle => absurd hle hmany, rfl⟩
  | succ rounds ih =>
    obtain ⟨page, hpage⟩ := readable.fetches
    have hnextle := hpage.next_le
    have hpastle := hpage.past_le
    refine .bind ((ends_runOnce h hpage).mono ?_)
    rintro r x handed turns ⟨⟨rfl, hstore, hnext⟩, rfl, rfl⟩
    dsimp only
    cases hmore : page.hasMore with
    | false =>
      obtain ⟨_, hnil, hhead⟩ := hpage.last hmore
      have hone := World.cycles_of_last hpage hmore
      have hahead : w.ahead c = page.events := by rw [hpage.ahead, hnil, List.append_nil]
      refine .done ⟨fun hlt => by lia, fun _ => ⟨?_, ?_, ?_, ?_⟩, hstore⟩
      · rw [hone]
      · rw [hahead, List.append_nil]
      · rw [hahead]
      · rw [hnext]
        lia
    | true =>
      have hone := World.cycles_of_more hpage hmore hstore hnext
      have hahead : w.ahead c = page.events ++ x.ahead c := by
        rw [hpage.ahead, World.ahead, World.selects, World.selects, hstore, hnext]
      have hreadable : x.Readable c := by
        obtain ⟨hordered, halive, hgranted⟩ := readable
        rw [← hstore] at hordered halive hgranted
        exact ⟨hordered, halive, hgranted⟩
      refine (ih hreadable (applied + page.events.length)).mono fun r y more others hrest => ?_
      refine ⟨fun hlt => hrest.short (by lia), fun hle => ?_, hrest.store.trans hstore⟩
      have henough := hrest.enough (by lia)
      refine ⟨?_, ?_, ?_, ?_⟩
      · rw [henough.turns, hone]
      · rw [henough.handed, hahead]
      · rw [henough.result, hahead, List.length_append, Nat.add_assoc]
      · rw [henough.position, hstore, hnext]
        lia

/-- **A consumer that is left alone catches up**, whatever its filter, its scope, its batch size and
its handler, from wherever its checkpoint is, with any log that it may read and that no crash has
silenced. It is not assumed that it ends: the number of pages ahead falls with every cycle, and that
is how many cycles there are. -/
theorem catchesUp_of_undisturbed (h : c.Undisturbed answer) {policy : Policy}
    {ops : List Store.Operation} (store : w.store = (Store.empty policy).after ops)
    (calm : ¬ (Store.empty policy).CrashedIn ops) {past : EventId} {limit : Option Nat}
    {access : Access} (granted : Access.authorize past limit c.filter c.scope policy = .ok access)
    (rounds : Nat)
    (smooth : ∀ a ∈ (catchUp c.name c.batchSize rounds 0).transcript answer w, ¬ Failed a) :
    (w.ahead c).Pairwise (fun d e => d.id < e.id) ∧
    CatchesUp c w rounds 0 ((catchUp c.name c.batchSize rounds 0).run answer w).1
      ((catchUp c.name c.batchSize rounds 0).run answer w).2
      (handedIn ((catchUp c.name c.batchSize rounds 0).transcript answer w))
      (turnsIn ((catchUp c.name c.batchSize rounds 0).transcript answer w)) := by
  have hpolicy : w.store.policy = policy := store ▸ Store.policy_after _ ops
  have hreadable : w.Readable c := by
    refine ⟨?_, ?_, ?_⟩
    · rw [store]
      exact Store.ordered_after Log.ordered_empty ops
    · rw [store]
      exact Store.alive_of_not_crashedIn calm
    · rw [hpolicy]
      exact Access.refusal?_of_authorize granted
  exact ⟨Log.pairwise_ahead hreadable.ordered _ _, ends_catchUp h hreadable rounds 0 smooth⟩

/-! ## A service that does not fail -/

theorem Setting.undisturbed_serve {s : Service η} (hs : s.Obeys c.handler) (now : Instant) :
    c.Undisturbed (c.serve s now) where
  honest := Setting.answers_serve hs now
  position _ := rfl
  read _ _ _ _ := rfl
  advance p w hle := by
    have hok : w.checkpoints.advance c.name p now = .ok (w.checkpoints.place c.name p now) :=
      if_neg (Nat.not_lt_of_le hle)
    simp only [Setting.serve, hok]
    rfl

structure Service.Reliable (s : Service η) : Prop where
  apply : ∀ e h, (s.apply e h).1 = .ok ()
  flush : ∀ h, (s.flush h).1 = .ok ()
  clear : ∀ h, (s.clear h).1 = .ok ()

theorem Service.Reliable.not_failed {s : Service η} (hs : s.Reliable) (now : Instant)
    (p : Program calls α) (w : World η) : ∀ a ∈ p.transcript (c.serve s now) w, ¬ Failed a := by
  induction p generalizing w with
  | done a => exact fun a ha => absurd ha List.not_mem_nil
  | ask q next ih =>
    intro a ha
    rcases List.mem_cons.mp ha with rfl | ha
    · cases q with
      | apply e => exact not_not_intro (hs.apply e w.handler)
      | flush => exact not_not_intro (hs.flush w.handler)
      | clear => exact not_not_intro (hs.clear w.handler)
      | _ => exact id
    · exact ih _ _ a ha

/-- The bookkeeper, at two events a time, has the four of the morning in two cycles. -/
theorem catchesUp_morning :
    bookkeeper.Undisturbed (bookkeeper.serve willing Sample.noon) ∧
    morning.store = (Store.empty .standard).after Sample.quarter ∧
    ¬ (Store.empty .standard).CrashedIn Sample.quarter ∧
    Access.authorize 0 none bookkeeper.filter bookkeeper.scope .standard =
      .ok ⟨0, 100, .all, Policy.standard.kinds⟩ ∧
    (∀ a ∈ (catchUp bookkeeper.name bookkeeper.batchSize 2 0).transcript
      (bookkeeper.serve willing Sample.noon) morning, ¬ Failed a) ∧
    morning.cycles bookkeeper = 2 ∧
    ((catchUp bookkeeper.name bookkeeper.batchSize 2 0).run
      (bookkeeper.serve willing Sample.noon) morning).1 = some (.ok 4) := by
  have hundisturbed : bookkeeper.Undisturbed (bookkeeper.serve willing Sample.noon) :=
    Setting.undisturbed_serve ⟨fun _ _ => trivial, fun _ => trivial, fun _ => trivial⟩ Sample.noon
  have hcalm : ¬ (Store.empty .standard).CrashedIn Sample.quarter :=
    Store.not_crashedIn_of_calm Sample.calm_quarter
  have hgranted : Access.authorize 0 none bookkeeper.filter bookkeeper.scope .standard =
      .ok ⟨0, 100, .all, Policy.standard.kinds⟩ := rfl
  have hreliable : willing.Reliable := ⟨fun _ _ => rfl, fun _ => rfl, fun _ => rfl⟩
  have hsmooth := hreliable.not_failed (c := bookkeeper) Sample.noon
    (catchUp bookkeeper.name bookkeeper.batchSize 2 0) morning
  have hcycles : morning.cycles bookkeeper = 2 := by decide +kernel
  have hahead : (morning.ahead bookkeeper).length = 4 := by decide +kernel
  obtain ⟨_, hall⟩ := catchesUp_of_undisturbed hundisturbed rfl hcalm hgranted 2 hsmooth
  have hresult := (hall.enough hcycles.le).result
  rw [hahead] at hresult
  exact ⟨hundisturbed, rfl, hcalm, hgranted, hsmooth, hcycles, hresult⟩

end Consumer

end Journal
