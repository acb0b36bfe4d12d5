import Journal.Checkpoint
import Journal.Proofs.Calls
import Journal.Proofs.Keyed
import Mathlib.Data.List.Basic
import Mathlib.Logic.Function.Basic

/-!
# Checkpoints as a map

All that anybody learns from a table of checkpoints is where a consumer is, and of which consumers
anything is known. `Positions` is that map, and `Positions.Answers` says what it answers to a call:
the list is the one that has each known consumer once, in ascending order of the names, so that
there is only one answer to a call (`Answers.unique`).

**A table in memory answers every sequence of calls as the map does** (`told_of_shows`), whatever
the instants are at which the calls are made. The map in turn moves a consumer back in a reset only,
leaves alone all consumers that a call is not about, and knows exactly those that a call was to move
(`Positions.course`).
-/

namespace Journal

/-! ## Calls -/

inductive CheckpointCall
  | position (consumer : String)
  | advance (consumer : String) (position : EventId)
  | reset (consumer : String)
  | list
  | lag (head : EventId)

/-- An answer of checkpoints. Of a checkpoint it does not say when it was made: instants differ
between two tables that are used alike, and nothing depends on them. -/
inductive CheckpointReply
  | position (r : Except CheckpointError EventId)
  | ended (r : Except CheckpointError Unit)
  | listed (r : Except CheckpointError (List (String × EventId)))
  | lags (r : Except CheckpointError (List Lag))
  deriving DecidableEq

def Checkpoint.place (c : Checkpoint) : String × EventId := (c.consumer, c.position)

namespace CheckpointCall

/-- The consumer that the call is to move. -/
def moved? : CheckpointCall → Option String
  | advance consumer _ | reset consumer => some consumer
  | _ => none

def ofMemory (now : Instant) : CheckpointCall → Checkpoints → CheckpointReply × Checkpoints
  | position consumer, cs => (.position (.ok (cs.positionOf consumer)), cs)
  | advance consumer attempted, cs =>
    match cs.advance consumer attempted now with
    | .error e => (.ended (.error e), cs)
    | .ok moved => (.ended (.ok ()), moved)
  | reset consumer, cs => (.ended (.ok ()), cs.reset consumer now)
  | list, cs => (.listed (.ok (cs.list.map Checkpoint.place)), cs)
  | lag head, cs => (.lags (.ok (cs.list.map (·.lagBehind head))), cs)

end CheckpointCall

/-! ## The map -/

/-- Where the consumers are of which anything is known. That a consumer is at the start and that
nobody has seen it are different things, although they are answered alike; only the list of all
tells them apart. -/
def Positions : Type := String → Option EventId

namespace Positions

variable {m : Positions} {c : String} {call : CheckpointCall} {calls : List CheckpointCall}

def unknown : Positions := fun _ => none

/-- Where a consumer is; one of which nothing is known is at the start of the log. -/
def valueOf (m : Positions) (consumer : String) : EventId := (m consumer).getD 0

def set (m : Positions) (consumer : String) (position : EventId) : Positions :=
  Function.update m consumer (some position)

/-- The list has each known consumer once, in ascending order of the names. -/
def Lists (m : Positions) (places : List (String × EventId)) : Prop :=
  places.Pairwise (fun a b => a.1 < b.1) ∧ ∀ c p, (c, p) ∈ places ↔ m c = some p

def lagBehind (head : EventId) (place : String × EventId) : Lag :=
  ⟨place.1, place.2, head - place.2⟩

/-- What the map answers to a call. For a list there is no one value to compute, as the map does not
know its own consumers; it is described, and `Lists.unique` says that there is one only. -/
def Answers (m : Positions) : CheckpointCall → CheckpointReply → Prop
  | .position c, reply => reply = .position (.ok (m.valueOf c))
  | .advance c p, reply =>
    reply = .ended (if m.valueOf c ≤ p then .ok () else .error (.regression c (m.valueOf c) p))
  | .reset _, reply => reply = .ended (.ok ())
  | .list, reply => ∃ places, m.Lists places ∧ reply = .listed (.ok places)
  | .lag head, reply => ∃ places, m.Lists places ∧ reply = .lags (.ok (places.map (lagBehind head)))

def next (m : Positions) : CheckpointCall → Positions
  | .advance c p => if m.valueOf c ≤ p then m.set c p else m
  | .reset c => m.set c 0
  | _ => m

def after (m : Positions) (calls : List CheckpointCall) : Positions := calls.foldl next m

/-- The replies to calls are those of the map, which moves from each call to the next. -/
structure Told (m : Positions) (calls : List CheckpointCall) (replies : List CheckpointReply) :
    Prop where
  length : replies.length = calls.length
  answers : ∀ n call reply, calls[n]? = some call → replies[n]? = some reply →
    (m.after (calls.take n)).Answers call reply

/-- How positions change in the course of calls: only where a call is to move a consumer, back only
to the start, and they become known by being moved. -/
structure Course (calls : List CheckpointCall) : Prop where
  others : ∀ n call c, calls[n]? = some call → call.moved? ≠ some c →
    unknown.after (calls.take (n + 1)) c = unknown.after (calls.take n) c
  back : ∀ n c, (unknown.after (calls.take (n + 1))).valueOf c <
    (unknown.after (calls.take n)).valueOf c → calls[n]? = some (.reset c)
  known : ∀ n c, (unknown.after (calls.take n) c).isSome = true ↔
    ∃ call ∈ calls.take n, call.moved? = some c

/-! ## One answer to a call -/

theorem Lists.unique {places others : List (String × EventId)} (h : m.Lists places)
    (ho : m.Lists others) :
    places = others := by
  have hnodup : ∀ {l : List (String × EventId)}, l.Pairwise (fun a b => a.1 < b.1) → l.Nodup := by
    intro l hl
    rw [List.nodup_iff_pairwise_ne]
    refine hl.imp fun {a b} hlt heq => ?_
    exact String.lt_irrefl b.1 (heq ▸ hlt)
  have hperm : places.Perm others := by
    refine (List.perm_ext_iff_of_nodup (hnodup h.1) (hnodup ho.1)).mpr ?_
    rintro ⟨c, p⟩
    rw [h.2, ho.2]
  refine hperm.eq_of_pairwise (fun a b _ _ hab hba => ?_) h.1 ho.1
  exact absurd (String.lt_trans hab hba) (String.lt_irrefl _)

theorem Answers.unique {reply other : CheckpointReply} (h : m.Answers call reply)
    (ho : m.Answers call other) :
    reply = other := by
  cases call with
  | position | advance | reset => exact h.trans ho.symm
  | list | lag =>
    obtain ⟨places, hplaces, rfl⟩ := h
    obtain ⟨others, hothers, rfl⟩ := ho
    rw [hplaces.unique hothers]

theorem Told.unique {replies others : List CheckpointReply} (h : m.Told calls replies)
    (ho : m.Told calls others) :
    replies = others := by
  refine List.ext_getElem (h.length.trans ho.length.symm) fun n hn hno => ?_
  have hcall := List.getElem?_eq_getElem (h.length ▸ hn)
  exact (h.answers n _ _ hcall (List.getElem?_eq_getElem hn)).unique
    (ho.answers n _ _ hcall (List.getElem?_eq_getElem hno))

theorem Told.cons {reply : CheckpointReply} {replies : List CheckpointReply}
    (first : m.Answers call reply) (rest : (m.next call).Told calls replies) :
    m.Told (call :: calls) (reply :: replies) where
  length := congrArg Nat.succ rest.length
  answers n c r hc hr := by
    cases n with
    | zero =>
      cases hc
      cases hr
      exact first
    | succ n => exact rest.answers n c r hc hr

/-! ## How the map moves -/

theorem set_self (m : Positions) (c : String) (p : EventId) : m.set c p c = some p :=
  Function.update_self ..

theorem set_of_ne {d : String} (h : d ≠ c) (m : Positions) (p : EventId) : m.set c p d = m d :=
  Function.update_of_ne h ..

theorem next_of_not_moved (h : call.moved? ≠ some c) : m.next call c = m c := by
  cases call with
  | position | list | lag => rfl
  | advance d p =>
    rw [next]
    split
    · exact set_of_ne (fun hcd => h (congrArg some hcd.symm)) m p
    · rfl
  | reset d => exact set_of_ne (fun hcd => h (congrArg some hcd.symm)) m 0

/-- Only a reset moves a consumer back. -/
theorem eq_reset_of_next_lt (h : (m.next call).valueOf c < m.valueOf c) : call = .reset c := by
  by_cases hmoved : call.moved? = some c
  · cases call with
    | position | list | lag => cases hmoved
    | reset d =>
      cases hmoved
      rfl
    | advance d p =>
      cases hmoved
      rw [next] at h
      split at h
      · next hle =>
        rw [valueOf, set_self, Option.getD_some] at h
        exact absurd hle (Nat.not_le.mpr h)
      · exact absurd h (Nat.lt_irrefl _)
  · rw [valueOf, valueOf, next_of_not_moved hmoved] at h
    exact absurd h (Nat.lt_irrefl _)

/-- A consumer is known after a call that is to move it, also when it is refused: it has been moved
before then. -/
theorem isSome_next_iff : (m.next call c).isSome = true ↔ (m c).isSome = true ∨
    call.moved? = some c := by
  by_cases hmoved : call.moved? = some c
  · refine iff_of_true ?_ (Or.inr hmoved)
    cases call with
    | position | list | lag => cases hmoved
    | reset d =>
      cases hmoved
      rw [next, set_self, Option.isSome_some]
    | advance d p =>
      cases hmoved
      rw [next]
      split
      · rw [set_self, Option.isSome_some]
      · next hle =>
        rw [valueOf] at hle
        cases hc : m c with
        | none =>
          rw [hc] at hle
          exact absurd (Nat.zero_le p) hle
        | some _ => rfl
  · rw [next_of_not_moved hmoved, or_iff_left hmoved]

theorem isSome_after_iff :
    (m.after calls c).isSome = true ↔ (m c).isSome = true ∨
    ∃ call ∈ calls, call.moved? = some c := by
  induction calls generalizing m with
  | nil => simp [after]
  | cons call rest ih =>
    change ((m.next call).after rest c).isSome = true ↔ _
    rw [ih, isSome_next_iff, List.exists_mem_cons_iff, or_assoc]

theorem after_take_succ {n : Nat} (h : calls[n]? = some call) (m : Positions) :
    m.after (calls.take (n + 1)) = (m.after (calls.take n)).next call := by
  rw [List.take_add_one, h, after, List.foldl_append]
  rfl

/-- **Positions move back in a reset only**, one consumer's at a time, and those are known that were
to be moved. -/
theorem course (calls : List CheckpointCall) : Course calls where
  others n call c hcall hmoved := by
    rw [after_take_succ hcall]
    exact next_of_not_moved hmoved
  back n c hlt := by
    cases hcall : calls[n]? with
    | none =>
      have hlength : calls.length ≤ n := List.getElem?_eq_none_iff.mp hcall
      rw [List.take_of_length_le hlength, List.take_of_length_le (Nat.le_succ_of_le hlength)] at hlt
      exact absurd hlt (Nat.lt_irrefl _)
    | some call =>
      rw [after_take_succ hcall] at hlt
      rw [eq_reset_of_next_lt hlt]
  known n c := by
    rw [isSome_after_iff]
    exact or_iff_right (by simp [unknown])

end Positions

/-! ## The table in memory -/

namespace Checkpoints

variable {cs : Checkpoints} {m : Positions} {c : String} {p : EventId}

structure Shows (cs : Checkpoints) (m : Positions) : Prop where
  filed : ∀ name c, cs.table.get? name = some c → c.consumer = name
  shown : ∀ name, (cs.table.get? name).map (·.position) = m name

theorem shows_empty : empty.Shows .unknown where
  filed _ _ h := nomatch h
  shown _ := rfl

namespace Shows

theorem positionOf_eq (h : cs.Shows m) (c : String) : cs.positionOf c = m.valueOf c := by
  rw [positionOf, Positions.valueOf, ← h.shown]
  cases cs.table.get? c with
  | none => rfl
  | some _ => rfl

theorem place (h : cs.Shows m) (c : String) (p : EventId) (now : Instant) :
    (cs.place c p now).Shows (m.set c p) where
  filed name found hfound := by
    change (cs.table.insert c ⟨c, p, now⟩).get? name = some found at hfound
    rw [Keyed.get?_insert] at hfound
    by_cases hname : name = c
    · rw [if_pos hname] at hfound
      cases hfound
      exact hname.symm
    · rw [if_neg hname] at hfound
      exact h.filed name found hfound
  shown name := by
    change ((cs.table.insert c ⟨c, p, now⟩).get? name).map _ = _
    rw [Keyed.get?_insert]
    by_cases hname : name = c
    · rw [if_pos hname, hname, Positions.set_self]
      rfl
    · rw [if_neg hname, Positions.set_of_ne hname]
      exact h.shown name

theorem mem_values_iff (h : cs.Shows m) :
    (∃ found ∈ cs.table.values, found.place = (c, p)) ↔ m c = some p := by
  rw [← h.shown, Option.map_eq_some_iff]
  constructor
  · rintro ⟨found, hfound, hplace⟩
    obtain ⟨⟨name, _⟩, hmem, rfl⟩ := List.mem_map.mp hfound
    have hget := Keyed.mem_entries_iff.mp hmem
    obtain rfl : name = c := (h.filed name _ hget).symm.trans (congrArg Prod.fst hplace)
    exact ⟨_, hget, congrArg Prod.snd hplace⟩
  · rintro ⟨found, hget, hposition⟩
    refine ⟨found, List.mem_map.mpr ⟨(c, found), Keyed.mem_entries_iff.mpr hget, rfl⟩, ?_⟩
    exact Prod.ext (h.filed c found hget) hposition

/-- The checkpoints are in the table under their own names, of which no two are the same. -/
theorem nodup_names (h : cs.Shows m) : (cs.table.values.map (·.consumer)).Nodup := by
  have hnames : cs.table.values.map (·.consumer) = cs.table.entries.map (·.1) := by
    rw [Keyed.values, List.map_map]
    refine List.map_congr_left fun e he => ?_
    exact h.filed e.1 e.2 (Keyed.mem_entries_iff.mp he)
  exact hnames ▸ cs.table.nodup

theorem lists (h : cs.Shows m) : m.Lists (cs.list.map Checkpoint.place) := by
  have hperm : cs.list.Perm cs.table.values := List.mergeSort_perm _ _
  refine ⟨?_, fun c p => ?_⟩
  · have hle : cs.list.Pairwise fun a b => a.consumer ≤ b.consumer := by
      have htrans : ∀ a b c, nameLE a b → nameLE b c → nameLE a c := fun a b c hab hbc =>
        decide_eq_true (String.le_trans (of_decide_eq_true hab) (of_decide_eq_true hbc))
      have htotal : ∀ a b, nameLE a b || nameLE b a := fun a b => by
        simpa [nameLE] using String.le_total a.consumer b.consumer
      exact (List.pairwise_mergeSort htrans htotal cs.table.values).imp of_decide_eq_true
    have hne : cs.list.Pairwise fun a b => a.consumer ≠ b.consumer :=
      List.pairwise_map.mp ((hperm.map _).nodup_iff.mpr h.nodup_names)
    rw [List.pairwise_map]
    exact hle.imp₂ (fun a b hab hneq => Std.lt_of_le_of_ne hab hneq) hne
  · rw [List.mem_map, ← h.mem_values_iff]
    simp only [hperm.mem_iff]

theorem map_lagBehind (head : EventId) (cs : Checkpoints) :
    cs.list.map (·.lagBehind head) = (cs.list.map Checkpoint.place).map
    (Positions.lagBehind head) := by
  rw [List.map_map]
  rfl

/-- **The table answers a call as the map does**, and shows afterwards what the map has become. -/
theorem ofMemory (h : cs.Shows m) (now : Instant) (call : CheckpointCall) :
    m.Answers call (call.ofMemory now cs).1 ∧ (call.ofMemory now cs).2.Shows (m.next call) := by
  cases call with
  | position c =>
    exact ⟨congrArg (fun p => CheckpointReply.position (.ok p)) (h.positionOf_eq c), h⟩
  | advance c p =>
    rw [CheckpointCall.ofMemory, advance, h.positionOf_eq, Positions.Answers, Positions.next]
    by_cases hle : m.valueOf c ≤ p
    · rw [if_neg (Nat.not_lt.mpr hle), if_pos hle, if_pos hle]
      exact ⟨rfl, h.place c p now⟩
    · rw [if_pos (Nat.lt_of_not_le hle), if_neg hle, if_neg hle]
      exact ⟨rfl, h⟩
  | reset c => exact ⟨rfl, h.place c 0 now⟩
  | list => exact ⟨⟨_, h.lists, rfl⟩, h⟩
  | lag head =>
    have hlags := congrArg (fun l => CheckpointReply.lags (.ok l)) (map_lagBehind head cs)
    exact ⟨⟨_, h.lists, hlags⟩, h⟩

end Shows

/-- **A table in memory answers every sequence of calls as the map does**, at whatever time they are
made. -/
theorem told_of_shows (h : cs.Shows m) (clock : Nat → Instant) (calls : List CheckpointCall) :
    m.Told calls (makeCalls CheckpointCall.ofMemory clock cs calls).1 := by
  induction calls generalizing cs m clock with
  | nil => exact ⟨rfl, fun _ _ _ hcall => nomatch hcall⟩
  | cons call rest ih =>
    obtain ⟨hanswer, hshows⟩ := h.ofMemory (clock 0) call
    exact .cons hanswer (ih hshows _)

/-! ## An entry that is made first -/

/-- Where a consumer is, in a table that has an entry for it. One that nobody has seen gets an entry
at the start: this is another way to move a checkpoint forward, which has something to compare with
in every case. -/
def enter (cs : Checkpoints) (consumer : String) (now : Instant) : EventId × Checkpoints :=
  match cs.table.get? consumer with
  | some c => (c.position, cs)
  | none => (0, cs.place consumer 0 now)

def advanceInPlace (cs : Checkpoints) (consumer : String) (position : EventId) (now : Instant) :
    Except CheckpointError Unit × Checkpoints :=
  let (current, entered) := cs.enter consumer now
  if position < current then (.error (.regression consumer current position), entered)
  else (.ok (), entered.place consumer position now)

/-- **No entry stays behind from a call that is refused**: the one that is made first is at the
start, where nothing is refused. -/
theorem advanceInPlace_eq (cs : Checkpoints) (consumer : String) (position : EventId)
    (now : Instant) :
    cs.advanceInPlace consumer position now = match cs.advance consumer position now with
      | .error e => (.error e, cs)
      | .ok moved => (.ok (), moved) := by
  rw [advanceInPlace, enter, advance, positionOf]
  cases hget : cs.table.get? consumer with
  | none =>
    simp only [Nat.not_lt_zero, if_false]
    exact congrArg (fun table => (Except.ok (), (⟨table⟩ : Checkpoints))) (Keyed.insert_insert ..)
  | some c =>
    by_cases hlt : position < c.position
    · simp only [hlt, if_true]
    · simp only [hlt, if_false]

end Checkpoints

end Journal
