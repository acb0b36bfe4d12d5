import Journal.Codec.Event
import Journal.Proofs.Time.Text
import Mathlib.Data.List.Nodup

/-!
# Codecs that agree

An encoder and a decoder agree when decoding undoes encoding, and when what was decoded, in whatever
way it was written, is encoded so that it is decoded again (`RoundTrips`). Both need a limit on the
values, and the decoder keeps to it: a number that does not fit into its bits is not read.

For a record the fields of its object are looked up by name. `Holds` says what is found there, and a
field is then decoded by its own codec, whatever the other fields are (`Holds.required`,
`Holds.optional`).
-/

namespace Journal

/-- Decoding undoes encoding for the values that fit. What was decoded fits, and is decoded again
from its encoding. -/
structure RoundTrips {α : Type} (encode : α → Json) (decode : Json → Option α)
    (Fits : α → Prop) : Prop where
  decode_encode : ∀ a, Fits a → decode (encode a) = some a
  fits : ∀ v a, decode v = some a → Fits a
  again : ∀ v a, decode v = some a → decode (encode a) = some a

def Always {α : Type} (_ : α) : Prop := True

variable {α : Type} {encode : α → Json} {decode : Json → Option α} {Fits : α → Prop} {a : α}
  {o : Option α}
  {name : String} {names : List String} {v : Json} {ms : List (String × Json)} {f : Json.Fields}

theorem RoundTrips.of (hundoes : ∀ a, Fits a → decode (encode a) = some a)
    (hfits : ∀ v a, decode v = some a → Fits a) :
    RoundTrips encode decode Fits :=
  ⟨hundoes, hfits, fun v a h => hundoes a (hfits v a h)⟩

theorem RoundTrips.always (hundoes : ∀ a, decode (encode a) = some a) :
    RoundTrips encode decode Always :=
  .of (fun a _ => hundoes a) fun _ _ _ => trivial

/-! ## Fields of a record -/

/-- The fields have the values of the members. -/
def Holds (f : Json.Fields) (ms : List (String × Json)) : Prop := ∀ m ∈ ms, f m.1 = some m.2

theorem member?_of_mem (hnames : (ms.map (·.1)).Nodup) (hmem : (name, v) ∈ ms) :
    Json.member? name (.object ms) = some v := by
  induction ms with
  | nil => cases hmem
  | cons m rest ih =>
    rw [List.map_cons, List.nodup_cons] at hnames
    rw [Json.member?_cons]
    rcases List.mem_cons.mp hmem with heq | hrest
    · rw [← heq, if_pos rfl]
    · have hne : m.1 ≠ name := by
        rintro rfl
        exact hnames.1 (List.mem_map.mpr ⟨_, hrest, rfl⟩)
      rw [if_neg hne, ih hnames.2 hrest]

theorem member?_ofMembers_of_mem (hnames : (ms.map (·.1)).Nodup) (hmem : (name, v) ∈ ms) :
    (Json.ofMembers ms).member? name = some v := by
  rw [Json.member?_ofMembers]
  exact member?_of_mem (by rwa [List.map_reverse, List.nodup_reverse]) (List.mem_reverse.mpr hmem)

/-- A record is decoded from the values of its fields. Whether it is written as an object or as a
list does not matter, since the fields are found under the same names in both. -/
theorem decode_record {read : Json.Fields → Option α} (hnames : (ms.map (·.1)).Nodup)
    (hread : ∀ f, Holds f ms → read f = some a) :
    ((Json.ofMembers ms).fields? names).bind read = some a :=
  hread _ fun _ hm => member?_ofMembers_of_mem hnames hm

theorem decode_members {read : Json.Fields → Option α} (hnames : (ms.map (·.1)).Nodup)
    (hread : ∀ f, Holds f ms → read f = some a) : (Json.ofMembers ms).members?.bind read = some a :=
  hread _ fun _ hm => member?_ofMembers_of_mem hnames hm

theorem Holds.required (hf : Holds f ms) (h : RoundTrips encode decode Fits) (ha : Fits a)
    (hmem : (name, encode a) ∈ ms) : f.required name decode = some a := by
  rw [Json.Fields.required, hf _ hmem, Option.bind_some, h.decode_encode a ha]

theorem optional_of_ne_null (hv : f name = some v) (hnull : v ≠ .null) :
    f.optional name decode = (decode v).map some := by
  rw [Json.Fields.optional, hv]
  split
  · next h => cases h
  · next h => exact absurd (Option.some.inj h) hnull
  · next h =>
    cases h
    rfl

/-- A field that need not be there is absent when it is `null`, so that no value may be written in
this way. -/
theorem Holds.optional (hf : Holds f ms) (h : RoundTrips encode decode Fits)
    (hnull : ∀ a ∈ o, encode a ≠ .null) (ho : ∀ a ∈ o, Fits a)
    (hmem : (name, Json.ofOption encode o) ∈ ms) :
    f.optional name decode = some o := by
  cases o with
  | none => rw [Json.Fields.optional, hf _ hmem, Json.ofOption]
  | some a =>
    rw [optional_of_ne_null (hf _ hmem) (hnull a rfl), Json.ofOption, h.decode_encode a (ho a rfl),
      Option.map_some]

theorem Holds.optional_always (hf : Holds f ms) (h : RoundTrips encode decode Always)
    (hnull : ∀ a, encode a ≠ .null) (hmem : (name, Json.ofOption encode o) ∈ ms) :
    f.optional name decode = some o :=
  hf.optional h (fun a _ => hnull a) (fun _ _ => trivial) hmem

theorem RoundTrips.fits_required (h : RoundTrips encode decode Fits)
    (hread : f.required name decode = some a) :
    Fits a := by
  obtain ⟨v, -, hv⟩ := Option.bind_eq_some_iff.mp hread
  exact h.fits v a hv

theorem exists_of_optional (hread : f.optional name decode = some o) : ∀ a ∈ o, ∃ v, v ≠ .null ∧
    decode v = some a := by
  rintro a rfl
  cases hv : f name with
  | none =>
    rw [Json.Fields.optional, hv] at hread
    cases hread
  | some v =>
    by_cases hnull : v = .null
    · rw [Json.Fields.optional, hv, hnull] at hread
      cases hread
    · rw [optional_of_ne_null hv hnull] at hread
      obtain ⟨a, ha, heq⟩ := Option.map_eq_some_iff.mp hread
      cases heq
      exact ⟨v, hnull, ha⟩

theorem RoundTrips.fits_optional (h : RoundTrips encode decode Fits)
    (hread : f.optional name decode = some o) :
    ∀ a ∈ o, Fits a := by
  intro a ha
  obtain ⟨v, -, hv⟩ := exists_of_optional hread a ha
  exact h.fits v a hv

/-! ## Single values -/

theorem roundTrips_text : RoundTrips Json.text Json.text? Always := .always fun _ => rfl

theorem roundTrips_bool : RoundTrips Json.bool Json.bool? Always := .always fun _ => rfl

theorem roundTrips_payload : RoundTrips id some Always := .always fun _ => rfl

theorem roundTrips_nat (limit : Nat) : RoundTrips (fun n : Nat => .int n) (Json.nat? limit)
    (· < limit) := by
  refine .of ?_ ?_
  · intro n hn
    simp [Json.nat?, hn]
  · intro v n h
    cases v with
    | int k =>
      simp only [Json.nat?, Option.ite_none_right_eq_some, Option.some.injEq] at h
      omega
    | _ => cases h

theorem roundTrips_eventId : RoundTrips EventId.toJson EventId.ofJson? (· < 2 ^ 64) :=
  roundTrips_nat _

theorem roundTrips_uuid : RoundTrips Uuid.toJson Uuid.ofJson? Always := .always Uuid.parse?_text

theorem roundTrips_org : RoundTrips OrgId.toJson OrgId.ofJson? Always := by
  refine .always fun o => ?_
  rw [OrgId.ofJson?, OrgId.toJson, roundTrips_uuid.decode_encode _ trivial]
  rfl

theorem roundTrips_request : RoundTrips RequestId.toJson RequestId.ofJson? Always := by
  refine .always fun r => ?_
  rw [RequestId.ofJson?, RequestId.toJson, roundTrips_uuid.decode_encode _ trivial]
  rfl

theorem roundTrips_actorKind : RoundTrips ActorKind.toJson ActorKind.ofJson? Always :=
  .always ActorKind.ofName?_name

theorem roundTrips_aggregateKind : RoundTrips AggregateKind.toJson AggregateKind.ofJson? Always :=
  .always AggregateKind.ofName?_name

theorem roundTrips_instant : RoundTrips Instant.toJson Instant.ofJson? Instant.Showable := by
  refine .of ?_ ?_
  · intro t ht
    simp only [Instant.ofJson?, Instant.toJson, Json.text?, Option.bind_some]
    exact Instant.parse?_text ht
  intro v t h
  obtain ⟨s, -, hs⟩ := Option.bind_eq_some_iff.mp h
  exact Instant.showable_of_parse? hs

/-! ## Lists -/

theorem mapM_map_eq_some {l : List α} (h : ∀ a ∈ l, decode (encode a) = some a) :
    (l.map encode).mapM decode = some l := by
  induction l with
  | nil => rfl
  | cons a rest ih =>
    rw [List.map_cons, List.mapM_cons, h a List.mem_cons_self,
      ih fun b hb => h b (List.mem_cons_of_mem a hb)]
    rfl

theorem exists_of_mapM {items : List Json} {l : List α} (h : items.mapM decode = some l) :
    ∀ a ∈ l, ∃ v, decode v = some a := by
  induction items generalizing l with
  | nil =>
    cases h
    simp
  | cons v rest ih =>
    rw [List.mapM_cons] at h
    obtain ⟨a, ha, h⟩ := Option.bind_eq_some_iff.mp h
    obtain ⟨l, hl, h⟩ := Option.bind_eq_some_iff.mp h
    cases h
    exact List.forall_mem_cons.mpr ⟨⟨v, ha⟩, ih hl⟩

theorem RoundTrips.list (h : RoundTrips encode decode Fits) :
    RoundTrips (fun l => .list (l.map encode)) (Json.listOf? decode) (∀ a ∈ ·, Fits a) := by
  refine .of (fun l hl => mapM_map_eq_some fun a ha => h.decode_encode a (hl a ha)) ?_
  intro v l hread a ha
  obtain ⟨items, -, hitems⟩ := Option.bind_eq_some_iff.mp hread
  obtain ⟨v, hv⟩ := exists_of_mapM hitems a ha
  exact h.fits v a hv

end Journal
