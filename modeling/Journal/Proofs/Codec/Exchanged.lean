import Journal.Codec.Consumer
import Journal.Codec.Guard
import Journal.Codec.Read
import Journal.Proofs.Codec.Field
import Journal.Proofs.Store.Operation

/-!
# What the log exchanges

Events, drafts, envelopes, pages, filters, scopes, checkpoints and the records of requests. **For
each of them decoding undoes encoding, and what was decoded is decoded again from its encoding**
(`roundTrips_exchanged`). A value is representable when its numbers fit into their bits, a clock can
show its instants, and a response does not have the body `null`, which is how a response without a
body is written.

Each record is decoded field by field, in the order of its fields.
-/

namespace Journal

open Option (bind_eq_some_iff)

variable {f : Json.Fields} {ms : List (String × Json)}

/-! ## Aggregates and provenance -/

theorem roundTrips_aggregate : RoundTrips Aggregate.toJson Aggregate.ofJson? Always := by
  refine .always fun a => ?_
  unfold Aggregate.ofJson? Aggregate.toJson
  refine decode_record (by simp) fun f hf => ?_
  refine bind_eq_some_iff.mpr ⟨a.kind, hf.required roundTrips_aggregateKind trivial (by simp), ?_⟩
  refine bind_eq_some_iff.mpr ⟨a.id, hf.required roundTrips_text trivial (by simp), ?_⟩
  rfl

namespace Provenance

/-- The event that caused it has a number of sixty-four bits. -/
def Representable (p : Provenance) : Prop := ∀ n ∈ p.causation, n < 2 ^ 64

variable {actorKind : Json → Option ActorKind} {p : Provenance}

theorem ofFields?_eq_some (hkind : RoundTrips ActorKind.toJson actorKind Always)
    (hp : p.Representable) (hf : Holds f ms) (hsub : p.members ⊆ ms) :
    ofFields? actorKind f = some p := by
  replace hf : Holds f p.members := fun m hm => hf m (hsub hm)
  unfold members at hf
  refine bind_eq_some_iff.mpr ⟨p.actorKind, hf.required hkind trivial (by simp), ?_⟩
  refine bind_eq_some_iff.mpr ⟨p.actor, hf.required roundTrips_text trivial (by simp), ?_⟩
  refine bind_eq_some_iff.mpr ⟨p.org, hf.optional_always roundTrips_org nofun (by simp), ?_⟩
  refine bind_eq_some_iff.mpr ⟨p.request, hf.required roundTrips_request trivial (by simp), ?_⟩
  refine bind_eq_some_iff.mpr ⟨p.idempotencyKey,
    hf.optional_always roundTrips_text nofun (by simp), ?_⟩
  refine bind_eq_some_iff.mpr ⟨p.correlation,
    hf.optional_always roundTrips_text nofun (by simp), ?_⟩
  refine bind_eq_some_iff.mpr ⟨p.causation, hf.optional roundTrips_eventId nofun hp (by simp), ?_⟩
  rfl

theorem fits_of_ofFields? (h : ofFields? actorKind f = some p) : p.Representable := by
  simp only [ofFields?, Option.bind_eq_bind, bind_eq_some_iff, Option.pure_def,
    Option.some.injEq] at h
  obtain ⟨_, -, _, -, _, -, _, -, _, -, _, -, _, hcausation, rfl⟩ := h
  exact roundTrips_eventId.fits_optional hcausation

theorem roundTrips : RoundTrips toJson ofJson? Representable := by
  refine .of ?_ ?_
  · intro p hp
    unfold ofJson? toJson
    exact decode_record (by simp [members]) fun f hf => ofFields?_eq_some roundTrips_actorKind hp hf
      (List.Subset.refl _)
  · intro v p h
    obtain ⟨_, -, h⟩ := bind_eq_some_iff.mp h
    exact fits_of_ofFields? h

end Provenance

/-! ## Drafts, events and envelopes -/

namespace Draft

structure Representable (d : Draft) : Prop where
  version : d.version < 2 ^ 32
  occurredAt : d.occurredAt.Showable
  provenance : d.provenance.Representable

theorem roundTrips : RoundTrips toJson ofJson? Representable := by
  refine .of ?_ ?_
  · intro d hd
    unfold ofJson? toJson
    refine decode_record (by simp) fun f hf => ?_
    refine bind_eq_some_iff.mpr ⟨d.type, hf.required roundTrips_text trivial (by simp), ?_⟩
    refine bind_eq_some_iff.mpr ⟨d.version,
      hf.required (roundTrips_nat (2 ^ 32)) hd.version (by simp), ?_⟩
    refine bind_eq_some_iff.mpr ⟨d.occurredAt,
      hf.required roundTrips_instant hd.occurredAt (by simp), ?_⟩
    refine bind_eq_some_iff.mpr ⟨d.provenance,
      hf.required Provenance.roundTrips hd.provenance (by simp), ?_⟩
    refine bind_eq_some_iff.mpr ⟨d.payload, hf.required roundTrips_payload trivial (by simp), ?_⟩
    rfl
  · intro v d h
    simp only [ofJson?, Option.bind_eq_bind, bind_eq_some_iff, Option.pure_def,
      Option.some.injEq] at h
    obtain ⟨_, -, _, -, _, hversion, _, hoccurredAt, _, hprovenance, _, -, rfl⟩ := h
    constructor
    case version => exact (roundTrips_nat (2 ^ 32)).fits_required hversion
    case occurredAt => exact roundTrips_instant.fits_required hoccurredAt
    case provenance => exact Provenance.roundTrips.fits_required hprovenance

end Draft

namespace Event

structure Representable (e : Event) : Prop where
  id : e.id < 2 ^ 64
  occurredAt : e.occurredAt.Showable
  seq : e.seq < 2 ^ 64
  version : e.version < 2 ^ 32
  provenance : e.provenance.Representable

theorem roundTrips_actorKind? : RoundTrips ActorKind.toJson actorKind? Always :=
  .always ActorKind.ofName?_name

theorem roundTrips : RoundTrips toJson ofJson? Representable := by
  refine .of ?_ ?_
  · intro e he
    unfold ofJson? toJson
    refine decode_members (by simp [Provenance.members]) fun f hf => ?_
    refine bind_eq_some_iff.mpr ⟨e.id, hf.required roundTrips_eventId he.id (by simp), ?_⟩
    refine bind_eq_some_iff.mpr ⟨e.occurredAt,
      hf.required roundTrips_instant he.occurredAt (by simp), ?_⟩
    refine bind_eq_some_iff.mpr ⟨e.aggregate,
      hf.required roundTrips_aggregate trivial (by simp), ?_⟩
    refine bind_eq_some_iff.mpr ⟨e.seq, hf.required (roundTrips_nat (2 ^ 64)) he.seq (by simp), ?_⟩
    refine bind_eq_some_iff.mpr ⟨e.type, hf.required roundTrips_text trivial (by simp), ?_⟩
    refine bind_eq_some_iff.mpr ⟨e.version,
      hf.required (roundTrips_nat (2 ^ 32)) he.version (by simp), ?_⟩
    refine bind_eq_some_iff.mpr ⟨e.provenance, ?_, ?_⟩
    · exact Provenance.ofFields?_eq_some roundTrips_actorKind? he.provenance hf
        (List.subset_append_right ..)
    refine bind_eq_some_iff.mpr ⟨e.payload, hf.required roundTrips_payload trivial (by simp), ?_⟩
    rfl
  · intro v e h
    simp only [ofJson?, Option.bind_eq_bind, bind_eq_some_iff, Option.pure_def,
      Option.some.injEq] at h
    obtain ⟨_, -, _, hid, _, hoccurredAt, _, -, _, hseq, _, -, _, hversion, _, hprovenance,
      _, -, rfl⟩ := h
    constructor
    case id => exact roundTrips_eventId.fits_required hid
    case occurredAt => exact roundTrips_instant.fits_required hoccurredAt
    case seq => exact (roundTrips_nat (2 ^ 64)).fits_required hseq
    case version => exact (roundTrips_nat (2 ^ 32)).fits_required hversion
    case provenance => exact Provenance.fits_of_ofFields? hprovenance

end Event

namespace Envelope

structure Representable (e : Envelope Json) : Prop where
  id : e.id < 2 ^ 64
  seq : e.seq < 2 ^ 64
  version : e.version < 2 ^ 32
  occurredAt : e.occurredAt.Showable

theorem roundTrips : RoundTrips toJson ofJson? Representable := by
  refine .of ?_ ?_
  · intro e he
    unfold ofJson? toJson
    refine decode_record (by simp) fun f hf => ?_
    refine bind_eq_some_iff.mpr ⟨e.id, hf.required roundTrips_eventId he.id (by simp), ?_⟩
    refine bind_eq_some_iff.mpr ⟨e.org, hf.optional_always roundTrips_org nofun (by simp), ?_⟩
    refine bind_eq_some_iff.mpr ⟨e.aggregate,
      hf.required roundTrips_aggregate trivial (by simp), ?_⟩
    refine bind_eq_some_iff.mpr ⟨e.seq, hf.required (roundTrips_nat (2 ^ 64)) he.seq (by simp), ?_⟩
    refine bind_eq_some_iff.mpr ⟨e.type, hf.required roundTrips_text trivial (by simp), ?_⟩
    refine bind_eq_some_iff.mpr ⟨e.version,
      hf.required (roundTrips_nat (2 ^ 32)) he.version (by simp), ?_⟩
    refine bind_eq_some_iff.mpr ⟨e.occurredAt,
      hf.required roundTrips_instant he.occurredAt (by simp), ?_⟩
    refine bind_eq_some_iff.mpr ⟨e.payload, hf.required roundTrips_payload trivial (by simp), ?_⟩
    rfl
  · intro v e h
    simp only [ofJson?, Option.bind_eq_bind, bind_eq_some_iff, Option.pure_def,
      Option.some.injEq] at h
    obtain ⟨_, -, _, hid, _, -, _, -, _, hseq, _, -, _, hversion, _, hoccurredAt, _, -, rfl⟩ := h
    constructor
    case id => exact roundTrips_eventId.fits_required hid
    case seq => exact (roundTrips_nat (2 ^ 64)).fits_required hseq
    case version => exact (roundTrips_nat (2 ^ 32)).fits_required hversion
    case occurredAt => exact roundTrips_instant.fits_required hoccurredAt

end Envelope

/-! ## Reads -/

namespace Page

structure Representable (p : Page) : Prop where
  events : ∀ e ∈ p.events, e.Representable
  next : p.next < 2 ^ 64

theorem roundTrips : RoundTrips toJson ofJson? Representable := by
  refine .of ?_ ?_
  · intro p hp
    unfold ofJson? toJson
    refine decode_record (by simp) fun f hf => ?_
    refine bind_eq_some_iff.mpr ⟨p.events,
      hf.required Event.roundTrips.list hp.events (by simp), ?_⟩
    refine bind_eq_some_iff.mpr ⟨p.next, hf.required roundTrips_eventId hp.next (by simp), ?_⟩
    refine bind_eq_some_iff.mpr ⟨p.hasMore, hf.required roundTrips_bool trivial (by simp), ?_⟩
    rfl
  · intro v p h
    simp only [ofJson?, Option.bind_eq_bind, bind_eq_some_iff, Option.pure_def,
      Option.some.injEq] at h
    obtain ⟨_, -, _, hevents, _, hnext, _, -, rfl⟩ := h
    constructor
    case events => exact Event.roundTrips.list.fits_required hevents
    case next => exact roundTrips_eventId.fits_required hnext

end Page

theorem Filter.roundTrips : RoundTrips Filter.toJson Filter.ofJson? Always := by
  refine .always fun q => ?_
  unfold ofJson? toJson
  refine decode_record (by simp) fun f hf => ?_
  refine bind_eq_some_iff.mpr ⟨q.org, hf.optional_always roundTrips_org nofun (by simp), ?_⟩
  refine bind_eq_some_iff.mpr ⟨q.kind,
    hf.optional_always roundTrips_aggregateKind nofun (by simp), ?_⟩
  refine bind_eq_some_iff.mpr ⟨q.aggregateId,
    hf.optional_always roundTrips_text nofun (by simp), ?_⟩
  refine bind_eq_some_iff.mpr ⟨q.type, hf.optional_always roundTrips_text nofun (by simp), ?_⟩
  rfl

theorem Scope.roundTrips : RoundTrips Scope.toJson Scope.ofJson? Always := by
  refine .always fun s => ?_
  cases s with
  | org o =>
    unfold ofJson? toJson
    refine decode_record (by simp) fun f hf => ?_
    refine bind_eq_some_iff.mpr ⟨"org", ?_, ?_⟩
    · rw [Json.Fields.required, hf ("kind", .text "org") (by simp)]
      rfl
    · rw [hf ("org_id", o.toJson) (by simp)]
      show (OrgId.ofJson? o.toJson).map Scope.org = some (.org o)
      rw [roundTrips_org.decode_encode o trivial, Option.map_some]
  | internal => rfl
  | elevated => rfl

/-! ## Checkpoints -/

namespace Checkpoint

structure Representable (c : Checkpoint) : Prop where
  position : c.position < 2 ^ 64
  updatedAt : c.updatedAt.Showable

theorem roundTrips : RoundTrips toJson ofJson? Representable := by
  refine .of ?_ ?_
  · intro c hc
    unfold ofJson? toJson
    refine decode_record (by simp) fun f hf => ?_
    refine bind_eq_some_iff.mpr ⟨c.consumer, hf.required roundTrips_text trivial (by simp), ?_⟩
    refine bind_eq_some_iff.mpr ⟨c.position,
      hf.required roundTrips_eventId hc.position (by simp), ?_⟩
    refine bind_eq_some_iff.mpr ⟨c.updatedAt,
      hf.required roundTrips_instant hc.updatedAt (by simp), ?_⟩
    rfl
  · intro v c h
    simp only [ofJson?, Option.bind_eq_bind, bind_eq_some_iff, Option.pure_def,
      Option.some.injEq] at h
    obtain ⟨_, -, _, -, _, hposition, _, hupdatedAt, rfl⟩ := h
    constructor
    case position => exact roundTrips_eventId.fits_required hposition
    case updatedAt => exact roundTrips_instant.fits_required hupdatedAt

end Checkpoint

/-! ## Records of requests -/

theorem Guard.Key.roundTrips : RoundTrips Guard.Key.toJson Guard.Key.ofJson? Always := by
  refine .always fun k => ?_
  unfold ofJson? toJson
  refine decode_record (by simp) fun f hf => ?_
  refine bind_eq_some_iff.mpr ⟨k.scope, hf.required roundTrips_text trivial (by simp), ?_⟩
  refine bind_eq_some_iff.mpr ⟨k.actor, hf.required roundTrips_text trivial (by simp), ?_⟩
  refine bind_eq_some_iff.mpr ⟨k.endpoint, hf.required roundTrips_text trivial (by simp), ?_⟩
  refine bind_eq_some_iff.mpr ⟨k.key, hf.required roundTrips_text trivial (by simp), ?_⟩
  rfl

namespace Response

structure Representable (r : Response) : Prop where
  status : r.status < 2 ^ 16
  body : ∀ v ∈ r.body, v ≠ .null

theorem roundTrips : RoundTrips toJson ofJson? Representable := by
  refine .of ?_ ?_
  · intro r hr
    unfold ofJson? toJson
    refine decode_record (by simp) fun f hf => ?_
    refine bind_eq_some_iff.mpr ⟨r.status,
      hf.required (roundTrips_nat (2 ^ 16)) hr.status (by simp), ?_⟩
    refine bind_eq_some_iff.mpr ⟨r.body, ?_, rfl⟩
    exact hf.optional roundTrips_payload hr.body (fun _ _ => trivial) (by simp)
  · intro v r h
    simp only [ofJson?, Option.bind_eq_bind, bind_eq_some_iff, Option.pure_def,
      Option.some.injEq] at h
    obtain ⟨_, -, _, hstatus, body, hbody, rfl⟩ := h
    constructor
    case status => exact (roundTrips_nat (2 ^ 16)).fits_required hstatus
    case body =>
      intro v hv
      obtain ⟨_, hnull, heq⟩ := exists_of_optional hbody v hv
      cases heq
      exact hnull

end Response

namespace Guard.Record

structure Representable (r : Record) : Prop where
  response : ∀ answer ∈ r.response, answer.Representable
  createdAt : r.createdAt.Showable

theorem roundTrips : RoundTrips toJson ofJson? Representable := by
  refine .of ?_ ?_
  · intro r hr
    unfold ofJson? toJson
    refine decode_record (by simp) fun f hf => ?_
    refine bind_eq_some_iff.mpr ⟨r.key, hf.required Key.roundTrips trivial (by simp), ?_⟩
    refine bind_eq_some_iff.mpr ⟨r.hash, hf.required roundTrips_text trivial (by simp), ?_⟩
    refine bind_eq_some_iff.mpr ⟨r.response,
      hf.optional Response.roundTrips nofun hr.response (by simp), ?_⟩
    refine bind_eq_some_iff.mpr ⟨r.createdAt,
      hf.required roundTrips_instant hr.createdAt (by simp), ?_⟩
    rfl
  · intro v r h
    simp only [ofJson?, Option.bind_eq_bind, bind_eq_some_iff, Option.pure_def,
      Option.some.injEq] at h
    obtain ⟨_, -, _, -, _, -, _, hresponse, _, hcreatedAt, rfl⟩ := h
    constructor
    case response => exact Response.roundTrips.fits_optional hresponse
    case createdAt => exact roundTrips_instant.fits_required hcreatedAt

end Guard.Record

/-- **Decoding undoes encoding for everything that the log exchanges**, and what was decoded is
decoded again from its encoding.

Of the instants with a text, leap seconds that are not at the end of their minute are left out
(`Instant.Showable`): no clock shows them, their text is that of the second after them, and decoding
never leads to one. Numbers are bounded by the bits that they are kept in, and a response without a
body is written like one whose body is `null`; the second half needs no condition, as decoding keeps
to all of these. -/
theorem roundTrips_exchanged :
    RoundTrips Event.toJson Event.ofJson? Event.Representable ∧
    RoundTrips Draft.toJson Draft.ofJson? Draft.Representable ∧
    RoundTrips Envelope.toJson Envelope.ofJson? Envelope.Representable ∧
    RoundTrips Page.toJson Page.ofJson? Page.Representable ∧
    RoundTrips Filter.toJson Filter.ofJson? Always ∧
    RoundTrips Scope.toJson Scope.ofJson? Always ∧
    RoundTrips Checkpoint.toJson Checkpoint.ofJson? Checkpoint.Representable ∧
    RoundTrips Guard.Record.toJson Guard.Record.ofJson? Guard.Record.Representable :=
  ⟨Event.roundTrips, Draft.roundTrips, Envelope.roundTrips, Page.roundTrips, Filter.roundTrips,
    Scope.roundTrips, Checkpoint.roundTrips, Guard.Record.roundTrips⟩

/-- The last number that an event can have, in the leap second at the end of 2016, caused by another
event. -/
def Sample.yearEnd : Event :=
  .ofDraft (2 ^ 64 - 1) account 3
    { posting with
      occurredAt := ⟨1483228799, 1500000000⟩
      provenance := { posting.provenance with causation := some 4 } }

theorem roundTrips_exchanged_yearEnd :
    Sample.yearEnd.Representable ∧ Event.ofJson? Sample.yearEnd.toJson = some Sample.yearEnd := by
  have hcausation : Sample.yearEnd.provenance.Representable := by
    intro n hn
    obtain rfl := Option.some.inj hn
    decide
  have hfits : Sample.yearEnd.Representable :=
    ⟨by decide, ⟨by decide, by decide, by decide +kernel⟩, by decide, by decide, hcausation⟩
  exact ⟨hfits, roundTrips_exchanged.1.decode_encode _ hfits⟩

example : (Checkpoint.ofJson?
      (.list [.text "orders", .int 3, .text "2024-01-01 02:00:00.250+02:00"])).map
    Checkpoint.toJson =
      some (.object [("consumer", .text "orders"), ("last_applied_event_id", .int 3),
      ("updated_at", .text "2024-01-01T00:00:00.250Z")]) := by
  decide +kernel

end Journal
