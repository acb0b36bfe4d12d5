import Journal.Event.Batch
import Journal.Proofs.Event.Secret

/-!
# What a batch is checked for

The check of a batch names the first thing that is wrong with it, and goes through its rules in an
order of its own. `Draft.WellFormed` puts the rules side by side instead, as they hold of a draft
with which nothing is wrong.

**A batch passes the check exactly when it is not empty and each of its drafts is well formed**
(`check_eq_ok_iff`): no rule is left out, and no draft is refused for anything else.
-/

namespace Journal

/-- A dotted name: short, of few characters, with no dot at either end. -/
structure Name.WellFormed (name : String) : Prop where
  nonempty : name ≠ ""
  short : name.utf8ByteSize ≤ 64
  chars : ∀ c ∈ name.toList, ('a' ≤ c ∧ c ≤ 'z') ∨ ('0' ≤ c ∧ c ≤ '9') ∨ c = '_' ∨ c = '.'
  front : name.toList.head? ≠ some '.'
  back : name.toList.getLast? ≠ some '.'

/-- There is no fault in a rule and none in the rules after it. -/
theorem ite_some_eq_none_iff {α : Type} {p : Prop} [Decidable p] {a : α} {rest : Option α} :
    (if p then some a else rest) = none ↔ ¬ p ∧ rest = none := by
  by_cases h : p
  · rw [if_pos h]
    exact iff_of_false (by rintro ⟨⟩) fun hnot => hnot.1 h
  · rw [if_neg h]
    exact (and_iff_right h).symm

theorem Name.isNameChar_iff (c : Char) :
    isNameChar c = true ↔ ('a' ≤ c ∧ c ≤ 'z') ∨ ('0' ≤ c ∧ c ≤ '9') ∨ c = '_' ∨ c = '.' := by
  simp [isNameChar, or_assoc]

theorem Name.fault?_eq_none_iff (name : String) : fault? name = none ↔ WellFormed name := by
  rw [fault?, ite_some_eq_none_iff, ite_some_eq_none_iff, List.isEmpty_iff,
    String.toList_eq_nil_iff]
  constructor
  · rintro ⟨hnonempty, hshort, hform⟩
    split at hform
    · next h =>
      simp only [Bool.and_eq_true, List.all_eq_true, isNameChar_iff, bne_iff_ne] at h
      exact ⟨hnonempty, Nat.not_lt.mp hshort, h.1.1, h.1.2, h.2⟩
    · cases hform
  · intro h
    refine ⟨h.nonempty, Nat.not_lt.mpr h.short, if_pos ?_⟩
    simp only [Bool.and_eq_true, List.all_eq_true, isNameChar_iff, bne_iff_ne]
    exact ⟨⟨h.chars, h.front⟩, h.back⟩

namespace Draft

structure WellFormed (d : Draft) : Prop where
  type : Name.WellFormed d.type
  version : 1 ≤ d.version
  actor : Text.trim d.provenance.actor ≠ ""
  request : d.provenance.request.uuid ≠ .nil
  key : ∀ k ∈ d.provenance.idempotencyKey, Text.trim k ≠ "" ∧ k.utf8ByteSize ≤ 255
  object : ∃ members, d.payload = .object members
  harmless : ∀ name, d.payload.HasName name → ¬ Secret.NamesSecret name

theorem isAcceptableKey_iff (key : Option String) :
    isAcceptableKey key = true ↔ ∀ k ∈ key, Text.trim k ≠ "" ∧ k.utf8ByteSize ≤ 255 := by
  cases key with
  | none => simp [isAcceptableKey]
  | some k =>
    simp only [isAcceptableKey, Bool.and_eq_true, Bool.not_eq_true', decide_eq_true_eq, ne_eq,
      Text.trim_isEmpty_iff, Bool.not_eq_true, Option.mem_some, forall_eq']
    exact Iff.rfl

theorem isObject_iff (v : Json) : v.isObject = true ↔ ∃ members, v = .object members := by
  cases v with
  | object members => exact iff_of_true rfl ⟨members, rfl⟩
  | null | bool | int | float | text | list => exact iff_of_false (by rintro ⟨⟩) (by rintro ⟨_, ⟨⟩⟩)

theorem fault?_eq_none_iff (d : Draft) : d.fault? = none ↔ d.WellFormed := by
  have hactor : Text.blank d.provenance.actor = true ↔ Text.trim d.provenance.actor = "" :=
    Text.trim_isEmpty_iff.symm
  have hrequest :
      d.provenance.request.uuid.isNil = true ↔ d.provenance.request.uuid = .nil := beq_iff_eq
  rw [fault?]
  cases htype : Name.fault? d.type with
  | some f =>
    refine iff_of_false (by rintro ⟨⟩) fun h => ?_
    rw [(Name.fault?_eq_none_iff d.type).mpr h.type] at htype
    cases htype
  | none =>
    dsimp only
    rw [ite_some_eq_none_iff, ite_some_eq_none_iff, ite_some_eq_none_iff, ite_some_eq_none_iff,
      ite_some_eq_none_iff, Option.map_eq_none_iff, Secret.path?_eq_none_iff, hactor, hrequest,
      Bool.not_eq_true', Bool.not_eq_false, Bool.not_eq_true', Bool.not_eq_false,
      isAcceptableKey_iff, isObject_iff]
    constructor
    · rintro ⟨hversion, hactor, hrequest, hkey, hobject, hharmless⟩
      exact ⟨(Name.fault?_eq_none_iff d.type).mp htype, Nat.one_le_iff_ne_zero.mpr hversion, hactor,
        hrequest, hkey, hobject, hharmless⟩
    · intro h
      exact ⟨Nat.one_le_iff_ne_zero.mp h.version, h.actor, h.request, h.key, h.object, h.harmless⟩

end Draft

namespace Batch

theorem draftFault?_eq_none_iff (index : Nat) (drafts : List Draft) :
    draftFault? index drafts = none ↔ ∀ d ∈ drafts, d.WellFormed := by
  induction drafts generalizing index with
  | nil => simp [draftFault?]
  | cons d rest ih =>
    rw [List.forall_mem_cons, ← ih (index + 1), ← d.fault?_eq_none_iff, draftFault?]
    cases d.fault? with
    | none => simp
    | some f => simp

theorem fault?_eq_none_iff (drafts : List Draft) : fault? drafts = none ↔ drafts ≠ [] ∧
    ∀ d ∈ drafts, d.WellFormed := by
  cases drafts with
  | nil => simp [fault?]
  | cons d rest =>
    simp only [fault?, draftFault?_eq_none_iff, ne_eq, reduceCtorEq, not_false_eq_true, true_and]

/-- **A batch passes exactly when it is not empty and each of its drafts is well formed.** -/
theorem check_eq_ok_iff (drafts : List Draft) : check drafts = .ok () ↔ drafts ≠ [] ∧
    ∀ d ∈ drafts, d.WellFormed := by
  rw [← fault?_eq_none_iff, check]
  cases fault? drafts with
  | none => simp
  | some f => simp

end Batch

end Journal
