import Journal.Guard.Hash
import Journal.Proofs.Json.Canonical

/-!
# The hash tells the request

**Two requests are hashed from the same bytes exactly when they are made at one endpoint and are
alike** (`hashedBytes_eq_iff`). The name of an endpoint may have line breaks and the canonical text
has none, so it is the last line break that separates them.
-/

namespace Journal.Guard

variable {e f : String} {v w : Json}

theorem hashedBytes_eq_iff_chars :
    hashedBytes e v = hashedBytes f w ↔ hashedChars e v = hashedChars f w := by
  rw [hashedBytes, hashedBytes, Array.toList_inj, ← ByteArray.ext_iff, String.toUTF8_eq_toByteArray,
    String.toUTF8_eq_toByteArray, String.toByteArray_inj, String.ofList_inj]

/-- What stands after the last of the marks does not have it. -/
theorem append_mark_inj {mark : Char} {as as' bs bs' : List Char} (hbs : mark ∉ bs)
    (hbs' : mark ∉ bs') (h : as ++ mark :: bs = as' ++ mark :: bs') : as = as' ∧ bs = bs' := by
  rcases List.append_eq_append_iff.mp h with ⟨cs, rfl, hrest⟩ | ⟨cs, rfl, hrest⟩
  · cases cs with
    | nil => exact ⟨(List.append_nil as).symm, (List.cons.inj hrest).2⟩
    | cons c cs =>
      rw [(List.cons.inj hrest).2] at hbs
      exact absurd (List.mem_append_right cs List.mem_cons_self) hbs
  · cases cs with
    | nil => exact ⟨List.append_nil as', (List.cons.inj hrest).2.symm⟩
    | cons c cs =>
      rw [(List.cons.inj hrest).2] at hbs'
      exact absurd (List.mem_append_right cs List.mem_cons_self) hbs'

/-- **Requests are hashed from the same bytes exactly when they are made at one endpoint and are
alike.** -/
theorem hashedBytes_eq_iff (hv : v.WellFormed) (hw : w.WellFormed) :
    hashedBytes e v = hashedBytes f w ↔ e = f ∧ v.Alike w := by
  rw [hashedBytes_eq_iff_chars, ← Json.canonical_eq_iff hv hw]
  constructor
  · intro h
    obtain ⟨hendpoint, hrequest⟩ :=
      append_mark_inj (Json.newline_notMem_canonical v hv) (Json.newline_notMem_canonical w hw) h
    exact ⟨String.toList_inj.mp hendpoint, hrequest⟩
  · rintro ⟨rfl, hrequest⟩
    rw [hashedChars, hashedChars, hrequest]

def scaling : Json :=
  .object [("meta", .object [("b", .bool true), ("a", .null)]), ("replicas", .int 1)]

def scalingAgain : Json :=
  .object [("replicas", .float 1.0), ("meta", .object [("a", .null), ("b", .bool true)])]

theorem wellFormed_scaling : scaling.WellFormed := by
  simp [scaling, Json.WellFormed, Json.WellFormedMembers]

theorem wellFormed_scalingAgain : scalingAgain.WellFormed := by
  simp [scalingAgain, Json.WellFormed, Json.WellFormedMembers]
  rfl

theorem alike_scaling : scaling.Alike scalingAgain := by
  have hmeta : Json.Alike (.object [("b", .bool true), ("a", .null)])
      (.object [("a", .null), ("b", .bool true)]) :=
    .object (.cons [("a", .null)] [] (.bool true) (.cons [] [] .null .nil))
  have hreplicas : Json.Alike (.int 1) (.float 1.0) := .number rfl rfl rfl
  exact .object (.cons [("replicas", .float 1.0)] [] hmeta (.cons [] [] hreplicas .nil))

/-- Both are hashed from the same bytes at an endpoint with a line break in its name, and not at
another. The members of one stand in another order at both levels, and a number is written
otherwise. -/
theorem hashedBytes_scaling : scaling.WellFormed ∧ scalingAgain.WellFormed ∧
    hashedBytes "apps\nscale" scaling = hashedBytes "apps\nscale" scalingAgain ∧
    hashedBytes "apps" scaling ≠ hashedBytes "apps\nscale" scalingAgain := by
  have hiff := fun e f => hashedBytes_eq_iff (e := e) (f := f) wellFormed_scaling
    wellFormed_scalingAgain
  refine ⟨wellFormed_scaling, wellFormed_scalingAgain,
    (hiff _ _).mpr ⟨rfl, alike_scaling⟩, fun h => ?_⟩
  exact absurd ((hiff _ _).mp h).1 (by decide)

end Journal.Guard
