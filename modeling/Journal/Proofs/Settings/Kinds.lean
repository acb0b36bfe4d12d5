import Journal.Proofs.Event.WellFormed
import Journal.Settings

/-!
# The kinds that settings list

A list with commas is read part by part: blanks around a part are dropped, and a part that is blank
is no part of the list (`mem_listed_iff`). Either every part is a name without fault, and the policy
has the kinds of these names in their order and each once, or the list is refused (`mapM_parse`,
`names_ofKinds`).
-/

namespace Journal

/-! ## Parts -/

theorem Text.separated_eq_splitOn (mark : Char) (cs : List Char) :
    separated mark cs = cs.splitOn mark := by
  induction cs with
  | nil => rfl
  | cons c cs ih =>
    rw [separated, ih, List.splitOn, List.splitOn, List.splitOnP_cons_eq_if_modifyHead]
    by_cases hc : c = mark
    · simp [hc]
    · cases hparts : cs.splitOnP (· == mark) with
      | nil => exact absurd hparts (List.splitOnP_ne_nil _ _)
      | cons part parts => simp [hc]

namespace Settings

/-- The name is a part of a list with commas, without the blanks around it, and is not blank. -/
def Lists (s name : String) : Prop :=
  name ≠ "" ∧ ∃ part ∈ s.toList.splitOn ',', Text.trim (String.ofList part) = name

theorem mem_listed_iff {s name : String} : name ∈ listed s ↔ Lists s name := by
  simp only [listed, Lists, Text.separated_eq_splitOn, List.mem_filter, List.mem_map,
    Bool.not_eq_true', String.isEmpty_eq_false_iff]
  exact and_comm

end Settings

/-! ## Names -/

theorem AggregateKind.parse_eq (name : String) :
    (∃ k : AggregateKind, parse name = .ok k ∧ k.name = name ∧ Name.WellFormed name) ∨
      ∃ e, parse name = .error e ∧ ¬ Name.WellFormed name := by
  rw [← Name.fault?_eq_none_iff]
  unfold parse
  split
  · next h => exact Or.inl ⟨⟨name, h⟩, rfl, rfl, h⟩
  · next f h => exact Or.inr ⟨_, rfl, by simp [h]⟩

/-- Either all names are names of kinds, or one of them is not. -/
theorem AggregateKind.mapM_parse (names : List String) :
    (∃ kinds : List AggregateKind, names.mapM parse = .ok kinds ∧ kinds.map (·.name) = names ∧
      ∀ name ∈ names, Name.WellFormed name) ∨
      ∃ e, names.mapM parse = .error e ∧ ∃ name ∈ names, ¬ Name.WellFormed name := by
  induction names with
  | nil => exact Or.inl ⟨[], rfl, rfl, by simp⟩
  | cons name rest ih =>
    rw [List.mapM_cons]
    rcases parse_eq name with ⟨k, hk, hname, hgood⟩ | ⟨e, he, hbad⟩
    · rw [hk]
      rcases ih with ⟨kinds, hkinds, hnames, hall⟩ | ⟨e, he, bad, hmem, hbad⟩
      · refine Or.inl ⟨k :: kinds, by rw [hkinds]; rfl, by rw [List.map_cons, hname, hnames], ?_⟩
        exact List.forall_mem_cons.mpr ⟨hgood, hall⟩
      · exact Or.inr ⟨e, by rw [he]; rfl, bad, List.mem_cons_of_mem _ hmem, hbad⟩
    · exact Or.inr ⟨e, by rw [he]; rfl, name, List.mem_cons_self, hbad⟩

/-! ## Policies -/

namespace Policy

variable {k l : AggregateKind} {ks : List AggregateKind}

theorem mem_insertKind : l ∈ insertKind k ks ↔ l = k ∨ l ∈ ks := by
  induction ks with
  | nil => simp [insertKind]
  | cons m ks ih =>
    rw [insertKind]
    split
    · exact List.mem_cons
    · split
      · next h => simp [h]
      · rw [List.mem_cons, List.mem_cons, ih]
        exact or_left_comm

/-- A kind is put in its place in the order of names. -/
theorem pairwise_insertKind (h : (ks.map (·.name)).Pairwise (· < ·)) :
    ((insertKind k ks).map (·.name)).Pairwise (· < ·) := by
  induction ks with
  | nil => simp [insertKind]
  | cons m ks ih =>
    rw [List.map_cons, List.pairwise_cons] at h
    rw [insertKind]
    split
    · next hlt =>
      rw [List.map_cons, List.map_cons, List.pairwise_cons, List.pairwise_cons]
      refine ⟨?_, h⟩
      intro name hname
      rcases List.mem_cons.mp hname with rfl | hname
      · exact hlt
      · exact String.lt_trans hlt (h.1 name hname)
    · next hnot =>
      split
      · rw [List.map_cons, List.pairwise_cons]
        exact h
      · next hne =>
        have hnames : k.name ≠ m.name := by
          intro heq
          obtain ⟨name, hk⟩ := k
          obtain ⟨name', hm⟩ := m
          obtain rfl : name = name' := heq
          exact hne rfl
        rw [List.map_cons, List.pairwise_cons]
        refine ⟨?_, ih h.2⟩
        intro name hname
        obtain ⟨l, hl, rfl⟩ := List.mem_map.mp hname
        rcases mem_insertKind.mp hl with rfl | hl
        · exact Std.lt_of_le_of_ne (Std.not_lt.mp hnot) (Ne.symm hnames)
        · exact h.1 _ (List.mem_map_of_mem hl)

theorem names_ofKinds (ks : List AggregateKind) :
    (((ofKinds ks).kinds.map (·.name)).Nodup) ∧ ∀ k, k ∈ (ofKinds ks).kinds ↔ k ∈ ks := by
  suffices ∀ acc : List AggregateKind, (acc.map (·.name)).Pairwise (· < ·) →
      ((ks.foldl (fun acc k => insertKind k acc) acc).map (·.name)).Pairwise (· < ·) ∧
        ∀ k, k ∈ ks.foldl (fun acc k => insertKind k acc) acc ↔ k ∈ ks ∨ k ∈ acc by
    obtain ⟨hsorted, hmem⟩ := this [] List.Pairwise.nil
    refine ⟨hsorted.imp fun hlt heq => ?_, fun k => (hmem k).trans (by simp)⟩
    rw [heq] at hlt
    exact String.lt_irrefl _ hlt
  induction ks with
  | nil =>
    intro acc hacc
    exact ⟨hacc, by simp⟩
  | cons k ks ih =>
    intro acc hacc
    obtain ⟨hsorted, hmem⟩ := ih (insertKind k acc) (pairwise_insertKind hacc)
    refine ⟨hsorted, fun l => ?_⟩
    rw [List.foldl_cons, hmem, mem_insertKind, List.mem_cons, or_assoc]
    exact or_left_comm

end Policy

end Journal
