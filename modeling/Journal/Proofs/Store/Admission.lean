import Journal.Proofs.Event.WellFormed
import Journal.Proofs.Store.Operation

/-!
# What reaches the log

Events come to the log on two ways, by themselves and as the effect of a command, and on the second
way they are given the command's key before they are looked at. Both ways lead through the check of
batches, and what was checked is what is written: `log_perform_cases` says this of every operation.

**Whatever is done with a store, each event in its log is well formed, and its payload has no name
of secret material at any depth** (`wellFormed_after`). That holds also of the events of a command
that crashed, which stay in a log that nobody can read any more.
-/

namespace Journal

namespace Store

variable {s : Store}

/-- **What an operation does to the log**: nothing, or it writes a batch that has passed the
check. -/
theorem log_perform_cases (op : Operation) (s : Store) :
    (op.perform s).2.log = s.log ∨
      ∃ a drafts, Batch.check drafts = .ok () ∧
      (op.perform s).2.log = (s.log.extend a drafts).2 := by
  cases op with
  | append a expected drafts =>
    rcases append_cases s a expected drafts with ⟨e, h⟩ | ⟨hcheck, _, _, h⟩
    · exact Or.inl (congrArg (·.2.log) h)
    · exact Or.inr ⟨a, drafts, hcheck, congrArg (·.2.log) h⟩
  | commit c now =>
    rcases commit_cases s c now with
      ⟨e, h⟩ | ⟨_, _, h⟩ | ⟨hadmits, _, _, _, _, h⟩ | ⟨hadmits, _, _, h⟩
    · exact Or.inl (congrArg (·.2.log) h)
    · exact Or.inl (congrArg (·.2.log) h)
    · exact Or.inr ⟨c.aggregate, c.drafts, hadmits.wellFormed, congrArg (·.2.log) h⟩
    · exact Or.inr ⟨c.aggregate, c.drafts, hadmits.wellFormed, congrArg (·.2.log) h⟩
  | reserve k hash now =>
    rw [Operation.perform, reserve]
    split
    · exact Or.inl rfl
    · exact Or.inl rfl
  | record k hash response now =>
    rw [Operation.perform, record]
    split
    · exact Or.inl rfl
    · cases s.guard.record k hash response now with
      | error e => exact Or.inl rfl
      | ok guard => exact Or.inl rfl
  | release k hash =>
    rw [Operation.perform, release]
    split
    · exact Or.inl rfl
    · exact Or.inl rfl
  | purge asked now =>
    rw [Operation.perform, purge]
    split
    · exact Or.inl rfl
    · exact Or.inl rfl
  | read | history | latest | head | size | find => exact Or.inl rfl

def Admitted (s : Store) : Prop := ∀ e ∈ s.log.toList, e.draft.WellFormed

theorem Admitted.perform (h : s.Admitted) (op : Operation) : (op.perform s).2.Admitted := by
  intro e he
  rcases log_perform_cases op s with hlog | ⟨a, drafts, hcheck, hlog⟩
  · rw [hlog] at he
    exact h e he
  · rw [hlog, Log.toList_extend] at he
    rcases List.mem_append.mp he with hold | hnew
    · exact h e hold
    · have hdraft : e.draft ∈ drafts := Log.map_draft_number a _ _ drafts ▸ List.mem_map_of_mem hnew
      exact ((Batch.check_eq_ok_iff drafts).mp hcheck).2 e.draft hdraft

theorem Admitted.after (h : s.Admitted) (ops : List Operation) : (s.after ops).Admitted := by
  induction ops generalizing s with
  | nil => exact h
  | cons op ops ih => exact ih (h.perform op)

/-- **Nothing secret and nothing malformed reaches the log**: the search for secret material finds
nothing exactly when there is nothing to be found, and each event of every reachable log is well
formed. That holds also of what a command wrote whose code crashed afterwards. -/
theorem wellFormed_after (policy : Policy) (ops : List Operation) :
    (∀ path v, Secret.path? path v = none ↔ ∀ name, v.HasName name → ¬ Secret.NamesSecret name) ∧
      ∀ e ∈ ((empty policy).after ops).log.toList, e.draft.WellFormed := by
  have hempty : (empty policy).Admitted := fun e he => absurd he List.not_mem_nil
  exact ⟨Secret.path?_eq_none_iff, hempty.after ops⟩

/-- The payment of the quarter is in the log, under the key of its command. -/
theorem wellFormed_payment :
    Event.ofDraft 4 Sample.account 3 (Sample.posting.underKey "k1") ∈
        ((empty .standard).after Sample.quarter).log.toList ∧
      (Sample.posting.underKey "k1").WellFormed := by
  have hmem : Event.ofDraft 4 Sample.account 3 (Sample.posting.underKey "k1") ∈
      ((empty .standard).after Sample.quarter).log.toList := by decide +kernel
  exact ⟨hmem, (wellFormed_after .standard Sample.quarter).2 _ hmem⟩

end Store

end Journal
