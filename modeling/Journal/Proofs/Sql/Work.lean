import Journal.Sql.Log

/-!
# Running work on a database

`Work.against` answers the questions of work from a state, with whatever answers them: a database,
one with faults, or one of which nothing is known. The lemmas here say what each way to put work
together comes to, so that no proof about work has to look at the tree of its questions.

**A transaction comes to one of six things** (`against_transaction`), and only after one of them has
something been kept.
-/

namespace Journal.Sql

namespace Work

variable {σ ε ε' α β : Type} {answer : (q : calls.Ask) → σ → calls.Answer q × σ} {s t : σ}

/-- What work comes to, and the state in which it leaves whoever answers it. -/
def against (answer : (q : calls.Ask) → σ → calls.Answer q × σ) (w : Work ε α) (s : σ) :
    Except ε α × σ :=
  w.run.run answer s

theorem against_lift (r : Except ε α) (s : σ) : (liftM r : Work ε α).against answer s = (r, s) :=
  rfl

theorem against_bind (w : Work ε α) (f : α → Work ε β) (s : σ) :
    (w >>= f).against answer s = match w.against answer s with
      | (.ok a, t) => (f a).against answer t
      | (.error e, t) => (.error e, t) := by
  refine (Program.run_bind answer w.run _ s).trans ?_
  change _ = match w.run.run answer s with
    | (.ok a, t) => (f a).against answer t
    | (.error e, t) => (.error e, t)
  rcases w.run.run answer s with ⟨_ | a, t⟩
  · rfl
  · rfl

theorem of_bind_eq_ok {w : Work ε α} {f : α → Work ε β} {b : β} {u : σ}
    (h : (w >>= f).against answer s = (.ok b, u)) :
    ∃ a t, w.against answer s = (.ok a, t) ∧ (f a).against answer t = (.ok b, u) := by
  rw [against_bind] at h
  rcases hw : w.against answer s with ⟨e | a, t⟩
  · rw [hw] at h
    cases h
  · rw [hw] at h
    exact ⟨a, t, rfl, h⟩

theorem against_mapError (f : ε → ε') (w : Work ε α) (s : σ) :
    (w.mapError f).against answer s = ((w.against answer s).1.mapError f,
      (w.against answer s).2) := by
  rw [against, mapError, ExceptT.run_mk]
  exact Program.run_bind answer _ _ s

theorem against_ask (q : Statement) (next : Except Error q.Answer → Program calls (Except ε α))
    (s : σ) :
    against answer (ExceptT.mk (.ask (.execute q) next)) s =
      against answer (ExceptT.mk (next (answer (.execute q) s).1)) (answer (.execute q) s).2 := rfl

theorem against_execute (operation : String) (q : Statement) (s : σ) :
    (execute operation q).against answer s =
      ((answer (.execute q) s).1.mapError (Error.report operation), (answer (.execute q) s).2) :=
  rfl

theorem against_transaction (report : String → Error → ε) (work : Work ε (Ending ε α)) (s : σ) :
    (transaction report work).against answer s = match answer (.execute .start) s with
      | (.error e, s) => (.error (report "begin_transaction" e), s)
      | (.ok _, s) => match work.against answer s with
        | (.error e, s) => (.error e, (answer .abandon s).2)
        | (.ok (.commit a), s) => match answer (.execute .commit) s with
          | (.error e, s) => (.error (report "commit_transaction" e), (answer .abandon s).2)
          | (.ok _, s) => (.ok a, s)
        | (.ok (.rollback r), s) => match answer (.execute .rollback) s with
          | (.error e, s) => (.error (report "rollback" e), (answer .abandon s).2)
          | (.ok _, s) => (r, s) := by
  rw [against, transaction, ExceptT.run_mk]
  dsimp only [Program.run]
  rcases answer (.execute .start) s with ⟨e | _, s⟩
  · rfl
  · dsimp only
    rw [Program.run_bind, against]
    rcases work.run.run answer s with ⟨e | a | r, s⟩
    · rfl
    · dsimp only [Program.run]
      rcases answer (.execute .commit) s with ⟨e | _, s⟩
      · rfl
      · rfl
    · dsimp only [Program.run]
      rcases answer (.execute .rollback) s with ⟨e | _, s⟩
      · rfl
      · rfl

end Work

end Journal.Sql
