import Journal.Proofs.Sql.Guard

/-!
# A response that is not kept

To keep a response takes two statements where the first one changes no row: the response may have
been kept before, or the key belongs to another request, and the row that is fetched is to tell the
two apart. Other clients of the guard are not held up meanwhile. When the other request gives the
key up in between, no row is found, and that is taken for a response that had been kept.

**So a call may come to its end without an error although its response was at no moment in the
table** (`unkept_released`). `kept_of_ok_iff` says exactly when that cannot be: the call meets no
row of another request, or somebody else keeps a response of this request in between, or another
request has the key again when the row is fetched.
-/

namespace Journal.Sql

/-! ## Rows under their own keys -/

namespace Tables

variable {t : Tables} {k l : Guard.Key} {r : RecordRow} {hash : String}

/-- Each row of the table of records is found under the key in its columns. -/
def Filed (t : Tables) : Prop := ∀ columns, ∀ r ∈ t.records.get? columns, r.key = columns

theorem filed_of_empty (h : t.records = .empty) : t.Filed := by
  intro columns r hr
  rw [h] at hr
  cases hr

theorem Filed.key_eq (h : t.Filed) (hr : t.fetch k = some r) : r.key = .ofKey k := h (.ofKey k) r hr

theorem Filed.putRecord (h : t.Filed) (r : RecordRow) : (t.putRecord r).Filed := by
  intro columns found hfound
  change (t.records.insert r.key r).get? columns = some found at hfound
  rw [Keyed.get?_insert] at hfound
  by_cases hcolumns : columns = r.key
  · rw [if_pos hcolumns] at hfound
    rw [← Option.some.inj hfound, hcolumns]
  · rw [if_neg hcolumns] at hfound
    exact h columns found hfound

theorem Filed.filter (h : t.Filed) (p : KeyColumns → RecordRow → Bool) :
    Filed { t with records := t.records.filter p } := by
  intro columns found hfound
  change (t.records.filter p).get? columns = some found at hfound
  rw [Keyed.get?_filter] at hfound
  exact h columns found (Option.filter_eq_some_iff.mp hfound).1

def isKept (t : Tables) (k : Guard.Key) (hash : String) : Bool :=
  (t.fetch k).any fun r => r.hash == some hash && r.status.isSome

theorem isKept_congr {u : Tables} (h : u.fetch k = t.fetch k) : u.isKept k hash = t.isKept k hash :=
  congrArg (Option.any _) h

theorem isKept_putRecord_of_ne (h : r.key ≠ .ofKey k) :
    (t.putRecord r).isKept k hash = t.isKept k hash :=
  isKept_congr ((fetch_putRecord t r k).trans (if_neg h.symm))

theorem isKept_putRecord (h : r.key = .ofKey k) :
    (t.putRecord r).isKept k hash = (r.hash == some hash && r.status.isSome) :=
  congrArg (Option.any _) ((fetch_putRecord t r k).trans (if_pos h.symm))

theorem isKept_filter_of_not (h : t.isKept k hash = false) (p : KeyColumns → RecordRow → Bool) :
    isKept { t with records := t.records.filter p } k hash = false := by
  have hfetch : fetch { t with records := t.records.filter p } k = (t.fetch k).filter
      (p (.ofKey k)) :=
    Keyed.get?_filter t.records p (.ofKey k)
  rw [isKept] at h ⊢
  rw [hfetch]
  cases hr : t.fetch k with
  | none => rfl
  | some r =>
    rw [hr] at h
    cases hp : p (.ofKey k) r with
    | true => rw [Option.filter_some_pos hp, h]
    | false => rw [Option.filter_some_neg (by simp [hp]), Option.any_none]

end Tables

/-! ## Other clients -/

def Database.afterCalls (db : Database) (others : List (Instant × GuardCall)) : Database :=
  others.foldl (fun db o => (o.2.ofDatabase o.1 db).2) db

def Database.moments (db : Database) : List (Instant × GuardCall) → List Tables
  | [] => [db.tables]
  | o :: rest => db.tables :: moments (o.2.ofDatabase o.1 db).2 rest

/-- The call keeps a response to the request under the key: it meets no row, or the request's
reservation. -/
def GuardCall.Keeps (k : Guard.Key) (hash : String) (t : Tables) : GuardCall → Prop
  | .record l h _ => l = k ∧ h = hash ∧ (t.fetch k).all (Tables.isReservation hash) = true
  | _ => False

def Database.KeptIn (db : Database) (k : Guard.Key) (hash : String)
    (others : List (Instant × GuardCall)) : Prop :=
  ∃ before o since, others = before ++ o :: since ∧ o.2.Keeps k hash (db.afterCalls before).tables

variable {now : Instant} {db : Database} {k : Guard.Key} {hash : String} {response : Response}
  {others : List (Instant × GuardCall)}

theorem GuardCall.Keeps.unique {call : GuardCall} {t : Tables} {l : Guard.Key} {h : String}
    (first : call.Keeps k hash t) (second : call.Keeps l h t) : k = l ∧ hash = h := by
  cases call with
  | record _ _ _ => exact ⟨first.1.symm.trans second.1, first.2.1.symm.trans second.2.1⟩
  | _ => exact first.elim

theorem hash_of_isReservation {row : RecordRow} (h : Tables.isReservation hash row = true) :
    row.hash = some hash := by
  rw [Tables.isReservation, Bool.and_eq_true, beq_iff_eq] at h
  exact h.1

/-- **What a call does to the table of records**: it keeps a response, or it keeps none and does
nothing, removes rows or inserts a reservation. -/
theorem tables_ofDatabase_cases (filed : db.tables.Filed) (now : Instant) (call : GuardCall) :
    (∃ l h r, call.Keeps l h db.tables ∧ (call.ofDatabase now db).2.tables = db.tables.putRecord r ∧
      r.key = .ofKey l ∧ r.hash = some h ∧ r.status.isSome = true) ∨
    (∀ l h, ¬ call.Keeps l h db.tables) ∧
      ((call.ofDatabase now db).2.tables = db.tables ∨
        (∃ p, (call.ofDatabase now db).2.tables =
          { db.tables with records := db.tables.records.filter p }) ∨
        ∃ r, (call.ofDatabase now db).2.tables = db.tables.putRecord r ∧ r.status = none) := by
  cases call with
  | reserve l h =>
    refine Or.inr ⟨fun _ _ hkeeps => hkeeps, ?_⟩
    rw [GuardCall.ofDatabase, answering_reserve]
    cases db.tables.fetch l with
    | none => exact Or.inr (Or.inr ⟨.reserved l h now, rfl, rfl⟩)
    | some row => exact Or.inl rfl
  | record l h response =>
    rw [GuardCall.ofDatabase, answering_record]
    cases hfetch : db.tables.fetch l with
    | none =>
      refine Or.inl ⟨l, h, .completed l h response now, ⟨rfl, rfl, ?_⟩, rfl, rfl, rfl, rfl⟩
      rw [hfetch]
      rfl
    | some row =>
      dsimp only
      cases hreservation : Tables.isReservation h row with
      | true =>
        have hhash : row.hash = some h := hash_of_isReservation hreservation
        have hkey : row.key = .ofKey l := filed.key_eq hfetch
        let full : RecordRow :=
          { row with status := some (response.status : Int), body := response.body }
        refine Or.inl ⟨l, h, full, ⟨rfl, rfl, ?_⟩, rfl, hkey, hhash, rfl⟩
        rw [hfetch]
        exact hreservation
      | false =>
        refine Or.inr ⟨?_, Or.inl rfl⟩
        rintro _ _ ⟨rfl, rfl, hall⟩
        rw [hfetch, Option.all_some, hreservation] at hall
        cases hall
  | release l h =>
    refine Or.inr ⟨fun _ _ hkeeps => hkeeps, ?_⟩
    rw [GuardCall.ofDatabase, answering_release, Tables.release]
    cases db.tables.fetch l with
    | none => exact Or.inl rfl
    | some row =>
      dsimp only
      split
      · exact Or.inr (Or.inl ⟨_, rfl⟩)
      · exact Or.inl rfl
  | lookup l => exact Or.inr ⟨fun _ _ hkeeps => hkeeps, Or.inl rfl⟩
  | purge asked => exact Or.inr ⟨fun _ _ hkeeps => hkeeps, Or.inr (Or.inl ⟨_, rfl⟩)⟩

theorem filed_ofDatabase (filed : db.tables.Filed) (now : Instant) (call : GuardCall) :
    (call.ofDatabase now db).2.tables.Filed := by
  rcases tables_ofDatabase_cases filed now call with
    ⟨_, _, r, _, h, _⟩ | ⟨_, h | ⟨p, h⟩ | ⟨r, h, _⟩⟩
  · exact h ▸ filed.putRecord r
  · exact h ▸ filed
  · exact h ▸ filed.filter p
  · exact h ▸ filed.putRecord r

theorem isKept_of_keeps (filed : db.tables.Filed) (now : Instant) {call : GuardCall}
    (keeps : call.Keeps k hash db.tables) :
    (call.ofDatabase now db).2.tables.isKept k hash = true := by
  rcases tables_ofDatabase_cases filed now call with
    ⟨l, h, r, hkeeps, hafter, hkey, hhash, hstatus⟩ | ⟨hnone, _⟩
  · obtain ⟨rfl, rfl⟩ := keeps.unique hkeeps
    rw [hafter, Tables.isKept_putRecord hkey, hhash, hstatus, Bool.and_true, beq_self_eq_true]
  · exact absurd keeps (hnone k hash)

theorem isKept_ofDatabase_iff (filed : db.tables.Filed) (unkept : db.tables.isKept k hash = false)
    (now : Instant) (call : GuardCall) :
    (call.ofDatabase now db).2.tables.isKept k hash = true ↔ call.Keeps k hash db.tables := by
  refine ⟨fun hkept => ?_, isKept_of_keeps filed now⟩
  rcases tables_ofDatabase_cases filed now call with
    ⟨l, h, r, hkeeps, hafter, hkey, hhash, _⟩ | ⟨_, hafter | ⟨p, hafter⟩ | ⟨r, hafter, hstatus⟩⟩
  · rw [hafter] at hkept
    by_cases hl : l = k
    · subst hl
      rw [Tables.isKept_putRecord hkey, Bool.and_eq_true, beq_iff_eq, hhash] at hkept
      obtain rfl : h = hash := Option.some.inj hkept.1
      exact hkeeps
    · have hne : r.key ≠ .ofKey k := by
        rw [hkey]
        exact fun hsame => hl (KeyColumns.ofKey_eq_iff.mp hsame)
      rw [Tables.isKept_putRecord_of_ne hne, unkept] at hkept
      cases hkept
  · rw [hafter, unkept] at hkept
    cases hkept
  · rw [hafter, Tables.isKept_filter_of_not unkept] at hkept
    cases hkept
  · rw [hafter] at hkept
    by_cases hkey : r.key = .ofKey k
    · rw [Tables.isKept_putRecord hkey, hstatus, Option.isSome_none, Bool.and_false] at hkept
      cases hkept
    · rw [Tables.isKept_putRecord_of_ne hkey, unkept] at hkept
      cases hkept

/-! ## What the others do in between -/

theorem keptIn_cons_iff {o : Instant × GuardCall} {rest : List (Instant × GuardCall)} :
    db.KeptIn k hash (o :: rest) ↔ o.2.Keeps k hash db.tables ∨
    (o.2.ofDatabase o.1 db).2.KeptIn k hash rest := by
  constructor
  · rintro ⟨_ | ⟨first, before⟩, keeping, since, hothers, hkeeps⟩
    · obtain ⟨rfl, rfl⟩ := List.cons.inj hothers
      exact Or.inl hkeeps
    · obtain ⟨rfl, rfl⟩ := List.cons.inj hothers
      exact Or.inr ⟨before, keeping, since, rfl, hkeeps⟩
  · rintro (hkeeps | ⟨before, keeping, since, rfl, hkeeps⟩)
    · exact ⟨[], o, rest, rfl, hkeeps⟩
    · exact ⟨o :: before, keeping, since, rfl, hkeeps⟩

theorem mem_moments (db : Database) (others : List (Instant × GuardCall)) :
    db.tables ∈ db.moments others := by
  cases others with
  | nil => exact List.mem_singleton_self _
  | cons o rest => exact List.mem_cons_self

theorem afterCalls_mem_moments (db : Database) (others : List (Instant × GuardCall)) :
    (db.afterCalls others).tables ∈ db.moments others := by
  induction others generalizing db with
  | nil => exact List.mem_singleton_self _
  | cons o rest ih => exact List.mem_cons_of_mem _ (ih _)

/-- **A response is kept at some moment just when one of the others keeps one.** -/
theorem exists_kept_iff (filed : db.tables.Filed) (unkept : db.tables.isKept k hash = false)
    (others : List (Instant × GuardCall)) :
    (∃ t ∈ db.moments others, t.isKept k hash = true) ↔ db.KeptIn k hash others := by
  induction others generalizing db with
  | nil =>
    refine iff_of_false ?_ (by simp [Database.KeptIn])
    rintro ⟨t, ht, hkept⟩
    rw [List.mem_singleton.mp ht, unkept] at hkept
    cases hkept
  | cons o rest ih =>
    have hstep := isKept_ofDatabase_iff filed unkept o.1 o.2
    rw [keptIn_cons_iff, ← hstep, Database.moments, List.exists_mem_cons_iff, unkept]
    cases hafter : (o.2.ofDatabase o.1 db).2.tables.isKept k hash with
    | true => exact iff_of_true (Or.inr ⟨_, mem_moments _ rest, hafter⟩) (Or.inl rfl)
    | false =>
      rw [ih (filed_ofDatabase filed o.1 o.2) hafter]

/-! ## The call among others -/

/-- A database whose other clients have calls to make after the next statement, and its tables so
far. -/
structure Contended where
  db : Database
  others : List (Instant × GuardCall)
  seen : List Tables

def Contended.answer (now : Instant) (q : calls.Ask) (s : Contended) : calls.Answer q × Contended :=
  let (r, after) := answering now q s.db
  (r, ⟨after.afterCalls s.others, [], s.seen ++ after.moments s.others⟩)

/-- Keep a response while other clients make calls between the two statements: what the call comes
to, and the tables from its start to its end. -/
def recordAmong (now : Instant) (others : List (Instant × GuardCall)) (k : Guard.Key)
    (hash : String) (response : Response) (db : Database) : Except StoreError Unit × List Tables :=
  ((record k hash response).against (Contended.answer now) ⟨db, others, [db.tables]⟩).map
    id Contended.seen

theorem contended_recordHere (now : Instant) (k : Guard.Key) (hash : String) (response : Response)
    (s : Contended) :
    (recordHere k hash response).against (Contended.answer now) s =
      let after :=
        { s.db with tables := (s.db.tables.record k hash response.status response.body now).2 }
      (.ok (s.db.tables.record k hash response.status response.body now).1,
        ⟨after.afterCalls s.others, [], s.seen ++ after.moments s.others⟩) := rfl

theorem contended_lookup (now : Instant) (k : Guard.Key) (db : Database) (seen : List Tables) :
    (lookup k).against (Contended.answer now) ⟨db, [], seen⟩ =
      (readRecord (db.tables.fetch k).toList, ⟨db, [], seen ++ [db.tables]⟩) := rfl

/-- The call keeps its response with the first statement, and there is no other. -/
theorem recordAmong_of_free (free : (db.tables.fetch k).all (Tables.isReservation hash) = true)
    (now : Instant) (others : List (Instant × GuardCall)) (response : Response) :
    recordAmong now others k hash response db =
      (.ok (),
        db.tables :: (GuardCall.ofDatabase now (.record k hash response) db).2.moments others) := by
  rw [recordAmong, record_eq, Work.against_bind, contended_recordHere, GuardCall.ofDatabase,
    answering_record, Tables.record]
  cases hfetch : db.tables.fetch k with
  | none => rfl
  | some row =>
    rw [hfetch, Option.all_some] at free
    dsimp only
    rw [if_pos free, if_pos free]
    rfl

/-- The call meets a row that it does not change, and looks again when the others have made their
calls. -/
theorem recordAmong_of_taken (taken : (db.tables.fetch k).all (Tables.isReservation hash) = false)
    (now : Instant) (others : List (Instant × GuardCall)) (response : Response) :
    recordAmong now others k hash response db =
      ((readRecord ((db.afterCalls others).tables.fetch k).toList).bind (settle k hash),
        db.tables :: (db.moments others ++ [(db.afterCalls others).tables])) := by
  rw [recordAmong, record_eq, Work.against_bind, contended_recordHere, Tables.record]
  cases hfetch : db.tables.fetch k with
  | none =>
    rw [hfetch] at taken
    cases taken
  | some row =>
    rw [hfetch, Option.all_some] at taken
    dsimp only
    rw [if_neg (Bool.eq_false_iff.mp taken)]
    change Prod.map id Contended.seen (Work.against _ (lookup k >>= _) _) = _
    rw [Work.against_bind, contended_lookup]
    cases readRecord ((db.afterCalls others).tables.fetch k).toList with
    | error e => rfl
    | ok found => rfl

def Tables.Denies (t : Tables) (k : Guard.Key) (hash : String) : Prop :=
  ∃ row, t.fetch k = some row ∧ ∀ r, row.toRecord = .ok r → r.hash ≠ hash

theorem settles_iff (t : Tables) (k : Guard.Key) (hash : String) :
    (readRecord (t.fetch k).toList).bind (settle k hash) = .ok () ↔ ¬ t.Denies k hash := by
  rw [Tables.Denies]
  cases t.fetch k with
  | none => exact iff_of_true rfl (by simp)
  | some row =>
    rw [Option.toList_some, readRecord]
    cases hrow : row.toRecord with
    | error e =>
      refine iff_of_false (by rintro ⟨⟩) (not_not_intro ⟨row, rfl, fun r hr => ?_⟩)
      rw [hrow] at hr
      cases hr
    | ok r =>
      change settle k hash (some r) = .ok () ↔ _
      by_cases hhash : r.hash = hash
      · rw [settle, if_pos hhash]
        refine iff_of_true rfl ?_
        rintro ⟨_, hsame, hdenies⟩
        cases hsame
        exact hdenies r hrow hhash
      · rw [settle, if_neg hhash]
        refine iff_of_false (by rintro ⟨⟩) (not_not_intro ⟨row, rfl, fun other hother => ?_⟩)
        rw [hrow] at hother
        cases hother
        exact hhash

theorem isKept_of_hash {row : RecordRow} (hrow : db.tables.fetch k = some row)
    (hhash : row.hash = some hash) (taken : Tables.isReservation hash row = false) :
    db.tables.isKept k hash = true := by
  rw [Tables.isReservation, hhash, beq_self_eq_true, Bool.true_and] at taken
  rw [Tables.isKept, hrow, Option.any_some, hhash, beq_self_eq_true, Bool.true_and]
  exact Option.isNone_eq_false_iff.mp taken

/-- **When a call that ends without an error has its response kept, or one before it**: it meets no
row of another request, or one of the others keeps a response of this request, or the row that it
finds in the end is not one of this request, so that it ends with an error. -/
theorem kept_of_ok_iff (filed : db.tables.Filed) (now : Instant)
    (others : List (Instant × GuardCall)) (k : Guard.Key) (hash : String) (response : Response) :
    ((recordAmong now others k hash response db).1 = .ok () →
        ∃ t ∈ (recordAmong now others k hash response db).2, t.isKept k hash = true) ↔
      (∀ row ∈ db.tables.fetch k, row.hash = some hash) ∨ db.KeptIn k hash others ∨
        (db.afterCalls others).tables.Denies k hash := by
  cases hfree : (db.tables.fetch k).all (Tables.isReservation hash) with
  | true =>
    rw [recordAmong_of_free hfree]
    refine iff_of_true (fun _ => ?_) (Or.inl fun row hrow => ?_)
    · exact ⟨_, List.mem_cons_of_mem _ (mem_moments _ others),
        isKept_of_keeps filed now ⟨rfl, rfl, hfree⟩⟩
    · rw [Option.mem_def.mp hrow] at hfree
      exact hash_of_isReservation hfree
  | false =>
    rw [recordAmong_of_taken hfree]
    cases hrow : db.tables.fetch k with
    | none =>
      rw [hrow] at hfree
      cases hfree
    | some row =>
      rw [hrow, Option.all_some] at hfree
      by_cases hhash : row.hash = some hash
      · refine iff_of_true (fun _ => ?_) (Or.inl fun other hother => Option.some.inj hother ▸ hhash)
        exact ⟨db.tables, List.mem_cons_self, isKept_of_hash hrow hhash hfree⟩
      · have hunkept : db.tables.isKept k hash = false := by
          rw [Tables.isKept, hrow, Option.any_some, beq_false_of_ne hhash, Bool.false_and]
        -- The two looks of the call itself show nothing that is not among the moments of the
        -- others.
        have hmoments : (∃ t ∈ db.tables :: (db.moments others ++ [(db.afterCalls others).tables]),
            t.isKept k hash = true) ↔ ∃ t ∈ db.moments others, t.isKept k hash = true := by
          constructor
          · rintro ⟨t, ht, hkept⟩
            rw [List.mem_cons, List.mem_append, List.mem_singleton] at ht
            rcases ht with rfl | ht | rfl
            · exact ⟨_, mem_moments db others, hkept⟩
            · exact ⟨t, ht, hkept⟩
            · exact ⟨_, afterCalls_mem_moments db others, hkept⟩
          · rintro ⟨t, ht, hkept⟩
            exact ⟨t, List.mem_cons_of_mem _ (List.mem_append_left _ ht), hkept⟩
        have hother : ¬ ∀ r ∈ some row, r.hash = some hash := fun h => hhash (h row rfl)
        rw [settles_iff, hmoments, exists_kept_iff filed hunkept, or_iff_right hother, or_comm,
          Classical.or_iff_not_imp_left]

def reservedElsewhere : Database :=
  (GuardCall.ofDatabase Sample.noon (.reserve Sample.key "h2") .empty).2

theorem filed_reservedElsewhere : reservedElsewhere.tables.Filed :=
  filed_ofDatabase (Tables.filed_of_empty rfl) Sample.noon _

/-- Another client that has kept a response of the same request makes up for the key that was given
up. -/
theorem kept_of_ok_again :
    reservedElsewhere.tables.Filed ∧
      ((recordAmong Sample.noon
          [(Sample.noon, .release Sample.key "h2"),
            (Sample.noon, .record Sample.key "h1" ⟨200, none⟩)]
          Sample.key "h1" ⟨201, none⟩ reservedElsewhere).1 = .ok () →
        ∃ t ∈ (recordAmong Sample.noon
          [(Sample.noon, .release Sample.key "h2"),
            (Sample.noon, .record Sample.key "h1" ⟨200, none⟩)]
          Sample.key "h1" ⟨201, none⟩ reservedElsewhere).2, t.isKept Sample.key "h1" = true) := by
  refine ⟨filed_reservedElsewhere, (kept_of_ok_iff filed_reservedElsewhere _ _ _ _ _).mpr
    (Or.inr (Or.inl ?_))⟩
  exact ⟨[(Sample.noon, .release Sample.key "h2")], _, [], rfl, rfl, rfl, by decide +kernel⟩

/-- **A response that is not kept, without an error**: the key is given up by its request between
the two statements. The first of them changes no row, because there is one of another request, and
the second finds none. -/
theorem unkept_released :
    reservedElsewhere.tables.Filed ∧
      (recordAmong Sample.noon [(Sample.noon, .release Sample.key "h2")] Sample.key "h1" ⟨201, none⟩
        reservedElsewhere).1 = .ok () ∧
      ∀ t ∈ (recordAmong Sample.noon [(Sample.noon, .release Sample.key "h2")] Sample.key
        "h1" ⟨201, none⟩ reservedElsewhere).2, t.isKept Sample.key "h1" = false :=
  ⟨filed_reservedElsewhere, rfl, by decide +kernel⟩

end Journal.Sql
