import Journal.Proofs.Time.Calendar
import Journal.Time.Instant

/-!
# Instants as they are written and read

**An instant is read back from its text exactly when a clock can show it, in the years that instants
are kept in** (`parse?_text_iff`). What is read is such an instant, in whatever way it was written
(`showable_of_parse?`).

Numbers of a fixed width are read back whatever follows them, since no more digits are taken than
were written; a year may have more, but then it has a sign and a hyphen ends it. A leap second is
written as the sixtieth of its minute, so that one that is not at the end of a minute would be read
as the second after it; offsets of whole minutes lead to none.
-/

namespace Journal.Instant

open Text

variable {t : Instant} {s : String} {c : Char} {ds cs rest : List Char}
  {width most n m : Nat} {year : Int}

/-- A clock can show the instant. A leap second has to be at the end of a minute, where it is shown
as the sixtieth: anywhere else its text names the second after it, and would be read as that one.
Nothing that is read lies there (`showable_of_parse?`), so that the condition leaves out only what
has no text of its own. -/
structure Showable (t : Instant) : Prop where
  nanos_lt : t.nanos < 2 * Duration.nanosPerSecond
  leap : Duration.nanosPerSecond ≤ t.nanos → t.seconds % 60 = 59
  inRange : t.isInRange = true

/-! ## Digits -/

theorem digitsValue_eq (ds : List Char) : digitsValue ds = Nat.ofDigitChars 10 ds 0 := by
  rw [Nat.ofDigitChars_eq_foldl, digitsValue]
  simp only [Nat.mul_comm]

theorem toNat_of_isDigit (h : c.isDigit = true) : 48 ≤ c.toNat ∧ c.toNat ≤ 57 := by
  simpa [Char.isDigit, UInt32.le_iff_toNat_le] using h

theorem digitsValue_lt (hds : ∀ c ∈ ds, c.isDigit = true) : digitsValue ds < 10 ^ ds.length := by
  rw [digitsValue_eq]
  induction ds with
  | nil => simp
  | cons c ds ih =>
    have hrest := ih fun d hd => hds d (List.mem_cons_of_mem c hd)
    have hc := toNat_of_isDigit (hds c List.mem_cons_self)
    have hfirst : 10 ^ ds.length * (c.toNat - 48) ≤ 10 ^ ds.length * 9 :=
      Nat.mul_le_mul_left _ (by omega)
    rw [Nat.ofDigitChars_cons, Nat.ofDigitChars_eq_ofDigitChars_zero,
      List.length_cons, Nat.pow_succ]
    simp only [Nat.mul_zero, Nat.zero_add, show '0'.toNat = 48 from rfl]
    omega

theorem digitsValue_padded (width n : Nat) : digitsValue (padded width n) = n := by
  rw [digitsValue_eq, padded, Nat.ofDigitChars_append, Nat.ofDigitChars_replicate_zero,
    Nat.mul_zero, Nat.ofDigitChars_ten_toDigits]

theorem isDigit_padded : ∀ c ∈ padded width n, c.isDigit = true := by
  intro c hc
  rcases List.mem_append.mp hc with hzero | hdigit
  · rw [(List.mem_replicate.mp hzero).2]
    decide
  · exact Nat.isDigit_of_mem_toDigits (by decide) (by decide) hdigit

theorem padded_ne_nil : padded width n ≠ [] := by
  simp [padded, Nat.toDigits_ne_nil]

theorem length_padded (hpos : 0 < width) (hlt : n < 10 ^ width) :
    (padded width n).length = width := by
  have hle : (Nat.toDigits 10 n).length ≤ width :=
    (Nat.length_toDigits_le_iff (by decide) hpos).mpr hlt
  rw [padded, List.length_append, List.length_replicate]
  omega

/-! ## Parts of a text -/

theorem isBlank_of_isDigit (h : c.isDigit = true) : isBlank c = false := by
  have hrange := toNat_of_isDigit h
  simp [isBlank]
  omega

theorem trimLeft_cons (h : isBlank c = false) : trimLeft (c :: cs) = c :: cs := by
  simp [trimLeft, h]

theorem trimLeft_digits (hne : ds ≠ []) (hds : ∀ c ∈ ds, c.isDigit = true) :
    trimLeft (ds ++ rest) = ds ++ rest := by
  obtain ⟨c, ds, rfl⟩ := List.exists_cons_of_ne_nil hne
  exact trimLeft_cons (isBlank_of_isDigit (hds c List.mem_cons_self))

theorem readNumber_padded (hpos : 0 < width) (hlt : n < 10 ^ width) :
    readNumber width (padded width n ++ rest) = some (n, rest) := by
  have htake : ((padded width n ++ rest).takeWhile Char.isDigit).take width = padded width n := by
    rw [List.takeWhile_append_of_pos isDigit_padded, List.take_left' (length_padded hpos hlt)]
  simp [readNumber, trimLeft_digits padded_ne_nil isDigit_padded, htake, padded_ne_nil,
    digitsValue_padded]

theorem readMark_cons (h : isBlank c = false) : readMark c (c :: rest) = some rest := by
  simp [readMark, trimLeft_cons h]

theorem readFraction_padded (hpos : 0 < width) (hle : width ≤ 9) (hlt : n < 10 ^ width)
    (hvalue : n * 10 ^ (9 - width) = m) :
    readFraction ('.' :: padded width n ++ 'Z' :: rest) = some (m, 'Z' :: rest) := by
  have htake : (padded width n ++ 'Z' :: rest).takeWhile Char.isDigit = padded width n := by
    rw [List.takeWhile_append_of_pos isDigit_padded]
    simp
  have hdrop : (padded width n ++ 'Z' :: rest).dropWhile Char.isDigit = 'Z' :: rest := by
    rw [List.dropWhile_append_of_pos isDigit_padded]
    simp
  have hlength := length_padded hpos hlt
  simp [readFraction, htake, hdrop, List.take_of_length_le (hlength.trans_le hle), padded_ne_nil,
    digitsValue_padded, hlength, hvalue]

theorem readFraction_fractionText (hlt : n < Duration.nanosPerSecond) :
    readFraction (fractionText n ++ 'Z' :: rest) = some (n, 'Z' :: rest) := by
  simp only [Duration.nanosPerSecond] at hlt
  unfold fractionText
  split
  · next hzero =>
    subst hzero
    rfl
  · split
    · next hmillis => exact readFraction_padded (by decide) (by decide) (by omega) (by omega)
    · split
      · next hmicros => exact readFraction_padded (by decide) (by decide) (by omega) (by omega)
      · exact readFraction_padded (by decide) (by decide) (by omega) (by omega)

theorem readYear_digits (hc : c.isDigit = true) :
    readYear (c :: cs) = (readNumber 4 (c :: cs)).map fun (n, rest) => ((n : Int), rest) := by
  unfold readYear
  rw [trimLeft_cons (isBlank_of_isDigit hc)]
  split
  · next heq =>
    cases heq
    cases hc
  · next heq =>
    cases heq
    cases hc
  · rfl

theorem readYear_yearText (year : Int) :
    readYear (yearText year ++ '-' :: rest) = some (year, '-' :: rest) := by
  unfold yearText
  split
  · next hfour =>
    have hnumber :
        readNumber 4 (padded 4 year.toNat ++ '-' :: rest) = some (year.toNat, '-' :: rest) :=
      readNumber_padded (by decide) (by omega)
    have hne : padded 4 year.toNat ≠ [] := padded_ne_nil
    obtain ⟨c, ds, heq⟩ := List.exists_cons_of_ne_nil hne
    have hc : c.isDigit = true := isDigit_padded c (heq ▸ List.mem_cons_self)
    rw [heq, List.cons_append] at hnumber ⊢
    rw [readYear_digits hc, hnumber]
    simp only [Option.map_some, Option.some.injEq, Prod.mk.injEq, and_true]
    omega
  · next hsigned =>
    have htake :
        (padded 4 year.natAbs ++ '-' :: rest).takeWhile Char.isDigit = padded 4 year.natAbs := by
      rw [List.takeWhile_append_of_pos isDigit_padded]
      simp
    by_cases hneg : year < 0
    · have htrim : trimLeft ('-' :: (padded 4 year.natAbs ++ '-' :: rest)) =
          '-' :: (padded 4 year.natAbs ++ '-' :: rest) := trimLeft_cons (by decide)
      simp [readYear, hneg, htrim, htake, padded_ne_nil, digitsValue_padded, abs_of_neg hneg]
    · have htrim : trimLeft ('+' :: (padded 4 year.natAbs ++ '-' :: rest)) =
          '+' :: (padded 4 year.natAbs ++ '-' :: rest) := trimLeft_cons (by decide)
      simp [readYear, hneg, htrim, htake, padded_ne_nil, digitsValue_padded]
      omega

/-! ## What a clock shows -/

/-- The second that a clock shows: a leap second is the sixtieth. -/
def clockSecond (t : Instant) : Nat :=
  if Duration.nanosPerSecond ≤ t.nanos then (t.seconds % 60).toNat + 1 else (t.seconds % 60).toNat

def clockNanos (t : Instant) : Nat :=
  if Duration.nanosPerSecond ≤ t.nanos then t.nanos - Duration.nanosPerSecond else t.nanos

theorem chars_eq (t : Instant) :
    t.chars = yearText t.date.year ++ '-' :: (padded 2 t.date.month ++
      '-' :: (padded 2 t.date.day ++
      'T' :: (padded 2 ((t.seconds % 86400).toNat / 3600) ++
      ':' :: (padded 2 ((t.seconds % 86400).toNat / 60 % 60) ++
      ':' :: (padded 2 t.clockSecond ++ (fractionText t.clockNanos ++ ['Z'])))))) := by
  have hminute : (t.seconds % 86400).toNat % 60 = (t.seconds % 60).toNat := by omega
  simp only [chars, hminute, clockSecond, clockNanos, List.append_assoc, List.cons_append]

theorem Showable.clockNanos_lt (h : t.Showable) : t.clockNanos < Duration.nanosPerSecond := by
  have := h.nanos_lt
  unfold clockNanos
  split <;> omega

theorem Showable.clockSecond (h : t.Showable) :
    t.clockSecond ≤ 60 ∧ (t.clockSecond = 60 ↔ Duration.nanosPerSecond ≤ t.nanos) ∧
      ((if t.clockSecond = 60 then 59 else t.clockSecond : Nat) : Int) = t.seconds % 60 := by
  have hleap := h.leap
  unfold Instant.clockSecond
  split
  · have hlast := hleap ‹_›
    refine ⟨by omega, by omega, ?_⟩
    split <;> omega
  · refine ⟨by omega, by omega, ?_⟩
    split <;> omega

theorem Showable.ofShown?_eq (h : t.Showable) :
    ofShown? t.date ((t.seconds % 86400).toNat / 3600)
    ((t.seconds % 86400).toNat / 60 % 60) t.clockSecond
      t.clockNanos 0 = some t := by
  obtain ⟨hsecond, hsixty, hshown⟩ := h.clockSecond
  have hdate : t.date.isValid = true := Date.isValid_ofDays _
  have hrange : isYearInRange t.date.year = true := h.inRange
  have hhour : (t.seconds % 86400).toNat / 3600 < 24 := by omega
  have hminute : (t.seconds % 86400).toNat / 60 % 60 < 60 := by omega
  have hdays : t.date.toDays = t.seconds / 86400 := Date.toDays_ofDays _
  have hseconds : t.date.toDays * 86400 + ((t.seconds % 86400).toNat / 3600 : Nat) * 3600 +
      ((t.seconds % 86400).toNat / 60 % 60 : Nat) * 60 +
      (if t.clockSecond = 60 then 59 else t.clockSecond : Nat) - 0 = t.seconds := by
    rw [hshown, hdays]
    omega
  have hnanos : (if t.clockSecond = 60 then t.clockNanos + Duration.nanosPerSecond
      else t.clockNanos) = t.nanos := by
    unfold clockNanos
    split
    · rw [if_pos (hsixty.mp ‹_›)]
      exact Nat.sub_add_cancel (hsixty.mp ‹_›)
    · exact if_neg fun hle => absurd (hsixty.mpr hle) ‹_›
  simp only [ofShown?, hseconds, hnanos, h.inRange, if_true]
  refine if_neg ?_
  simp [hdate, hrange, hhour, hminute, hsecond]

/-- Clocks that are ahead by whole minutes show a leap second at the end of a minute. -/
theorem showable_of_ofShown? {d : Date} {hour minute second nanos : Nat} {offset : Int}
    (hnanos : nanos < Duration.nanosPerSecond) (hoffset : offset % 60 = 0)
    (h : ofShown? d hour minute second nanos offset = some t) : t.Showable := by
  simp only [ofShown?, Option.ite_none_left_eq_some, Option.ite_none_right_eq_some,
    Option.some.injEq] at h
  obtain ⟨-, hrange, rfl⟩ := h
  refine ⟨?_, ?_, hrange⟩
  · dsimp only
    split <;> omega
  · dsimp only
    split <;> omega

/-! ## The whole text -/

theorem parse?_text (h : t.Showable) : parse? t.text = some t := by
  have htwo : 0 < 2 := by decide
  have hhyphen : isBlank '-' = false := by decide
  have hcolon : isBlank ':' = false := by decide
  obtain ⟨hmonth, hday⟩ := Date.le_of_isValid (Date.isValid_ofDays (t.seconds / 86400))
  have hhour : (t.seconds % 86400).toNat / 3600 < 10 ^ 2 := by omega
  have hminute : (t.seconds % 86400).toNat / 60 % 60 < 10 ^ 2 := by omega
  have hsecond := h.clockSecond.1
  unfold parse?
  rw [text, String.toList_ofList, chars_eq]
  refine Option.bind_eq_some_iff.mpr ⟨_, readYear_yearText t.date.year, ?_⟩
  refine Option.bind_eq_some_iff.mpr ⟨_, readMark_cons hhyphen, ?_⟩
  refine Option.bind_eq_some_iff.mpr ⟨_,
    readNumber_padded htwo (Nat.lt_of_le_of_lt hmonth (by decide)), ?_⟩
  refine Option.bind_eq_some_iff.mpr ⟨_, readMark_cons hhyphen, ?_⟩
  refine Option.bind_eq_some_iff.mpr ⟨_,
    readNumber_padded htwo (Nat.lt_of_le_of_lt hday (by decide)), ?_⟩
  refine Option.bind_eq_some_iff.mpr ⟨_, rfl, ?_⟩
  refine Option.bind_eq_some_iff.mpr ⟨_, readNumber_padded htwo hhour, ?_⟩
  refine Option.bind_eq_some_iff.mpr ⟨_, readMark_cons hcolon, ?_⟩
  refine Option.bind_eq_some_iff.mpr ⟨_, readNumber_padded htwo hminute, ?_⟩
  refine Option.bind_eq_some_iff.mpr ⟨_, readMark_cons hcolon, ?_⟩
  refine Option.bind_eq_some_iff.mpr ⟨_,
    readNumber_padded htwo (Nat.lt_of_le_of_lt hsecond (by decide)), ?_⟩
  refine Option.bind_eq_some_iff.mpr ⟨_, readFraction_fractionText h.clockNanos_lt, ?_⟩
  refine Option.bind_eq_some_iff.mpr ⟨(0, []), rfl, ?_⟩
  exact h.ofShown?_eq

theorem isDigit_digits (most : Nat) (cs : List Char) :
    ∀ c ∈ (cs.takeWhile Char.isDigit).take most, c.isDigit = true :=
  fun c hc => List.all_eq_true.mp List.all_takeWhile c (List.mem_of_mem_take hc)

theorem readFraction_lt {fraction : Nat × List Char} (h : readFraction cs = some fraction) :
    fraction.1 < Duration.nanosPerSecond := by
  unfold readFraction at h
  split at h
  · next rest =>
    simp only [Option.ite_none_left_eq_some, Option.some.injEq] at h
    obtain ⟨-, rfl⟩ := h
    have hlength := List.length_take_le 9 (rest.takeWhile Char.isDigit)
    have hvalue := digitsValue_lt (isDigit_digits 9 rest)
    generalize (rest.takeWhile Char.isDigit).take 9 = ds at hlength hvalue ⊢
    calc digitsValue ds * 10 ^ (9 - ds.length)
        < 10 ^ ds.length * 10 ^ (9 - ds.length) :=
        Nat.mul_lt_mul_of_pos_right hvalue (by positivity)
      _ = 10 ^ 9 := by rw [← Nat.pow_add, Nat.add_sub_cancel' hlength]
      _ = Duration.nanosPerSecond := rfl
  · cases h
    exact Nat.succ_pos _

theorem readHours_minutes {behind : Bool} {offset : Int × List Char}
    (h : readHours behind cs = some offset) :
    offset.1 % 60 = 0 := by
  unfold readHours at h
  obtain ⟨⟨hours, _⟩, -, h⟩ := Option.bind_eq_some_iff.mp h
  obtain ⟨⟨minutes, _⟩, -, h⟩ := Option.bind_eq_some_iff.mp h
  simp only [Option.ite_none_left_eq_some, Option.some.injEq] at h
  obtain ⟨-, rfl⟩ := h
  dsimp only
  split <;> omega

theorem readOffset_minutes {offset : Int × List Char} (h : readOffset cs = some offset) :
    offset.1 % 60 = 0 := by
  unfold readOffset at h
  dsimp only at h
  split at h
  · cases h
    rfl
  · split at h
    case h_3 | h_4 | h_5 => exact readHours_minutes h
    case h_6 => cases h
    case h_1 | h_2 =>
      cases h
      rfl

/-- What is read is an instant that a clock can show. -/
theorem showable_of_parse? (h : parse? s = some t) : t.Showable := by
  unfold parse? at h
  obtain ⟨⟨year, _⟩, -, h⟩ := Option.bind_eq_some_iff.mp h
  obtain ⟨_, -, h⟩ := Option.bind_eq_some_iff.mp h
  obtain ⟨⟨month, _⟩, -, h⟩ := Option.bind_eq_some_iff.mp h
  obtain ⟨_, -, h⟩ := Option.bind_eq_some_iff.mp h
  obtain ⟨⟨day, _⟩, -, h⟩ := Option.bind_eq_some_iff.mp h
  obtain ⟨_, -, h⟩ := Option.bind_eq_some_iff.mp h
  obtain ⟨⟨hour, _⟩, -, h⟩ := Option.bind_eq_some_iff.mp h
  obtain ⟨_, -, h⟩ := Option.bind_eq_some_iff.mp h
  obtain ⟨⟨minute, _⟩, -, h⟩ := Option.bind_eq_some_iff.mp h
  obtain ⟨_, -, h⟩ := Option.bind_eq_some_iff.mp h
  obtain ⟨⟨second, _⟩, -, h⟩ := Option.bind_eq_some_iff.mp h
  obtain ⟨⟨nanos, _⟩, hfraction, h⟩ := Option.bind_eq_some_iff.mp h
  obtain ⟨⟨offset, _⟩, hoffset, h⟩ := Option.bind_eq_some_iff.mp h
  dsimp only at h
  split at h
  · exact showable_of_ofShown? (readFraction_lt hfraction) (readOffset_minutes hoffset) h
  · cases h

/-- Reading undoes writing for what a clock can show, and for nothing else. -/
theorem parse?_text_iff : parse? t.text = some t ↔ t.Showable := ⟨showable_of_parse?, parse?_text⟩

example : (parse? "2016-12-31 18:59:60.5-05:00").map text = some "2016-12-31T23:59:60.500Z" := rfl

end Journal.Instant
