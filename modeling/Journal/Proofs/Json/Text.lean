import Journal.Json.Canonical
import Journal.Json.Reader
import Mathlib.Data.List.Basic

/-!
# Texts in canonical text

**A text between quotes tells which text it is and where it ends** (`writtenText_told`): reading
undoes writing. And **no two names are tied in the order of members** (`Text.unitsLE_antisymm`),
since the units of a name tell which name it is.
-/

namespace Journal.Text

variable {s t u : String}

/-- The units of a character tell which it is, whatever comes after them. -/
theorem charUnits_told {c d : Char} {r r' : List Nat} (h : charUnits c ++ r = charUnits d ++ r') :
    c = d ∧ r = r' := by
  have hc : c.toNat < 0xd800 ∨ 0xdfff < c.toNat ∧ c.toNat < 0x110000 := c.valid
  have hd : d.toNat < 0xd800 ∨ 0xdfff < d.toNat ∧ d.toNat < 0x110000 := d.valid
  suffices hsame : c.toNat = d.toNat by
    obtain rfl := Char.toNat_inj.mp hsame
    exact ⟨rfl, List.append_cancel_left h⟩
  simp only [charUnits] at h
  split at h <;> split at h <;> simp at h <;> omega

theorem charUnits_ne_nil (c : Char) : charUnits c ≠ [] := by
  rw [charUnits]
  split <;> simp

theorem flatMap_charUnits_inj {cs ds : List Char}
    (h : cs.flatMap charUnits = ds.flatMap charUnits) : cs = ds := by
  induction cs generalizing ds with
  | nil =>
    cases ds with
    | nil => rfl
    | cons d ds => simp [charUnits_ne_nil] at h
  | cons c cs ih =>
    cases ds with
    | nil => simp [charUnits_ne_nil] at h
    | cons d ds =>
      obtain ⟨rfl, hrest⟩ := charUnits_told h
      rw [ih hrest]

theorem units_inj (h : units s = units t) : s = t :=
  String.toList_inj.mp (flatMap_charUnits_inj h)

theorem unitsLE_iff : unitsLE s t = true ↔ List.le (units s) (units t) := by
  rw [unitsLE, Bool.not_eq_true', List.lex_eq_false_iff_not_lex]
  simp only [decide_eq_true_eq]
  rfl

theorem unitsLE_total : (unitsLE s t || unitsLE t s) = true := by
  rw [Bool.or_eq_true, unitsLE_iff, unitsLE_iff]
  exact List.le_total (units s) (units t)

theorem unitsLE_trans (h : unitsLE s t = true) (h' : unitsLE t u = true) : unitsLE s u = true :=
  unitsLE_iff.mpr (List.le_trans (unitsLE_iff.mp h) (unitsLE_iff.mp h'))

theorem unitsLE_antisymm (h : unitsLE s t = true) (h' : unitsLE t s = true) : s = t :=
  units_inj (List.le_antisymm (unitsLE_iff.mp h) (unitsLE_iff.mp h'))

end Journal.Text

namespace Journal.Json

variable {c d : Char} {s t : String} {r r' : List Char}

theorem hexValue?_hexDigit : ∀ n < 16, hexValue? (hexDigit n) = some n := by decide

theorem readEscape_control (h : c.toNat < 0x20) :
    readEscape ('u' :: '0' :: '0' :: hexDigit (c.toNat / 16) :: hexDigit (c.toNat % 16) :: r) =
      some (c, r) := by
  have hzero : hexValue? '0' = some 0 := rfl
  have hcode : c.toNat / 16 * 16 + c.toNat % 16 = c.toNat := by omega
  have hlow : ¬ 0xd800 ≤ c.toNat := by omega
  have hlow' : ¬ 0xdc00 ≤ c.toNat := by omega
  simp [readEscape, readEscapedUnits, readUnit, hzero, hexValue?_hexDigit (c.toNat / 16) (by omega),
    hexValue?_hexDigit (c.toNat % 16) (by omega), hcode, hlow, hlow']

theorem readText_escapedChar (fuel : Nat) (acc : List Char) (c : Char) (r : List Char) :
    readText (fuel + 1) acc (escapedChar c ++ r) = readText fuel (c :: acc) r := by
  rw [escapedChar]
  -- The characters that have an escape of their own.
  iterate 7
    split
    · next h =>
      subst h
      rfl
  split
  · next h => simp [readText, readEscape_control h]
  · next hcontrol => simp [readText, hcontrol]

theorem readText_written (cs acc r : List Char) {fuel : Nat} (h : cs.length < fuel) :
    readText fuel acc (cs.flatMap escapedChar ++ '"' :: r) =
      some (String.ofList (acc.reverse ++ cs), r) := by
  induction cs generalizing fuel acc with
  | nil =>
    obtain ⟨fuel, rfl⟩ := Nat.exists_eq_add_one_of_ne_zero (Nat.ne_zero_of_lt h)
    simp [readText]
  | cons c cs ih =>
    obtain ⟨fuel, rfl⟩ := Nat.exists_eq_add_one_of_ne_zero (Nat.ne_zero_of_lt h)
    rw [List.flatMap_cons, List.append_assoc, readText_escapedChar, ih _ (by simpa using h)]
    simp

/-- Where a text begins with a written text, it tells which, and what follows. -/
theorem writtenText_told (h : writtenText s ++ r = writtenText t ++ r') : s = t ∧ r = r' := by
  have hread : ∀ (u : String) (rest : List Char), u.toList.length < s.length + t.length + 1 →
      readText (s.length + t.length + 1) [] ((writtenText u ++ rest).tail) = some (u, rest) := by
    intro u rest hu
    have := readText_written u.toList [] rest hu
    simpa [writtenText] using this
  have hs := hread s r (by rw [String.length_toList]; omega)
  rw [h, hread t r' (by rw [String.length_toList]; omega)] at hs
  cases hs
  exact ⟨rfl, rfl⟩

theorem newline_notMem_escapedChar (c : Char) : '\n' ∉ escapedChar c := by
  have hhex : ∀ n < 16, '\n' ≠ hexDigit n := by decide
  rw [escapedChar]
  iterate 7
    split
    · decide
  split
  · next hcontrol => simp [hhex (c.toNat / 16) (by omega), hhex (c.toNat % 16) (by omega)]
  · next hnewline _ _ _ => simpa using Ne.symm hnewline

theorem newline_notMem_writtenText (s : String) : '\n' ∉ writtenText s := by
  simp [writtenText, newline_notMem_escapedChar]

end Journal.Json
