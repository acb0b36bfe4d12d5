/-!
# Blank characters, and trimming them

Text that a caller sends counts as empty when every character of it is blank. Blank is the Unicode
property `White_Space`, which is wider than the blanks of ASCII (a no-break space and an ideographic
space are in it) and leaves out zero-width characters (U+200B and U+FEFF are not).

The main statements are `toList_trim`, which says what trimming does to the characters, and
`trim_isEmpty_iff`, which says that a text trims to nothing exactly when it is blank throughout.
-/

namespace Journal.Text

/-- The Unicode property `White_Space`. -/
def isBlank (c : Char) : Bool :=
  let n := c.toNat
  (9 ≤ n && n ≤ 13) || n == 0x20 || n == 0x85 || n == 0xa0 || n == 0x1680 ||
    (0x2000 ≤ n && n ≤ 0x200a) || n == 0x2028 || n == 0x2029 || n == 0x202f || n == 0x205f ||
    n == 0x3000

def trimLeft (cs : List Char) : List Char :=
  cs.dropWhile isBlank

def trimChars (cs : List Char) : List Char :=
  (trimLeft (trimLeft cs).reverse).reverse

def trim (s : String) : String :=
  String.ofList (trimChars s.toList)

/-- A text is blank when it holds blank characters only; the empty text is blank. -/
def blank (s : String) : Bool :=
  s.toList.all isBlank

theorem toList_trim (s : String) : (trim s).toList = trimChars s.toList := by
  simp [trim]

theorem trimLeft_eq_nil_iff {cs : List Char} : trimLeft cs = [] ↔ cs.all isBlank = true := by
  induction cs with
  | nil => simp [trimLeft]
  | cons c cs ih =>
    by_cases h : isBlank c = true
    · simpa [trimLeft, List.dropWhile, h] using ih
    · simp [trimLeft, List.dropWhile, h]

theorem all_blank_trimLeft {cs : List Char} :
    (trimLeft cs).all isBlank = cs.all isBlank := by
  induction cs with
  | nil => rfl
  | cons c cs ih =>
    by_cases h : isBlank c = true
    · simpa [trimLeft, List.dropWhile, h] using ih
    · simp [trimLeft, List.dropWhile, h]

theorem trimChars_eq_nil_iff {cs : List Char} : trimChars cs = [] ↔ cs.all isBlank = true := by
  rw [trimChars, List.reverse_eq_nil_iff, trimLeft_eq_nil_iff, List.all_reverse,
    all_blank_trimLeft]

/-- A text trims to nothing exactly when it is blank throughout. -/
theorem trim_isEmpty_iff {s : String} : trim s = "" ↔ blank s = true := by
  rw [← String.toList_inj, toList_trim]
  exact trimChars_eq_nil_iff

end Journal.Text
