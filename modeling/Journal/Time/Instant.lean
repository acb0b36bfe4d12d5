import Journal.Text.Blank
import Journal.Time.Calendar
import Journal.Time.Duration

/-!
# Points in time

An instant counts the seconds from 1970-01-01T00:00:00Z, and nanoseconds beside them. A leap second
is the second before it with a nanosecond count of a full second or more. Instants are written in
universal time with as many fraction digits as are exact, in groups of three; they are read with any
offset, which is required.
-/

namespace Journal

structure Instant where
  seconds : Int
  nanos : Nat
  deriving DecidableEq, Repr

namespace Instant

def before (a b : Instant) : Bool :=
  a.seconds < b.seconds || (a.seconds == b.seconds && a.nanos < b.nanos)

def isYearInRange (y : Int) : Bool := -262143 ≤ y && y ≤ 262142

/-- The instant as a clock shows it that knows no leap seconds: a full second of nanoseconds is
carried over. An instant that is no leap second is left as it is. -/
def withoutLeap (t : Instant) : Instant :=
  ⟨t.seconds + (t.nanos / Duration.nanosPerSecond : Nat), t.nanos % Duration.nanosPerSecond⟩

def date (t : Instant) : Date := Date.ofDays (t.seconds / 86400)

def isInRange (t : Instant) : Bool := isYearInRange t.date.year

/-- The longest stretch that can be taken off an instant: milliseconds in sixty-three bits. -/
def longestStretch : Duration := .ofMillis (2 ^ 63 - 1)

def goBack (t : Instant) (d : Duration) : Instant :=
  let total : Int := t.seconds * Duration.nanosPerSecond + t.nanos - d.nanos
  ⟨total / Duration.nanosPerSecond, (total % Duration.nanosPerSecond).toNat⟩

/-- Go back from an instant, if the stretch is not too long and the result in range. The two are
different limits: a stretch is counted in milliseconds, an instant in years. -/
def goBack? (t : Instant) (d : Duration) : Option Instant :=
  if d ≤ longestStretch ∧ (t.goBack d).isInRange then some (t.goBack d) else none

/-! ## Microseconds -/

/-- Microseconds from 2000-01-01T00:00:00Z, what is finer cut off towards that instant. -/
def micros (t : Instant) : Int :=
  ((t.seconds - 946684800) * Duration.nanosPerSecond + t.nanos).tdiv 1000

/-- The instant some microseconds from 2000-01-01T00:00:00Z. -/
def ofMicros (n : Int) : Instant :=
  ⟨n / 1000000 + 946684800, (n % 1000000).toNat * 1000⟩

/-! ## Writing -/

def padded (width n : Nat) : List Char :=
  let ds := Nat.toDigits 10 n
  List.replicate (width - ds.length) '0' ++ ds

/-- The fraction of a second, in the fewest groups of three digits that are exact. -/
def fractionText (nanos : Nat) : List Char :=
  if nanos = 0 then []
  else if nanos % 1000000 = 0 then '.' :: padded 3 (nanos / 1000000)
  else if nanos % 1000 = 0 then '.' :: padded 6 (nanos / 1000)
  else '.' :: padded 9 nanos

/-- A year of four digits, or with a sign when it has no such form. -/
def yearText (y : Int) : List Char :=
  if 0 ≤ y ∧ y ≤ 9999 then padded 4 y.toNat
  else (if y < 0 then '-' else '+') :: padded 4 y.natAbs

/-- The instant in universal time. A leap second is written as the sixtieth second of its minute. -/
def chars (t : Instant) : List Char :=
  let d := t.date
  let s := (t.seconds % 86400).toNat
  let leap := Duration.nanosPerSecond ≤ t.nanos
  let second := if leap then s % 60 + 1 else s % 60
  let nanos := if leap then t.nanos - Duration.nanosPerSecond else t.nanos
  yearText d.year ++ '-' :: padded 2 d.month ++ '-' :: padded 2 d.day ++
    'T' :: padded 2 (s / 3600) ++ ':' :: padded 2 (s / 60 % 60) ++ ':' :: padded 2 second ++
    fractionText nanos ++ ['Z']

def text (t : Instant) : String := String.ofList t.chars

/-! ## Reading

Blanks may stand before every part, and a part may have fewer digits than it is written with. -/

def digitsValue (cs : List Char) : Nat :=
  cs.foldl (fun n c => n * 10 + (c.toNat - '0'.toNat)) 0

/-- Between one and `most` digits, after blanks, and what follows them. -/
def readNumber (most : Nat) (cs : List Char) : Option (Nat × List Char) :=
  let cs := Text.trimLeft cs
  let ds := (cs.takeWhile Char.isDigit).take most
  if ds.isEmpty then none else some (digitsValue ds, cs.drop ds.length)

/-- A year: four digits at most, or any number of them after a sign. -/
def readYear (cs : List Char) : Option (Int × List Char) :=
  let signed (negative : Bool) (cs : List Char) : Option (Int × List Char) :=
    let ds := cs.takeWhile Char.isDigit
    if ds.isEmpty then none
    else
      let n : Int := digitsValue ds
      some (if negative then -n else n, cs.drop ds.length)
  match Text.trimLeft cs with
  | '-' :: rest => signed true rest
  | '+' :: rest => signed false rest
  | cs => (readNumber 4 cs).map fun (n, rest) => ((n : Int), rest)

def readMark (c : Char) (cs : List Char) : Option (List Char) :=
  match Text.trimLeft cs with
  | d :: rest => if d = c then some rest else none
  | [] => none

/-- The nanoseconds of a fraction, if there is one; digits after the ninth are passed over. -/
def readFraction : List Char → Option (Nat × List Char)
  | '.' :: cs =>
    let ds := (cs.takeWhile Char.isDigit).take 9
    if ds.isEmpty then none
    else some (digitsValue ds * 10 ^ (9 - ds.length), cs.dropWhile Char.isDigit)
  | cs => some (0, cs)

def readPair : List Char → Option (Nat × List Char)
  | a :: b :: rest => if a.isDigit && b.isDigit then some (digitsValue [a, b], rest) else none
  | _ => none

/-- Hours and minutes in seconds, ahead of universal time or behind it. -/
def readHours (behind : Bool) (cs : List Char) : Option (Int × List Char) := do
  let (hours, cs) ← readPair cs
  let (minutes, cs) ← readPair (cs.dropWhile fun c => c == ':' || Text.isBlank c)
  if 60 ≤ minutes || 24 ≤ hours then none
  else
    let n : Int := hours * 3600 + minutes * 60
    some (if behind then -n else n, cs)

/-- An offset from universal time in seconds: the letter for none, the name of universal time, or a
sign with hours and minutes. -/
def readOffset (cs : List Char) : Option (Int × List Char) :=
  let cs := Text.trimLeft cs
  if (cs.take 3).map Char.toLower = ['u', 't', 'c'] then some (0, cs.drop 3)
  else match cs with
    | 'Z' :: rest | 'z' :: rest => some (0, rest)
    | '+' :: rest => readHours false rest
    | '-' :: rest | '−' :: rest => readHours true rest
    | _ => none

/-- What separates a day from the time: a letter or a space. -/
def readSeparator : List Char → Option (List Char)
  | c :: rest => if c = 'T' || c = 't' || c = ' ' then some rest else none
  | [] => none

/-- The instant that clocks show as a date and a time when they are ahead of universal time by an
offset. The sixtieth second is a leap second. -/
def ofShown? (d : Date) (hour minute second nanos : Nat) (offset : Int) : Option Instant :=
  if !d.isValid || !isYearInRange d.year || 24 ≤ hour || 60 ≤ minute || 60 < second then none
  else
    let leap := second = 60
    let s : Int :=
      d.toDays * 86400 + hour * 3600 + minute * 60 + (if leap then 59 else second) - offset
    let t : Instant := ⟨s, if leap then nanos + Duration.nanosPerSecond else nanos⟩
    if t.isInRange then some t else none

def parse? (s : String) : Option Instant := do
  let (year, cs) ← readYear s.toList
  let cs ← readMark '-' cs
  let (month, cs) ← readNumber 2 cs
  let cs ← readMark '-' cs
  let (day, cs) ← readNumber 2 cs
  let cs ← readSeparator cs
  let (hour, cs) ← readNumber 2 cs
  let cs ← readMark ':' cs
  let (minute, cs) ← readNumber 2 cs
  let cs ← readMark ':' cs
  let (second, cs) ← readNumber 2 cs
  let (nanos, cs) ← readFraction cs
  let (offset, cs) ← readOffset cs
  if (Text.trimLeft cs).isEmpty then ofShown? ⟨year, month, day⟩ hour minute second nanos offset
    else none

end Instant

end Journal
