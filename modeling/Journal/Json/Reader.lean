import Journal.Json
import Journal.Power

/-!
# Reading JSON text

`Json.read?` accepts one JSON value with blanks around it, and nothing else. A number without
fraction and exponent that fits into sixty-four bits (signed, or unsigned when it is not negative)
is whole; every other number is the double nearest to it, and a number beyond the doubles is
refused. Of two members of one name the later one counts. Values are nested at most 127 deep.

The functions consume a list of characters and give back what follows. Their recursion is bounded by
`fuel`, which the entry point sets above the number of characters.
-/

namespace Journal.Json

/-- Nesting that is still read. A text that opens more levels is refused before it is read to its
end, whatever would follow. -/
def depthLimit : Nat := 127

/-- Skip the four blanks that JSON allows between tokens. -/
def skipBlanks (cs : List Char) : List Char :=
  cs.dropWhile fun c => c == ' ' || c == '\n' || c == '\t' || c == '\r'

/-! ## Numbers -/

def digitsValue (cs : List Char) : Nat :=
  cs.foldl (fun n c => n * 10 + (c.toNat - '0'.toNat)) 0

def spanDigits (cs : List Char) : List Char × List Char :=
  (cs.takeWhile Char.isDigit, cs.dropWhile Char.isDigit)

/-- A number as it is written: sign, digits before and after the point, exponent. The last two are
absent when their mark is. -/
structure Numeral where
  negative : Bool
  whole : List Char
  fraction : Option (List Char)
  exponent : Option Int

/-- Read the part after the point, if there is one; a point needs a digit after it. -/
def readFraction : List Char → Option (Option (List Char) × List Char)
  | '.' :: cs =>
    match spanDigits cs with
    | ([], _) => none
    | (ds, rest) => some (some ds, rest)
  | cs => some (none, cs)

/-- Read an exponent, if there is one; its mark needs a digit after it. -/
def readExponent : List Char → Option (Option Int × List Char)
  | c :: cs =>
    if c = 'e' || c = 'E' then
      let (negative, cs) := match cs with
        | '-' :: cs => (true, cs)
        | '+' :: cs => (false, cs)
        | cs => (false, cs)
      match spanDigits cs with
      | ([], _) => none
      | (ds, rest) =>
        let n : Int := digitsValue ds
        some (some (if negative then -n else n), rest)
    else some (none, c :: cs)
  | [] => some (none, [])

/-- Read a number; digits before the point begin with a zero only when there is no other. -/
def readNumeral (cs : List Char) : Option (Numeral × List Char) := do
  let (negative, cs) := match cs with
    | '-' :: cs => (true, cs)
    | cs => (false, cs)
  let (whole, cs) ← match spanDigits cs with
    | ([], _) => none
    | ('0' :: _ :: _, _) => none
    | (ds, rest) => some (ds, rest)
  let (fraction, cs) ← readFraction cs
  let (exponent, cs) ← readExponent cs
  return (⟨negative, whole, fraction, exponent⟩, cs)

/-- The double nearest to a number as it is written, unless that is infinite. The digits are taken
as one whole number with a power of ten, so that there is one rounding and not one for each
digit. -/
def Numeral.float? (n : Numeral) : Option Float :=
  let fraction := n.fraction.getD []
  let m := digitsValue (n.whole ++ fraction)
  let e : Int := n.exponent.getD 0 - fraction.length
  let x := if e < 0 then Float.ofScientific m true e.natAbs else Float.ofScientific m false e.natAbs
  if x.isInf then none else some (if n.negative then -x else x)

/-- The value of a number as it is written. A negative zero keeps its sign and is therefore not
whole. -/
def Numeral.value? (n : Numeral) : Option Json :=
  if n.fraction.isNone && n.exponent.isNone then
    let m : Int := digitsValue n.whole
    let v : Int := if n.negative then -m else m
    if (n.negative && m == 0) || v < -2 ^ 63 || 2 ^ 64 ≤ v then n.float?.map .float
    else some (.int v)
  else n.float?.map .float

/-! ## Texts -/

def hexValue? (c : Char) : Option Nat :=
  if '0' ≤ c && c ≤ '9' then some (c.toNat - '0'.toNat)
  else if 'a' ≤ c && c ≤ 'f' then some (c.toNat - 'a'.toNat + 10)
  else if 'A' ≤ c && c ≤ 'F' then some (c.toNat - 'A'.toNat + 10)
  else none

def readUnit : List Char → Option (Nat × List Char)
  | a :: b :: c :: d :: rest => do
    return (((← hexValue? a) * 16 + (← hexValue? b)) * 256 + (← hexValue? c) * 16 + (← hexValue? d),
      rest)
  | _ => none

/-- The character after a backslash and a `u`: one unit, or two that form a surrogate pair. -/
def readEscapedUnits (cs : List Char) : Option (Char × List Char) := do
  let (high, rest) ← readUnit cs
  if 0xd800 ≤ high && high < 0xdc00 then
    match rest with
    | '\\' :: 'u' :: rest =>
      let (low, rest) ← readUnit rest
      if 0xdc00 ≤ low && low < 0xe000 then
        return (Char.ofNat (0x10000 + (high - 0xd800) * 0x400 + (low - 0xdc00)), rest)
      else none
    | _ => none
  else if 0xdc00 ≤ high && high < 0xe000 then none
  else return (Char.ofNat high, rest)

def readEscape : List Char → Option (Char × List Char)
  | 'u' :: rest => readEscapedUnits rest
  | '"' :: rest => some ('"', rest)
  | '\\' :: rest => some ('\\', rest)
  | '/' :: rest => some ('/', rest)
  | 'b' :: rest => some ('\x08', rest)
  | 'f' :: rest => some ('\x0c', rest)
  | 'n' :: rest => some ('\n', rest)
  | 'r' :: rest => some ('\r', rest)
  | 't' :: rest => some ('\t', rest)
  | _ => none

/-- The characters up to the closing quote, in reverse on `acc`. Controls must be escaped. -/
def readText : Nat → List Char → List Char → Option (String × List Char)
  | 0, _, _ => none
  | _ + 1, _, [] => none
  | _ + 1, acc, '"' :: rest => some (String.ofList acc.reverse, rest)
  | fuel + 1, acc, '\\' :: rest => do
    let (c, rest) ← readEscape rest
    readText fuel (c :: acc) rest
  | fuel + 1, acc, c :: rest => if c.toNat < 0x20 then none else readText fuel (c :: acc) rest

/-! ## Values -/

def readWord (word : List Char) (v : Json) (cs : List Char) : Option (Json × List Char) :=
  if word.isPrefixOf cs then some (v, cs.drop word.length) else none

mutual

/-- One value, after blanks; `depth` more levels may be opened. -/
def readValue : Nat → Nat → List Char → Option (Json × List Char)
  | 0, _, _ => none
  | fuel + 1, depth, cs =>
    match skipBlanks cs with
    | [] => none
    | '"' :: rest => do
      let (s, rest) ← readText (rest.length + 1) [] rest
      return (.text s, rest)
    | '[' :: rest =>
      if depth = 0 then none
      else match skipBlanks rest with
        | ']' :: rest => some (.list [], rest)
        | rest => readItems fuel (depth - 1) [] rest
    | '\x7b' :: rest =>
      if depth = 0 then none
      else match skipBlanks rest with
        | '\x7d' :: rest => some (.object [], rest)
        | rest => readMembers fuel (depth - 1) [] rest
    | 'n' :: rest => readWord ['u', 'l', 'l'] .null rest
    | 't' :: rest => readWord ['r', 'u', 'e'] (.bool true) rest
    | 'f' :: rest => readWord ['a', 'l', 's', 'e'] (.bool false) rest
    | cs => do
      let (n, rest) ← readNumeral cs
      return (← n.value?, rest)

/-- The items of a list from the next one on, the earlier ones in reverse on `acc`. -/
def readItems : Nat → Nat → List Json → List Char → Option (Json × List Char)
  | 0, _, _, _ => none
  | fuel + 1, depth, acc, cs => do
    let (v, rest) ← readValue fuel depth cs
    match skipBlanks rest with
    | ',' :: rest => readItems fuel depth (v :: acc) rest
    | ']' :: rest => some (.list (v :: acc).reverse, rest)
    | _ => none

/-- The members of an object from the next one on, the earlier ones in reverse on `acc`. -/
def readMembers : Nat → Nat → List (String × Json) → List Char → Option (Json × List Char)
  | 0, _, _, _ => none
  | fuel + 1, depth, acc, cs =>
    match skipBlanks cs with
    | '"' :: rest => do
      let (name, rest) ← readText (rest.length + 1) [] rest
      match skipBlanks rest with
      | ':' :: rest =>
        let (v, rest) ← readValue fuel depth rest
        match skipBlanks rest with
        | ',' :: rest => readMembers fuel depth ((name, v) :: acc) rest
        | '\x7d' :: rest => some (.ofMembers ((name, v) :: acc).reverse, rest)
        | _ => none
      | _ => none
    | _ => none

end

def read? (s : String) : Option Json := do
  let cs := s.toList
  let (v, rest) ← readValue (cs.length + 1) depthLimit cs
  if (skipBlanks rest).isEmpty then some v else none

end Journal.Json
