import Journal.Decimal.Shortest

/-!
# How a decimal is laid out

The digits of a number are fixed by `Binary.shortest`; a format then decides where positional
notation ends, whether a whole number keeps a fraction, how an exponent is signed and how zero is
written. A `Layout` records these decisions, and two formats are given: the plain one of JSON
documents and diagnostics, and the canonical one of hashed requests.
-/

namespace Journal.Decimal

/-- The decisions of a number format. A number `0.d₁d₂… · 10 ^ p` is written with an exponent when
`p` is at most `smallPoint` or greater than `largePoint`, and positionally between the two; the
marks are what follows a whole number, what precedes a positive exponent, and how the two zeros are
written. -/
structure Layout where
  smallPoint : Int
  largePoint : Int
  wholeMark : String
  plusMark : String
  negativeZero : String
  positiveZero : String
  deriving DecidableEq, Repr

/-- JSON documents and diagnostics: positional from `0.00001` up to sixteen digits before the point,
a whole number keeps a zero after the point. -/
def Layout.plain : Layout := ⟨-5, 16, ".0", "+", "-0.0", "0.0"⟩

/-- Canonical requests: positional from `0.000001` up to twenty-one digits before the point, no
needless point, and one zero only. -/
def Layout.canonical : Layout := ⟨-6, 21, "", "+", "0", "0"⟩

def Layout.digits (l : Layout) (d : Decimal) : String :=
  let ds := Nat.toDigits 10 d.digits
  let n : Int := ds.length
  let point := n + d.exponent
  if l.smallPoint < point ∧ point ≤ l.largePoint then
    if 0 ≤ d.exponent then
      String.ofList (ds ++ List.replicate d.exponent.toNat '0') ++ l.wholeMark
    else if 0 < point then
      String.ofList (ds.take point.toNat ++ '.' :: ds.drop point.toNat)
    else
      String.ofList ('0' :: '.' :: List.replicate (-point).toNat '0' ++ ds)
  else
    let e := point - 1
    let sign := if e < 0 then "-" else l.plusMark
    let fraction := if ds.length ≤ 1 then [] else '.' :: ds.drop 1
    String.ofList (ds.take 1 ++ fraction) ++ "e" ++ sign ++ toString e.natAbs

/-- The text of a finite double, and nothing for the others. -/
def Layout.float? (l : Layout) (x : Float) : Option String :=
  match magnitude x with
  | (true, .zero) => some l.negativeZero
  | (false, .zero) => some l.positiveZero
  | (true, .positive b) => some ("-" ++ l.digits b.shortest)
  | (false, .positive b) => some (l.digits b.shortest)
  | (_, .infinite) | (_, .notANumber) => none

end Journal.Decimal
