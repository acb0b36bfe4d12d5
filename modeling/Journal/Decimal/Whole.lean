/-!
# Reading whole numbers

A whole number without a sign of its own is written in decimal digits, and a plus may precede them.
What is read must stay below a limit; the first character that is no digit, or the first that takes
the number to the limit, is the fault that is reported.
-/

namespace Journal.Decimal

inductive WholeFault
  | empty
  | invalidDigit
  | tooLarge
  deriving DecidableEq, Repr

def WholeFault.message : WholeFault → String
  | .empty => "cannot parse integer from empty string"
  | .invalidDigit => "invalid digit found in string"
  | .tooLarge => "number too large to fit in target type"

/-- Take a number one digit further. The limit is checked at every digit and not at the end, so that
the first character that is wrong in either way decides the fault. -/
def nextDigit (limit n : Nat) (c : Char) : Except WholeFault Nat :=
  if c.isDigit then
    let m := n * 10 + (c.toNat - '0'.toNat)
    if m < limit then .ok m else .error .tooLarge
  else .error .invalidDigit

def wholeOfDigits (limit : Nat) (ds : List Char) : Except WholeFault Nat :=
  ds.foldlM (nextDigit limit) 0

/-- Read a whole number below a limit. A plus sign may stand before it, but not by itself. -/
def readWhole (limit : Nat) (s : String) : Except WholeFault Nat :=
  match s.toList with
  | [] => .error .empty
  | ['+'] => .error .invalidDigit
  | '+' :: ds => wholeOfDigits limit ds
  | ds => wholeOfDigits limit ds

end Journal.Decimal
