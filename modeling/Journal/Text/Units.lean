/-!
# UTF-16 code units and the order they give

Some formats order texts by their UTF-16 code units. Within the basic plane this is the order of
code points; a character outside it is written as two surrogates (U+D800 to U+DFFF) and so stands
before the characters from U+E000 to U+FFFF. `unitsLE` compares two texts in that order.
-/

namespace Journal.Text

def charUnits (c : Char) : List Nat :=
  let n := c.toNat
  if n < 0x10000 then [n]
  else [0xd800 + (n - 0x10000) / 0x400, 0xdc00 + (n - 0x10000) % 0x400]

def units (s : String) : List Nat :=
  s.toList.flatMap charUnits

/-- The first text comes no later than the second in the order of UTF-16 code units. -/
def unitsLE (a b : String) : Bool :=
  !(units b).lex (units a) fun m n => decide (m < n)

end Journal.Text
