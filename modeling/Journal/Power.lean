/-!
# Powers of numbers

A power such as `2 ^ 64` is the one of the numbers' own arithmetic, whatever else powers are defined
for where it is written.
-/

namespace Journal

@[default_instance 20000]
instance (priority := 2000) ownPower {α : Type} [NatPow α] : Pow α Nat := instPowNat

end Journal
