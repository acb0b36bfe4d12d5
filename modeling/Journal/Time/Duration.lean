import Journal.Power

/-!
# Lengths of time

A duration is a whole number of nanoseconds. Where it is exchanged it is split into seconds and the
nanoseconds that are left, and the seconds are limited to sixty-four bits.
-/

namespace Journal

structure Duration where
  nanos : Nat
  deriving DecidableEq, Repr

namespace Duration

def nanosPerSecond : Nat := 1000000000

def nanosPerMilli : Nat := 1000000

def zero : Duration := ⟨0⟩

def ofSeconds (n : Nat) : Duration := ⟨n * nanosPerSecond⟩

def ofMillis (n : Nat) : Duration := ⟨n * nanosPerMilli⟩

def ofHours (n : Nat) : Duration := ofSeconds (n * 3600)

def seconds (d : Duration) : Nat := d.nanos / nanosPerSecond

def subsecond (d : Duration) : Nat := d.nanos % nanosPerSecond

/-- The milliseconds, a started one counted in full: clocks tick once in a millisecond. -/
def ticks (d : Duration) : Nat := (d.nanos + (nanosPerMilli - 1)) / nanosPerMilli

/-- The seconds as a double: the whole seconds and the rest are rounded apart from each other before
they are added. -/
def toSeconds (d : Duration) : Float :=
  Float.ofNat d.seconds + Float.ofNat d.subsecond / Float.ofNat nanosPerSecond

def max (a b : Duration) : Duration := ⟨Nat.max a.nanos b.nanos⟩

instance : LE Duration := ⟨fun a b => a.nanos ≤ b.nanos⟩

instance (a b : Duration) : Decidable (a ≤ b) := Nat.decLe a.nanos b.nanos

/-- A duration from seconds and nanoseconds, of which a full second is carried over; nothing when
the seconds then exceed sixty-four bits. -/
def ofParts? (seconds nanos : Nat) : Option Duration :=
  if seconds + nanos / nanosPerSecond < 2 ^ 64 then some ⟨seconds * nanosPerSecond + nanos⟩
    else none

end Duration

end Journal
