import Journal.Time.Duration

/-!
# Pauses

A pause lasts thirty years at most, however long it was meant to be.
-/

namespace Journal.Simulation

/-- The ticks of the longest pause: thirty years of 365 days. -/
def longestPause : Nat := 30 * 365 * 86400 * 1000

def pauseTicks (ticks : Nat) : Nat := min ticks longestPause

end Journal.Simulation
