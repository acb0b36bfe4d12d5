/-!
# How supplied code ends

Handlers, decisions and responses are code that a caller supplies. Such code answers, or fails with
an error of its own, or crashes; a crash leaves behind whatever the code held.
-/

namespace Journal

/-- How supplied code ended that gave no answer. It failed with an error that it has chosen, or it
crashed, of which nothing is known but that it happened half-way. -/
inductive Stop (ε : Type) where
  | failed (error : ε)
  | crashed
  deriving DecidableEq, Repr

/-- What supplied code leaves: an answer, an error of its own, or nothing because it crashed. -/
abbrev Attempt (ε α : Type) := Except (Stop ε) α

namespace Attempt

def ofExcept {ε α : Type} : Except ε α → Attempt ε α
  | .ok a => .ok a
  | .error e => .error (.failed e)

def mapError {ε ε' α : Type} (f : ε → ε') : Attempt ε α → Attempt ε' α
  | .ok a => .ok a
  | .error (.failed e) => .error (.failed (f e))
  | .error .crashed => .error .crashed

end Attempt

end Journal
