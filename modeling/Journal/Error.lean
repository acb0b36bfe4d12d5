/-!
# Failures of the domain

`DomainError` is what a decision or a constructor can refuse with, before any storage is touched.
Its text is that of whoever refuses; the three kinds differ in what the caller should do about them.
-/

namespace Journal

/-- A refusal that does not depend on storage: a value broke a rule, an identifier could not be
read, or the request contradicts what is already there. -/
inductive DomainError
  | validation (reason : String)
  | invalidId (reason : String)
  | conflict (reason : String)
  deriving DecidableEq, Repr

namespace DomainError

def reason : DomainError → String
  | .validation r | .invalidId r | .conflict r => r

def message : DomainError → String
  | .validation r => s!"validation failed: {r}"
  | .invalidId r => s!"invalid identifier: {r}"
  | .conflict r => s!"conflict: {r}"

end DomainError

end Journal
