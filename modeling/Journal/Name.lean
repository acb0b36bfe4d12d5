/-!
# Dotted names

Kinds of aggregates and types of events have names such as `org`, `org.created` or
`volume_attachment`: at most sixty-four bytes of lower-case ASCII letters, digits, underscores and
dots, with no dot at either end.
-/

namespace Journal

inductive NameFault
  | empty
  | tooLong (bytes : Nat)
  | malformed
  deriving DecidableEq, Repr

namespace Name

def mostBytes : Nat := 64

def isNameChar (c : Char) : Bool :=
  ('a' ≤ c && c ≤ 'z') || ('0' ≤ c && c ≤ '9') || c == '_' || c == '.'

/-- The first fault of a name: emptiness before length, length before form. -/
def fault? (name : String) : Option NameFault :=
  let cs := name.toList
  if cs.isEmpty then some .empty
  else if mostBytes < name.utf8ByteSize then some (.tooLong name.utf8ByteSize)
  else if cs.all isNameChar && cs.head? != some '.' && cs.getLast? != some '.' then none
  else some .malformed

end Name

def NameFault.message (field name : String) : NameFault → String
  | .empty => s!"{field} must not be empty"
  | .tooLong bytes => s!"{field} must be at most 64 bytes (got {bytes})"
  | .malformed =>
    s!"{field} '{name}' must be lowercase [a-z0-9_.] without leading or trailing dots"

end Journal
