import Journal.Json.Writer
import Journal.Text.Units

/-!
# The canonical text of a value

Two values that differ only in the order of members or in how a number is written have one canonical
text: no blanks, members ordered by the UTF-16 units of their names, every number taken as a double
and written by `Layout.canonical`. The text holds no line break, since controls are escaped in
texts.
-/

namespace Journal.Json

/-- Canonical text of a double. One that is not finite has no text in JSON, and is written `null`
here as well. -/
def canonicalFloat (x : Float) : List Char :=
  ((Decimal.Layout.canonical.float? x).getD "null").toList

/-- The first member stands no later than the second, by the UTF-16 units of their names. That is
not the order of the characters where some lie beyond the basic plane. -/
def memberLE (a b : String × List Char) : Bool :=
  Text.unitsLE a.1 b.1

def canonicalMember (m : String × List Char) : List Char :=
  writtenText m.1 ++ ':' :: m.2

mutual

def canonical : Json → List Char
  | .null => ['n', 'u', 'l', 'l']
  | .bool true => ['t', 'r', 'u', 'e']
  | .bool false => ['f', 'a', 'l', 's', 'e']
  | .int n => canonicalFloat (Float.ofInt n)
  | .float x => canonicalFloat x
  | .text s => writtenText s
  | .list items => '[' :: commaSeparated (canonicalItems items) ++ [']']
  | .object members =>
    let sorted := (canonicalMembers members).mergeSort memberLE
    '\x7b' :: commaSeparated (sorted.map canonicalMember) ++ ['\x7d']

def canonicalItems : List Json → List (List Char)
  | [] => []
  | v :: rest => canonical v :: canonicalItems rest

def canonicalMembers : List (String × Json) → List (String × List Char)
  | [] => []
  | (k, v) :: rest => (k, canonical v) :: canonicalMembers rest

end

end Journal.Json
