import Journal.Json
import Journal.Decimal.Layout

/-!
# Writing JSON text

`Json.write` gives the compact text of a value: no blanks, members in the order of their names,
numbers with a fraction or exponent kept apart from whole ones (`Layout.plain`). A quote, a
backslash and the controls are escaped in texts, and nothing else is.
-/

namespace Journal.Json

def hexDigit (n : Nat) : Char :=
  if n < 10 then Char.ofNat ('0'.toNat + n) else Char.ofNat ('a'.toNat + (n - 10))

def escapedChar (c : Char) : List Char :=
  if c = '"' then ['\\', '"']
  else if c = '\\' then ['\\', '\\']
  else if c = '\x08' then ['\\', 'b']
  else if c = '\x0c' then ['\\', 'f']
  else if c = '\n' then ['\\', 'n']
  else if c = '\r' then ['\\', 'r']
  else if c = '\t' then ['\\', 't']
  else if c.toNat < 0x20 then
    ['\\', 'u', '0', '0', hexDigit (c.toNat / 16), hexDigit (c.toNat % 16)]
  else [c]

def writtenText (s : String) : List Char :=
  '"' :: s.toList.flatMap escapedChar ++ ['"']

def commaSeparated : List (List Char) → List Char
  | [] => []
  | [x] => x
  | x :: y :: rest => x ++ ',' :: commaSeparated (y :: rest)

mutual

/-- The compact text of a value. A number that is not finite has no text in JSON and is written
`null`. -/
def written : Json → List Char
  | .null => ['n', 'u', 'l', 'l']
  | .bool true => ['t', 'r', 'u', 'e']
  | .bool false => ['f', 'a', 'l', 's', 'e']
  | .int n => (toString n).toList
  | .float x => ((Decimal.Layout.plain.float? x).getD "null").toList
  | .text s => writtenText s
  | .list items => '[' :: commaSeparated (writtenItems items) ++ [']']
  | .object members => '\x7b' :: commaSeparated (writtenMembers members) ++ ['\x7d']

def writtenItems : List Json → List (List Char)
  | [] => []
  | v :: rest => written v :: writtenItems rest

def writtenMembers : List (String × Json) → List (List Char)
  | [] => []
  | (k, v) :: rest => (writtenText k ++ ':' :: written v) :: writtenMembers rest

end

def write (v : Json) : String :=
  String.ofList (written v)

end Journal.Json
