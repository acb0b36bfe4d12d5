import Journal.Text.Printable

/-!
# Quoted text

Diagnostics show a text between double quotes, so that its ends and its invisible characters can be
seen: a quote and a backslash are preceded by a backslash, the common controls have short names,
and every other character that does not show as itself is written as its code point.
-/

namespace Journal.Text

/-- The digits of a number to the base sixteen, in lower case and without leading zeros. -/
def hexDigits (n : Nat) : List Char :=
  Nat.toDigits 16 n

def quotedChar (c : Char) : List Char :=
  if c = '\x00' then ['\\', '0']
  else if c = '\t' then ['\\', 't']
  else if c = '\n' then ['\\', 'n']
  else if c = '\r' then ['\\', 'r']
  else if c = '"' then ['\\', '"']
  else if c = '\\' then ['\\', '\\']
  else if isPrintable c then [c]
  else ['\\', 'u', '\x7b'] ++ hexDigits c.toNat ++ ['\x7d']

def quoted (s : String) : String :=
  String.ofList ('"' :: s.toList.flatMap quotedChar ++ ['"'])

end Journal.Text
