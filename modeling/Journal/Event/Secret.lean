import Journal.Json

/-!
# Secret material in payloads

A payload must not carry credentials. The name of a member gives them away: it is one of a few
words, or ends in one of them after an underscore or a hyphen, in any case of ASCII letters.
`Secret.path?` finds the first such member, from the outside in and in the order of members and
items.
-/

namespace Journal.Secret

def words : List String :=
  ["password", "secret", "token", "private_key", "credential", "credentials", "api_key"]

/-- The name with its ASCII letters in lower case. Other letters have no lower case here, and no
word contains any. -/
def folded (name : String) : List Char :=
  name.toList.map Char.toLower

/-- The name is the word, or ends in it after an underscore or a hyphen. A word in the middle of a
name is harmless, and so is one that runs on from another. -/
def matchesWord (name word : List Char) : Bool :=
  name == word || ('_' :: word).isSuffixOf name || ('-' :: word).isSuffixOf name

def isSecretName (name : String) : Bool :=
  words.any fun w => matchesWord (folded name) w.toList

def memberPath (path name : String) : String :=
  if path.isEmpty then name else path ++ "." ++ name

def itemPath (path : String) (i : Nat) : String :=
  path ++ "[" ++ toString i ++ "]"

mutual

/-- The path to the first member whose name gives away secret material. -/
def path? (path : String) : Json → Option String
  | .object members => memberPath? path members
  | .list items => itemPath? path 0 items
  | _ => none

def memberPath? (path : String) : List (String × Json) → Option String
  | [] => none
  | (name, v) :: rest =>
    if isSecretName name then some (memberPath path name)
    else match path? (memberPath path name) v with
      | some found => some found
      | none => memberPath? path rest

def itemPath? (path : String) (i : Nat) : List Json → Option String
  | [] => none
  | v :: rest =>
    match path? (itemPath path i) v with
    | some found => some found
    | none => itemPath? path (i + 1) rest

end

end Journal.Secret
