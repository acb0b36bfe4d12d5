import Journal.Decimal.Layout
import Journal.Event
import Journal.Store.Error
import Journal.Text.Quoted

/-!
# Typed payloads

A `Shape` names the type and version of an event and the fields of its payload. Decoding a payload
checks the members of the object in their order against the fields, passes over members that are no
field, and asks last for fields that are missing, in the order of the shape; what goes wrong first
is reported.
-/

namespace Journal.Payload

inductive FieldKind
  | text
  | integer
  | optionalText
  deriving DecidableEq, Repr

inductive Value
  | text (s : String)
  | integer (n : Int)
  | absent
  deriving DecidableEq, Repr

/-- The payload of one version of a type of event: the name that it has in diagnostics, and its
fields with what they hold. A handler that works on decoded payloads declares it. -/
structure Shape where
  type : String
  version : Nat
  name : String
  fields : List (String × FieldKind)
  deriving DecidableEq, Repr

abbrev Fields := List (String × Value)

inductive Fault
  | wrongType (found : Json) (expected : String)
  | outOfRange (n : Int)
  | missing (field : String)
  | tooShort (length : Nat) (shape : String) (fields : Nat)
  | tooLong (length : Nat)
  deriving DecidableEq

def describe : Json → String
  | .null => "null"
  | .bool b => s!"boolean `{b}`"
  | .int n => s!"integer `{n}`"
  | .float x => "floating point `" ++ (Decimal.Layout.plain.float? x).getD "NaN" ++ "`"
  | .text s => "string " ++ Text.quoted s
  | .list _ => "sequence"
  | .object _ => "map"

def Fault.message : Fault → String
  | .wrongType found expected => "invalid type: " ++ describe found ++ ", expected " ++ expected
  | .outOfRange n => s!"invalid value: integer `{n}`, expected i64"
  | .missing field => s!"missing field `{field}`"
  | .tooShort length shape fields =>
    let noun := if fields = 1 then "element" else "elements"
    s!"invalid length {length}, expected struct {shape} with {fields} {noun}"
  | .tooLong length => s!"invalid length {length}, expected fewer elements in array"

def FieldKind.decode : FieldKind → Json → Except Fault Value
  | .text, .text s => .ok (.text s)
  | .text, v => .error (.wrongType v "a string")
  | .integer, .int n =>
    if -2 ^ 63 ≤ n ∧ n < 2 ^ 63 then .ok (.integer n) else .error (.outOfRange n)
  | .integer, v => .error (.wrongType v "i64")
  | .optionalText, .null => .ok .absent
  | .optionalText, .text s => .ok (.text s)
  | .optionalText, v => .error (.wrongType v "a string")

/-- The value of a field that a payload does not have. An optional field is absent then, and any
other is missed by its name. -/
def FieldKind.missing (field : String) : FieldKind → Except Fault Value
  | .optionalText => .ok .absent
  | .text | .integer => .error (.missing field)

namespace Shape

/-- Decode the members of a payload that are fields. Other members are passed over, so that a
payload may have more than its shape. -/
def decodeMembers (s : Shape) : List (String × Json) → Except Fault Fields
  | [] => .ok []
  | (name, v) :: rest =>
    match s.fields.find? (·.1 == name) with
    | none => decodeMembers s rest
    | some (_, kind) => do
      let value ← kind.decode v
      let others ← decodeMembers s rest
      return (name, value) :: others

def complete (found : Fields) : List (String × FieldKind) → Except Fault Fields
  | [] => .ok []
  | (name, kind) :: rest => do
    let value ← match found.find? (·.1 == name) with
      | some (_, value) => .ok value
      | none => kind.missing name
    let others ← complete found rest
    return (name, value) :: others

/-- Decode a payload that lists the values of the fields without their names. -/
def decodeItems (s : Shape) (length : Nat) : List (String × FieldKind) → List Json →
    Except Fault Fields
  | [], [] => .ok []
  | [], _ :: _ => .error (.tooLong length)
  | _ :: _, [] => .error (.tooShort length s.name s.fields.length)
  | (name, kind) :: fields, v :: rest => do
    let value ← kind.decode v
    let others ← decodeItems s length fields rest
    return (name, value) :: others

def decode (s : Shape) : Json → Except Fault Fields
  | .object members => do
    let found ← s.decodeMembers members
    complete found s.fields
  | .list items => s.decodeItems items.length s.fields items
  | v => .error (.wrongType v ("struct " ++ s.name))

def encode (values : Fields) : Json :=
  .ofMembers <| values.map fun (name, value) =>
    (name, match value with
      | .text s => .text s
      | .integer n => .int n
      | .absent => .null)

/-- An event with a typed payload; the payload may have failed to become a value. -/
def draft (s : Shape) (occurredAt : Instant) (provenance : Provenance)
    (payload : Except String Json) :
    Except StoreError Draft :=
  match payload with
  | .ok v => .ok ⟨s.type, s.version, occurredAt, provenance, v⟩
  | .error reason => .error (.validation s!"payload serialization failed: {reason}")

end Shape

end Journal.Payload
