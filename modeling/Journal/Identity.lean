import Journal.Error
import Journal.Uuid
import Journal.Name
import Journal.Power
import Journal.Text.Blank

/-!
# Identities

Who an event belongs to, who caused it, and where it stands: organizations and requests are named by
universally unique identifiers, events by their position in the whole log, aggregates by a kind and
an identifier of their own.
-/

namespace Journal

/-! ## Organizations and requests -/

/-- An organization, the boundary between tenants. -/
structure OrgId where
  uuid : Uuid
  deriving DecidableEq

structure RequestId where
  uuid : Uuid
  deriving DecidableEq

namespace OrgId

def text (o : OrgId) : String := o.uuid.text

def parse (s : String) : Except DomainError OrgId :=
  match Uuid.parse? s with
  | some u => .ok ⟨u⟩
  | none => .error (.invalidId "OrgId: ")

end OrgId

namespace RequestId

def text (r : RequestId) : String := r.uuid.text

def parse (s : String) : Except DomainError RequestId :=
  match Uuid.parse? s with
  | some u => .ok ⟨u⟩
  | none => .error (.invalidId "RequestId: ")

end RequestId

/-! ## Positions -/

/-- The position of an event in the whole log, counted from one; zero stands before the first
event. -/
abbrev EventId := Nat

/-- The position of an event among those of its aggregate, counted from one; zero for an aggregate
without events. -/
abbrev Seq := Nat

def firstAssigned (expected : Seq) : Seq := expected + 1

/-- The largest number that a signed column of sixty-four bits holds. -/
def largestColumn : Int := 2 ^ 63 - 1

/-- A position as a signed column. What is too large becomes the largest value: no position comes
that far, and a reader that asks from beyond it finds nothing either way. -/
def toColumn (n : Nat) : Int := min (n : Int) largestColumn

/-- A position from a signed column; what is negative becomes zero. -/
def ofColumn (n : Int) : Nat := n.toNat

/-! ## Actors -/

inductive ActorKind
  | user
  | servicePrincipal
  | system
  deriving DecidableEq, Repr

namespace ActorKind

def name : ActorKind → String
  | .user => "user"
  | .servicePrincipal => "service_principal"
  | .system => "system"

def ofName? (s : String) : Option ActorKind :=
  if s = "user" then some .user
  else if s = "service_principal" then some .servicePrincipal
  else if s = "system" then some .system
  else none

def parse (s : String) : Except DomainError ActorKind :=
  match ofName? s with
  | some k => .ok k
  | none => .error (.invalidId s!"unknown actor type '{s}'")

/-- The actor of events that name no other. -/
def standard : ActorKind := .system

@[simp] theorem ofName?_name (k : ActorKind) : ofName? k.name = some k := by
  cases k <;> decide

end ActorKind

/-! ## Aggregates -/

/-- A kind of aggregate, such as `org` or `node`: a dotted name without fault. -/
structure AggregateKind where
  name : String
  faultless : Name.fault? name = none
  deriving DecidableEq

namespace AggregateKind

def parse (name : String) : Except DomainError AggregateKind :=
  match h : Name.fault? name with
  | none => .ok ⟨name, h⟩
  | some f => .error (.validation (f.message "aggregate_type" name))

def ofName? (name : String) : Option AggregateKind :=
  if h : Name.fault? name = none then some ⟨name, h⟩ else none

@[simp] theorem ofName?_name (k : AggregateKind) : ofName? k.name = some k := by
  simp [ofName?, k.faultless]

end AggregateKind

/-- The owner of a stream of events. The identifier is only checked where an aggregate is made
(`Aggregate.make`), so that one that comes from elsewhere may have any text. -/
structure Aggregate where
  kind : AggregateKind
  id : String
  deriving DecidableEq

namespace Aggregate

def mostIdBytes : Nat := 255

def make (kind : AggregateKind) (id : String) : Except DomainError Aggregate :=
  if Text.blank id then .error (.validation "aggregate_id must not be empty")
  else if mostIdBytes < id.utf8ByteSize then
    .error (.validation "aggregate_id must be at most 255 bytes")
  else .ok ⟨kind, id⟩

def text (a : Aggregate) : String := s!"{a.kind.name}/{a.id}"

/-- The first aggregate comes before the second: by kind, then by identifier. -/
def before (a b : Aggregate) : Bool :=
  a.kind.name < b.kind.name || (a.kind.name == b.kind.name && a.id < b.id)

def insertSorted (a : Aggregate) : List Aggregate → List Aggregate
  | [] => [a]
  | b :: rest =>
    if a.before b then a :: b :: rest
    else if a = b then b :: rest
    else b :: insertSorted a rest

/-- Aggregates in order, each once. -/
def sorted (as : List Aggregate) : List Aggregate :=
  as.foldl (fun acc a => insertSorted a acc) []

end Aggregate

end Journal
