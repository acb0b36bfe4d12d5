import Journal.Codec.Event
import Journal.Projection.View

/-!
# Tallies

A tally is the state of a projection whose handlers are given by rules instead of code: it keeps
names and sums under keys and the positions of events. A list of rules makes a registry; a rule that
the registry refuses is left out. The sums are kept in sixty-four bits and wrap around.
-/

namespace Journal.Simulation

structure Tally where
  names : Keyed String String
  sums : Keyed String Int
  log : List EventId

namespace Tally

def empty : Tally := ⟨.empty, .empty, []⟩

def add (t : Tally) (key : String) (amount : Int) : Tally :=
  { t with sums := t.sums.insert key (Int.bmod ((t.sums.get? key).getD 0 + amount) (2 ^ 64)) }

def setName (t : Tally) (key name : String) : Tally := { t with names := t.names.insert key name }

def toJson (t : Tally) : Json :=
  .ofMembers [("names", .ofMembers (t.names.entries.map fun (k, v) => (k, .text v))),
    ("sums", .ofMembers (t.sums.entries.map fun (k, v) => (k, .int v))), ("log",
      .list (t.log.map EventId.toJson))]

/-! ## Rules -/

/-- What a rule does with the payload of an event as it is: it notes the event's position, adds the
payload's amount to the sum of the aggregate or forgets that sum, sets the aggregate's name, refuses
the event, or crashes. -/
inductive Action
  | log
  | sum
  | close
  | name
  | reject
  | crash
  deriving DecidableEq, Repr

inductive Typed
  | orgCreated
  | orgRenamed
  | usageRecorded
  deriving DecidableEq, Repr

inductive Rule
  | raw (type : String) (version : Nat) (action : Action)
  | typed (t : Typed)
  | ignore (type : String)
  deriving DecidableEq, Repr

def Typed.shape : Typed → Payload.Shape
  | .orgCreated => ⟨"org.created", 1, "OrgCreated", [("name", .text)]⟩
  | .orgRenamed => ⟨"org.renamed", 2, "OrgRenamed", [("display_name", .text)]⟩
  | .usageRecorded =>
    ⟨"usage.recorded", 3, "UsageRecorded", [("amount", .integer), ("unit", .optionalText)]⟩

def textMember (payload : Json) (name standard : String) : String :=
  ((payload.member? name).bind Json.text?).getD standard

/-- The amount in a payload, zero unless it is a whole number of sixty-four bits. -/
def amountOf (payload : Json) : Int :=
  match payload.member? "amount" with
  | some (.int n) => if -2 ^ 63 ≤ n ∧ n < 2 ^ 63 then n else 0
  | _ => 0

def act (a : Action) (t : Tally) (e : Envelope Json) : Attempt ProjectionError Tally :=
  match a with
  | .log => .ok { t with log := t.log ++ [e.id] }
  | .sum => .ok (t.add e.aggregate.id (amountOf e.payload))
  | .close => .ok { t with sums := t.sums.erase e.aggregate.id }
  | .name => .ok (t.setName e.aggregate.id (textMember e.payload "name" ""))
  | .reject => .error (.failed (.rejected e.id (textMember e.payload "reason" "no reason")))
  | .crash => .error .crashed

def actTyped (t : Tally) (e : Envelope Payload.Fields) : Tally :=
  e.payload.foldl (fun t (name, value) =>
    match name, value with
    | "name", .text s | "display_name", .text s => t.setName e.aggregate.id s
    | "amount", .integer n =>
      match e.payload.find? (·.1 == "unit") with
      | some (_, .text unit) => t.add unit n
      | _ => t.add "none" n
    | _, _ => t) t

def Rule.register (r : Registry Tally) : Rule → Except ProjectionError (Registry Tally)
  | .raw type version action => r.register type version (act action)
  | .typed t => r.registerTyped t.shape fun tally e => .ok (actTyped tally e)
  | .ignore type => r.ignore type

/-- The registry of a list of rules, and for each rule the number of handlers after it or why it was
refused. -/
def register (r : Registry Tally) : List Rule → List (Except ProjectionError Nat) × Registry Tally
  | [] => ([], r)
  | rule :: rest =>
    match rule.register r with
    | .ok r =>
      let (results, last) := register r rest
      (.ok r.size :: results, last)
    | .error e =>
      let (results, last) := register r rest
      (.error e :: results, last)

/-! ## Descriptions -/

/-- What a tallying projection is made of: rules, which may contradict each other, a state that was
kept and how far it is, and a filter for the view. -/
structure Description where
  rules : List Rule
  initial : Tally
  resume : Option (Tally × EventId)
  org : Option OrgId
  filter : Option Filter

def Description.registry (d : Description) : Registry Tally := (register .empty d.rules).2

def Description.projection (d : Description) : Projection Tally :=
  match d.resume with
  | some (state, watermark) => .resume d.registry d.initial state watermark
  | none => .start d.registry d.initial

def Description.tracker (d : Description) : Tracker Tally := .start d.projection d.org

def Description.view (d : Description) (name : String) : View Tally :=
  let view := View.make name d.tracker
  match d.filter with
  | some f => view.withFilter f
  | none => view

end Tally

end Journal.Simulation
