import Journal.Event
import Journal.Store.Error

/-!
# Reading the log

Readers page through the whole log in its order. What a reader may see depends on its scope: an
organization sees its own events, the system's own consumers see those of all organizations, and
both see nothing of the kinds of aggregates that the policy names as infrastructure; an elevated
reader sees everything. `Access.authorize` turns a request into the access that is granted, or says
why it is denied; a page is then cut from the events that the access matches.
-/

namespace Journal

/-! ## Limits and filters -/

def standardPageSize : Nat := 100

def largestPageSize : Nat := 1000

/-- The size of a page, from what was asked for. Zero is raised to one and too many are cut to the
largest size, so that a reader is never refused for a number. -/
def pageSize (asked : Option Nat) : Nat :=
  max 1 (min (asked.getD standardPageSize) largestPageSize)

structure Filter where
  org : Option OrgId
  kind : Option AggregateKind
  aggregateId : Option String
  type : Option String
  deriving DecidableEq

namespace Filter

def all : Filter := ⟨none, none, none, none⟩

def accepts (f : Filter) (e : Event) : Bool :=
  f.org.all (fun o => e.org == some o) && f.kind.all (fun k => e.aggregate.kind == k) &&
    f.aggregateId.all (fun i => e.aggregate.id == i) && f.type.all (fun t => e.type == t)

end Filter

/-! ## Scopes and policies -/

/-- Who is reading: a tenant, who sees the events of one organization; the system's own consumers,
who see those of all; and operators, who see the infrastructure too. -/
inductive Scope
  | org (id : OrgId)
  | internal
  | elevated
  deriving DecidableEq

/-- The kinds of aggregates that only an elevated reader sees, in the order of their names and each
once. -/
structure Policy where
  kinds : List AggregateKind
  deriving DecidableEq

namespace Policy

def insertKind (k : AggregateKind) : List AggregateKind → List AggregateKind
  | [] => [k]
  | l :: rest =>
    if k.name < l.name then k :: l :: rest
    else if k = l then l :: rest
    else l :: insertKind k rest

def ofKinds (ks : List AggregateKind) : Policy :=
  ⟨ks.foldl (fun acc k => insertKind k acc) []⟩

/-- The kind of the machines that everything runs on. -/
def node : AggregateKind := ⟨"node", by decide⟩

/-- The policy when none is given. -/
def standard : Policy := ofKinds [node]

def isInfrastructure (p : Policy) (k : AggregateKind) : Bool := p.kinds.contains k

end Policy

/-! ## Access -/

/-- Why a read is denied. A read that would show nothing because everything is hidden is denied
instead, when it asks for what is hidden by name. -/
inductive Denial
  | foreignOrg (reader asked : OrgId)
  | infrastructure (kind : AggregateKind)
  deriving DecidableEq

def Denial.message : Denial → String
  | .foreignOrg reader asked => s!"org {reader.text} may not read events of org {asked.text}"
  | .infrastructure kind => s!"aggregate type '{kind.name}' requires an elevated read scope"

/-- A read as it is granted. The filter is narrowed to what the reader may see, and the hidden kinds
are excluded; whoever carries it out needs to know nothing about the reader. -/
structure Access where
  after : EventId
  limit : Nat
  filter : Filter
  excluded : List AggregateKind
  deriving DecidableEq

namespace Access

def denyInfrastructure (f : Filter) (p : Policy) : Except Denial Unit :=
  match f.kind with
  | some k => if p.isInfrastructure k then .error (.infrastructure k) else .ok ()
  | none => .ok ()

/-- The access that a request is granted. A tenant who names another organization is denied, and one
who names none gets its own; the kinds are looked at after that, so that a foreign organization is
what is told of both. -/
def grant (after : EventId) (limit : Option Nat) (f : Filter) (s : Scope) (p : Policy) :
    Except Denial Access :=
  match s with
  | .org o =>
    match f.org with
    | some asked =>
      if asked = o then do
        denyInfrastructure f p
        return ⟨after, pageSize limit, f, p.kinds⟩
      else .error (.foreignOrg o asked)
    | none => do
      denyInfrastructure f p
      return ⟨after, pageSize limit, { f with org := some o }, p.kinds⟩
  | .internal => do
    denyInfrastructure f p
    return ⟨after, pageSize limit, f, p.kinds⟩
  | .elevated => return ⟨after, pageSize limit, f, []⟩

def authorize (after : EventId) (limit : Option Nat) (f : Filter) (s : Scope) (p : Policy) :
    Except StoreError Access :=
  match grant after limit f s p with
  | .ok a => .ok a
  | .error d => .error (.forbidden d.message)

def accepts (a : Access) (e : Event) : Bool :=
  a.after < e.id && !a.excluded.contains e.aggregate.kind && a.filter.accepts e

end Access

/-! ## Pages -/

/-- A stretch of the log as a reader sees it, and where to go on: after the last event when there
are more, else after the head of the log. Going on from the head passes over everything that the
filter hides, which would otherwise be looked through again with every read. -/
structure Page where
  events : List Event
  next : EventId
  hasMore : Bool
  deriving DecidableEq

/-- The page of an access, from the events it accepts in order (one more than the page holds is
enough) and the head of the log at that moment. A reader that is beyond the head stays where it
is. -/
def Access.page (a : Access) (accepted : List Event) (head : EventId) : Page :=
  let events := accepted.take a.limit
  if a.limit < accepted.length then
    ⟨events, (events.getLast?.map (·.id)).getD a.after, true⟩
  else ⟨events, max head a.after, false⟩

end Journal
