import Journal.Keyed
import Journal.Read

/-!
# The log in memory

The log is one list of events in the order in which they were committed; beside it an index has the
places of each aggregate's events. An append names the position at which the writer believes the
aggregate to be, and is refused when the aggregate is elsewhere. `Log.append` writes a batch as a
whole: the events stand next to each other in the whole log and continue the numbering of their
aggregate.
-/

namespace Journal

/-- A log of events with an index by aggregate. The index has the places of each aggregate's events,
from zero and in ascending order; it says nothing that the events do not, and spares looking through
all of them. -/
structure Log where
  events : Array Event
  places : Keyed Aggregate (Array Nat)

namespace Log

def empty : Log := ⟨#[], .empty⟩

def toList (l : Log) : List Event := l.events.toList

/-- The position of the last event, zero when there is none. Positions have no gaps, so that it is
the number of events. -/
def head (l : Log) : EventId := l.events.size

def placesOf (l : Log) (a : Aggregate) : Array Nat := (l.places.get? a).getD #[]

/-- The number of the aggregate's last event, zero when there is none. -/
def latest (l : Log) (a : Aggregate) : Seq := (l.placesOf a).size

def history (l : Log) (a : Aggregate) : List Event :=
  (l.placesOf a).toList.filterMap fun i => l.events[i]?

/-- Drafts as events of an aggregate, from a position in the log and a number in the aggregate
on. -/
def number (a : Aggregate) : EventId → Seq → List Draft → List Event
  | _, _, [] => []
  | id, seq, d :: rest => .ofDraft id a seq d :: number a (id + 1) (seq + 1) rest

def extend (l : Log) (a : Aggregate) (drafts : List Draft) : List Event × Log :=
  let committed := number a (l.head + 1) (firstAssigned (l.latest a)) drafts
  let places := (List.range drafts.length).map (l.head + ·)
  (committed, ⟨l.events ++ committed, l.places.insert a (l.placesOf a ++ places)⟩)

/-- Write drafts to the end of the log if the aggregate is where the writer expects it. The
comparison is what makes an append a decision on a history: whoever expects another place has
decided on what is no longer so. -/
def append (l : Log) (a : Aggregate) (expected : Seq) (drafts : List Draft) :
    Except StoreError (List Event × Log) :=
  if expected = l.latest a then .ok (l.extend a drafts)
  else .error (.aggregateConflict a expected (some (l.latest a)))

def page (l : Log) (access : Access) : Page :=
  let accepted := (l.toList.drop access.after).filter access.accepts
  access.page (accepted.take (access.limit + 1)) l.head

end Log

end Journal
