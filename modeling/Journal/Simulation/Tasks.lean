import Journal.Program
import Journal.Simulation.Pause

/-!
# Tasks on one clock

Several tasks share a state and a clock. A task runs alone until it waits: for a condition on the
state, for a time, or for whichever comes first. Work takes no time; the clock moves only when every
task waits, and then to the earliest time that one of them waits for.

A task may split into strands, which go on side by side; it goes on itself when they have all ended.
When a task has its turn its strands are looked at in their order: each that can go on does, and
those that come after it see what it did. Strands that alternate change places after each turn.

There is one main task. It has its turn when one of its strands can go on, and once more after a
turn in which one strand let another one go on. The tasks beside it have their turns in between, and
of these the one that has waited longest goes first; when the clock has moved, the main task comes
before them. A turn holds so many efforts; a task that has none left waits for its next turn, so
that one that never waits for anything else does not keep the others from theirs.

Strands and tasks are named by jobs, so that a task holds no other task.
-/

namespace Journal.Simulation

universe u

/-- What a task asks for, over a state `σ` and jobs `J`. Everything that happens at once is one
`act`; a task gives way to others only where it waits, where it splits into strands that have all to
end, or where making an effort has used up its turn. -/
inductive TaskAsk (σ J : Type) : Type 1
  | act {α : Type} (f : Nat → σ → α × σ)
  | await (ready : σ → Bool) (limit : Option Nat)
  | effort
  | start (job : J)
  | split (alternating : Bool) (jobs : List J)

def tasks (σ J : Type) : Interface.{1} where
  Ask := TaskAsk σ J
  Answer
    | @TaskAsk.act _ _ α _ => α
    | .await .. | .effort | .start _ | .split .. => Unit

abbrev Task (σ J α : Type) := Program (tasks σ J) α

namespace Task

variable {σ J α : Type}

def act (f : Nat → σ → α × σ) : Task σ J α := .ask (.act f) .done

def look (f : σ → α) : Task σ J α := act fun _ s => (f s, s)

def clock : Task σ J Nat := act fun now s => (now, s)

def change (f : σ → σ) : Task σ J Unit := act fun _ s => ((), f s)

def await (ready : σ → Bool) : Task σ J Unit := .ask (.await ready none) .done

def effort : Task σ J Unit := .ask .effort .done

/-- Wait until a condition holds, for so many ticks at most; to wake is an effort. -/
def awaitFor (ready : σ → Bool) (ticks : Nat) : Task σ J Unit :=
  .ask (.await ready (some ticks)) fun _ => effort

def sleep (ticks : Nat) : Task σ J Unit := awaitFor (fun _ => false) (pauseTicks ticks)

def start (job : J) : Task σ J Unit := .ask (.start job) .done

def split (alternating : Bool) (jobs : List J) : Task σ J Unit :=
  .ask (.split alternating jobs) .done

end Task

/-! ## Strands -/

/-- What waits, or can go on at once. -/
structure Parked (σ J : Type) : Type 1 where
  ready : σ → Bool
  deadline : Option Nat
  rest : Task σ J Unit

def Parked.atOnce {σ J : Type} (rest : Task σ J Unit) : Parked σ J := ⟨fun _ => true, none, rest⟩

/-- What is left of a task between its turns. A group goes on when all the strands have ended that
it split into, and while one of them can go on so can the group. -/
inductive Strand (σ J : Type) : Type 1
  | parked (p : Parked σ J)
  | group (alternating : Bool) (strands : List (Strand σ J)) (rest : Task σ J Unit)

mutual

def Strand.leaves {σ J : Type} : Strand σ J → List (Parked σ J)
  | .parked p => [p]
  | .group _ strands _ => leavesOf strands

def leavesOf {σ J : Type} : List (Strand σ J) → List (Parked σ J)
  | [] => []
  | s :: rest => s.leaves ++ leavesOf rest

end

/-! ## The machine -/

/-- Tasks that share a state and a clock. The tasks beside the main one are kept in the order in
which they began to wait; the main task has one more turn when it was stirred, also if nothing that
it waits for has come. -/
structure Machine (σ J : Type) : Type 1 where
  state : σ
  now : Nat
  main : Option (Strand σ J)
  beside : List (Strand σ J)
  isStirred : Bool
  efforts : Nat

namespace Machine

variable {σ J : Type}

def effortsOfTurn : Nat := 128

/-- So many turns of tasks beside the main one may follow each other before it is looked at
again. -/
def turnsBeside : Nat := 61

def idle (state : σ) : Machine σ J := ⟨state, 0, none, [], false, effortsOfTurn⟩

def canResume (m : Machine σ J) (p : Parked σ J) : Bool :=
  p.ready m.state || p.deadline.any (· ≤ m.now)

def canGoOn (m : Machine σ J) (s : Strand σ J) : Bool := s.leaves.any m.canResume

inductive Halt (σ J : Type) : Type 1
  | ended
  | waits (p : Parked σ J)
  | splits (alternating : Bool) (jobs : List J) (rest : Task σ J Unit)

/-- Run a task until it ends, waits or splits; `body` has the tasks of the jobs. -/
def resume (body : J → Task σ J Unit) : Task σ J Unit → Machine σ J → Halt σ J × Machine σ J
  | .done _, m => (.ended, m)
  | .ask (.act f) next, m =>
    let (a, state) := f m.now m.state
    resume body (next a) { m with state }
  | .ask (.await ready limit) next, m =>
    if ready m.state || limit == some 0 then resume body (next ()) m
    else (.waits ⟨ready, limit.map (m.now + ·), next ()⟩, m)
  | .ask .effort next, m =>
    match m.efforts with
    | 0 => (.waits (.atOnce (.ask .effort next)), m)
    | efforts + 1 => resume body (next ()) { m with efforts }
  | .ask (.start job) next, m =>
    resume body (next ()) { m with beside := m.beside ++ [.parked (.atOnce (body job))] }
  | .ask (.split alternating jobs) next, m => (.splits alternating jobs (next ()), m)

/-- Let a strand go on, if it can; nothing is left of it when it has ended. A strand that could not
go on when the turn began, in the state `first`, stirs the main task. -/
def follow (body : J → Task σ J Unit) (first : σ) : Nat → Strand σ J → Machine σ J →
    Option (Strand σ J) × Machine σ J
  | 0, s, m => (some s, m)
  | fuel + 1, .parked p, m =>
    if m.canResume p then
      match resume body p.rest
          { m with isStirred := m.isStirred || (p.ready m.state && !p.ready first) } with
      | (.ended, m) => (none, m)
      | (.waits p, m) => (some (.parked p), m)
      | (.splits alternating jobs rest, m) =>
        follow body first fuel
          (.group alternating (jobs.map fun j => .parked (.atOnce (body j))) rest) m
    else (some (.parked p), m)
  | fuel + 1, .group alternating strands rest, m =>
    let (left, m) := strands.foldl (fun (left, m) s =>
      let (s, m) := follow body first fuel s m
      (left ++ s.toList, m)) ([], m)
    if left.isEmpty then follow body first fuel (.parked (.atOnce rest)) m
    else (some (.group alternating (if alternating then left.reverse else left) rest), m)

def turnOfMain (body : J → Task σ J Unit) (fuel : Nat) (s : Strand σ J) (m : Machine σ J) :
    Machine σ J :=
  let (main, m) :=
    follow body m.state fuel s { m with isStirred := false, efforts := effortsOfTurn }
  { m with main }

def takeFirst (m : Machine σ J) : List (Strand σ J) → Option (Strand σ J × List (Strand σ J))
  | [] => none
  | s :: rest =>
    if m.canGoOn s then some (s, rest)
    else (m.takeFirst rest).map fun (first, others) => (first, s :: others)

/-- Let tasks beside the main one have turns, while one of them can go on and so many times at
most. -/
def turnsOfOthers (body : J → Task σ J Unit) (fuel : Nat) : Nat → Machine σ J → Machine σ J
  | 0, m => m
  | turns + 1, m =>
    match m.takeFirst m.beside with
    | none => m
    | some (s, beside) =>
      let (s, m) := follow body m.state fuel s { m with beside, efforts := effortsOfTurn }
      turnsOfOthers body fuel turns { m with beside := m.beside ++ s.toList }

def nextDeadline? (m : Machine σ J) : Option Nat :=
  ((m.main.toList ++ m.beside).flatMap Strand.leaves |>.filterMap (·.deadline)).min?

/-- Run until the main task has ended or nothing can go on any more, in `fuel` rounds at most. -/
def run (body : J → Task σ J Unit) : Nat → Machine σ J → Machine σ J
  | 0, m => m
  | fuel + 1, m =>
    match m.main with
    | none => m
    | some s =>
      let m := m.turnsOfOthers body fuel turnsBeside
      if m.isStirred || m.canGoOn s then run body fuel (m.turnOfMain body fuel s)
      else if m.beside.any m.canGoOn then run body fuel m
      else
        match m.nextDeadline? with
        | none => m
        | some time =>
          let m := { m with now := max m.now time }
          run body fuel (if m.canGoOn s then m.turnOfMain body fuel s else m)

/-- Go on with a main task, still in the turn in which the last one ended. -/
def perform (body : J → Task σ J Unit) (fuel : Nat) (t : Task σ J Unit) (m : Machine σ J) :
    Machine σ J :=
  let (main, m) := follow body m.state fuel (.parked (.atOnce t)) m
  run body fuel { m with main }

end Machine

end Journal.Simulation
