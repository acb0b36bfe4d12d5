import Journal.Consumer.Polling
import Journal.Simulation.Step
import Journal.Simulation.Tasks

/-!
# Running in a world

The programs of the library ask for what they do not do themselves; here their questions are
answered by tasks in a world. Everything that a program asks for is one look at the world, except
that a handler may take its time and that a consumer may have to wait for its turn.
-/

namespace Journal.Simulation

abbrev Running (α : Type) := Task World Job α

namespace Running

def act {α : Type} (f : World → α × World) : Running α := Task.act fun _ w => f w

def changeRunner (i : Nat) (f : Runner → Runner) : Running Unit :=
  Task.change (World.changeRunner i f)

def pause (d : Duration) : Running Unit := Task.sleep d.ticks

/-! ## Handlers -/

/-- Note a deed, and say whether it is to fail by a count that is taken down. -/
def noteFailing (i : Nat) (d : Deed) (count : Script → Nat) (set : Script → Nat → Script) :
    Running Bool :=
  Task.act fun now w =>
    let w := w.note i d now
    match w.handler? i with
    | some (.scripted s) =>
      match count s with
      | 0 => (false, w)
      | n + 1 => (true, w.setHandler i (.scripted (set s n)))
    | _ => (false, w)

def filter (i : Nat) : Running Filter :=
  Task.act fun now w =>
    match w.handler? i with
    | some (.scripted s) => (s.filter, w.note i .filter now)
    | some (.tally v) => (v.filter, w)
    | _ => (.all, w)

def onView (i : Nat) (v : View Tally) (f : View Tally → Attempt String Unit × View Tally) :
    Running (Attempt String Unit) :=
  act fun w =>
    let (r, v) := f v
    (r, w.setHandler i (.tally v))

/-- Fail an application before anything is done, if the script says so. -/
def applyFails (i : Nat) (id : EventId) : Running Bool :=
  Task.act fun now w =>
    match w.handler? i with
    | some (.scripted s) =>
      match countDown s.failing id with
      | some failing =>
        (true, (w.setHandler i (.scripted { s with failing })).note i (.fail id) now)
      | none => (false, w)
    | _ => (false, w)

/-- Note an application, and fail it at its end if the script says so. -/
def applyEnds (i : Nat) (id : EventId) : Running (Attempt String Unit) :=
  Task.act fun now w =>
    let w := w.note i (.apply id) now
    match w.handler? i with
    | some (.scripted s) =>
      let w := if s.cancelOn = some id then w.cancelRebuild i else w
      match countDown s.failingAfter id with
      | some failingAfter =>
        (.error (.failed "crash"), w.setHandler i (.scripted { s with failingAfter }))
      | none => (.ok (), w)
    | _ => (.ok (), w)

def apply (i : Nat) (e : Event) : Running (Attempt String Unit) := do
  match ← Task.look (World.handler? i) with
  | some (.scripted s) =>
    if ← applyFails i e.id then
      return .error (.failed s!"cannot apply {e.id}")
    match s.pauses.get? e.id with
    | some ticks => Task.sleep ticks
    | none => pure ()
    applyEnds i e.id
  | some (.tally v) => onView i v (·.apply e)
  | _ => do
    Task.change (World.notePlain i (.apply e.id))
    return .ok ()

def flush (i : Nat) : Running (Attempt String Unit) := do
  match ← Task.look (World.handler? i) with
  | some (.scripted _) =>
    if ← noteFailing i .flush (·.flushFailures) (fun s n => { s with flushFailures := n }) then
      return .error (.failed "cannot flush")
    return .ok ()
  | some (.tally v) => onView i v (·.flush)
  | _ => return .ok ()

def clear (i : Nat) : Running (Attempt String Unit) := do
  match ← Task.look (World.handler? i) with
  | some (.scripted _) =>
    if ← noteFailing i .clear (·.clearFailures) (fun s n => { s with clearFailures := n }) then
      return .error (.failed "cannot clear")
    return .ok ()
  | some (.tally v) => onView i v (·.clear)
  | _ => do
    Task.change (World.notePlain i .clear)
    return .ok ()

/-! ## Consumers -/

/-- Wait for the turn of a consumer, which is an effort; the turns are given in the order of
asking. -/
def acquire (i : Nat) : Running Unit := do
  Task.effort
  let ticket ← act fun w =>
    ((w.runners[i]?).map (·.nextTicket),
      w.changeRunner i fun r => { r with nextTicket := r.nextTicket + 1 })
  Task.await fun w => (w.runners[i]?).map (·.serving) == ticket

def release (i : Nat) : Running Unit := changeRunner i fun r => { r with serving := r.serving + 1 }

def answerConsumer (i : Nat) (r : Runner) : (q : Consumer.Ask) → Running (Consumer.calls.Answer q)
  | .acquire => acquire i
  | .release => release i
  | .enter s => changeRunner i fun r => { r with state := s }
  | .position => act (World.position r.name)
  | .filter => filter i
  | .read after limit f => act (World.read after (some limit) f r.scope)
  | .apply e => apply i e
  | .flush => flush i
  | .advance position => act (World.advance r.name position)
  | .reset => act (World.reset r.name)
  | .clear => clear i

def consumer {α : Type} (i : Nat) (r : Runner) (p : Program Consumer.calls α) : Running α :=
  p.expand (answerConsumer i r)

def runOnce (i : Nat) (r : Runner) : Running (Attempt ConsumerError Consumer.Progress) :=
  consumer i r (Consumer.runOnce r.name r.config.batchSize)

def rebuild (i : Nat) (r : Runner) : Running (Attempt ConsumerError Unit) :=
  consumer i r (Consumer.rebuild r.name)

def rounds : Nat := 1000000

/-- What is left of a program that ran out of rounds. -/
def orCrash {ε α : Type} : Option (Attempt ε α) → Attempt ε α
  | some r => r
  | none => .error .crashed

def catchUp (i : Nat) (r : Runner) : Running (Attempt ConsumerError Nat) :=
  orCrash <$> consumer i r (Consumer.catchUp r.name r.config.batchSize rounds 0)

/-! ## Polling -/

def changeSignal (n : Nat) (f : Signal → Signal) : Running Unit :=
  Task.change fun w => { w with signals := w.signals.modify n f }

/-- The signal was sent since its receiver last looked, or can be sent no more. Both wake whoever
waits for it, since without a sender there is nothing to wait for. -/
def stirs (n : Nat) (w : World) : Bool :=
  (w.signals[n]?).any fun s => s.seen < s.version || !s.hasSender

/-- Answer what polling asks for; chance gives the middle of the spread. -/
def answerPolling (i : Nat) (r : Runner) (n : Nat) :
    (q : Consumer.Polling.Ask) → Running (Consumer.Polling.calls.Answer q)
  | .stopping => Task.look fun w => (w.signals[n]?).any (·.value)
  | .cycle => runOnce i r
  | .chance => return (0 : Float)
  | .wait d => do
    Task.awaitFor (stirs n) (pauseTicks d.ticks)
    let waking : Consumer.Waking ← act fun w =>
      match w.signals[n]? with
      | none => (.elapsed, w)
      | some s =>
        if s.seen < s.version then
          (.signalled,
            { w with signals := w.signals.modify n fun s => { s with seen := s.version } })
        else if s.hasSender then (.elapsed, w)
        else (.abandoned, w)
    return waking

def poll (i : Nat) (r : Runner) (n : Nat) : Running (Attempt ConsumerError Unit) :=
  orCrash <$> (Consumer.poll r.config rounds 0).expand (answerPolling i r n)

/-! ## Rebuilds in the background -/

def answerRebuild (i : Nat) (r : Runner) (n : Nat) : (q : Rebuild.Ask) →
    Running (Rebuild.calls.Answer q)
  | .reset => rebuild i r
  | .head => act World.head
  | .cancelled => Task.look fun w => (w.rebuilds[n]?).any (·.cancelled)
  | .cycle => runOnce i r
  | .publish status => do
    Task.effort
    Task.change fun w => { w with rebuilds := w.rebuilds.modify n fun b => { b with status } }

def rebuildApart (i : Nat) (r : Runner) (n : Nat) : Running Unit :=
  (Rebuild.program rounds r.name).expand (answerRebuild i r n)

/-- Wait for a rebuild, looking at it from time to time; nothing when it does not end within so many
looks. -/
def awaitRebuild (n : Nat) : Nat → Running (Option (Except RebuildError Rebuild.Status))
  | 0 => return none
  | looks + 1 => do
    Task.effort
    match ← Task.look fun w => (w.rebuilds[n]?).bind (·.status.result?) with
    | some result => return some result
    | none => do
      pause Rebuild.pollInterval
      awaitRebuild n looks

/-! ## Dispatching -/

/-- Answer what a dispatch asks for, and note how long each history was that was decided on. Chance
gives the middle of the spread, so that a session can be repeated. -/
def answerDispatch (a : Aggregate) (d : Decider) :
    (q : Dispatch.Ask) → List Nat → Running (Dispatch.calls.Answer q × List Nat)
  | .find k, seen => (·, seen) <$> act (World.find k)
  | .history a, seen => (·, seen) <$> act (World.history a)
  | .decide history, seen => do
    Task.change (World.intrude a ((d.intrusions[seen.length]?).getD []))
    return (d.decide history, seen ++ [history.length])
  | .commit c, seen => (·, seen) <$> act (World.commit c)
  | .chance _, seen => return ((0 : Float), seen)
  | .pause d, seen => (·, seen) <$> pause d

def dispatch (q : Request) (d : Decider) (r : Responder) (b : Backoff) :
    Running (Dispatch.Result × List Nat) :=
  (Journal.dispatch b q r.respond).interpret (answerDispatch q.aggregate d) []

end Running

end Journal.Simulation
