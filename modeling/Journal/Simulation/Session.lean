import Journal.Simulation.Running

/-!
# Sessions

A session takes steps one after the other in one world and has a reply for each. Steps that are
taken side by side, and what they start, are tasks of one machine; a step is over when its own reply
is there, and what it left running goes on with the steps that follow.
-/

namespace Journal.Simulation

namespace Running

def withRunner (name : String) (f : Nat → Runner → Running Reply) : Running Reply := do
  match ← Task.look fun w => (w.names.get? name).bind fun i =>
      (w.runners[i]?).map fun r => (i, r) with
  | some (i, r) => f i r
  | none => return .done

def replying {α : Type} (f : World → α × World) (shown : α → Reply) : Running Reply :=
  shown <$> act f

def request : StoreRequest → Running Reply
  | .append a expected drafts => replying (World.append a expected drafts) (.ofStore .events)
  | .read after limit f s => replying (World.read after limit f s) (.ofStore .page)
  | .history a => replying (World.history a) (.ofStore .events)
  | .latest a => replying (World.latest a) (.ofStore .number)
  | .head => replying World.head (.ofStore .number)
  | .find k => replying (World.find k) (.ofStore .record)
  | .commit k hash a expected drafts r =>
    replying (World.commit (.make k hash a expected drafts r.respond)) .ofCommit
  | .dispatch q d r b => do
    let start ← Task.clock
    let (result, decisions) ← dispatch q d r b
    return .dispatched result decisions ((← Task.clock) - start)
  | .position consumer => replying (World.position consumer) (.ofCheckpoints .number)
  | .advance consumer position =>
    replying (World.advance consumer position) (.ofCheckpoints fun () => .done)
  | .reset consumer => replying (World.reset consumer) (.ofCheckpoints fun () => .done)
  | .list => replying World.list (.ofCheckpoints .checkpoints)
  | .lag head => replying World.list (.ofCheckpoints fun cs => .lags (cs.map (·.lagBehind head)))

def guardOfStore : GuardRequest → Running Reply
  | .reserve k hash => replying (fun w => w.onStore (·.reserve k hash w.wall)) (.ofStore .verdict)
  | .record k hash r =>
    replying (fun w => w.onStore (·.record k hash r w.wall)) (.ofStore fun () => .done)
  | .release k hash => replying (fun w => w.onStore (·.release k hash)) (.ofStore fun () => .done)
  | .lookup k => replying (World.lookStore (·.look (·.guard.lookup k))) (.ofStore .record)
  | .purge asked => replying (fun w => w.onStore (·.purge asked w.wall)) (.ofStore .number)

def standaloneGuard : GuardRequest → Running Reply
  | .reserve k hash => replying (fun w =>
      let (verdict, standalone) := w.standalone.reserve k hash w.wall
      (verdict, { w with standalone })) .verdict
  | .record k hash r => replying (fun w =>
      match w.standalone.record k hash r w.wall with
      | .ok standalone => (.ok (), { w with standalone })
      | .error e => (.error e, w)) (.ofStore fun () => .done)
  | .release k hash => do
    Task.change fun w => { w with standalone := w.standalone.release k hash }
    return .done
  | .lookup k => Task.look fun w => .record (w.standalone.lookup k)
  | .purge asked => replying (fun w =>
      let (count, standalone) := w.standalone.purge asked w.wall
      (count, { w with standalone })) .number

def action : Action → Running Reply
  | .request r => request r
  | .guard .store r => guardOfStore r
  | .guard .standalone r => standaloneGuard r
  | .clock wall => do
    Task.change fun w => { w with wall := wall.withoutLeap }
    return .instant wall
  | .fault c e times => replying (World.layFaults · c e times) .number
  | .size => replying (World.lookStore (·.size)) (.ofStore .size)
  | .consumer name config s h => do
    Task.change (World.addRunner name config s h)
    return .done
  | .runOnce c => withRunner c fun i r => .ofConsumer .progress <$> runOnce i r
  | .catchUp c => withRunner c fun i r => .ofConsumer .number <$> catchUp i r
  | .rebuild c => withRunner c fun i r => .ofConsumer (fun () => .done) <$> rebuild i r
  | .inspect c => withRunner c fun _ r => do
    let position ← act (World.position r.name)
    let head ← act World.head
    return .inspected r.name (position.mapError .checkpoint) (head.mapError .store) r.state
  | .rebuildApart c cancel => withRunner c fun i r => do
    let start ← Task.clock
    let first := Rebuild.Status.start r.name
    let n ← act fun w => (w.rebuilds.size, { w with rebuilds := w.rebuilds.push ⟨first, cancel⟩ })
    changeRunner i fun r => { r with rebuild := some n }
    Task.start (.rebuild i n)
    match ← awaitRebuild n rounds with
    | none => return .failed .crashed
    | some result => do
      let waited := (← Task.clock) - start
      match ← Task.look fun w => w.rebuilds[n]? with
      | none => return .failed .crashed
      | some b => return .rebuilt result first b.status b.cancelled waited
  | .refused e => return .failed (.store e)

/-- Send a signal, unless nobody can; the reply says whether anybody was listening. -/
def send (n : Nat) (value : Bool) : Running Reply :=
  act fun w =>
    match w.signals[n]? with
    | none => (.listening none, w)
    | some s =>
      if !s.hasSender then (.listening none, w)
      else if !s.hasReceiver then (.listening (some false), w)
      else
        (.listening (some true), { w with signals := w.signals.modify n fun s =>
          { s with value, version := s.version + 1 } })

def post (address : Nat) (r : Reply) : Running Unit :=
  Task.act fun now w => ((), w.post address now r)

def letter (address : Nat) : Running (Nat × Reply) :=
  Task.look fun w => (w.letter? address).getD (0, .done)

def letters (addresses : List Nat) : Running (List (Nat × Reply)) := addresses.mapM letter

/-- The polling whose reply goes to an address has crashed. -/
def hasCrashed (address : Nat) (w : World) : Bool := (w.letter? address).any (·.2.isCrash)

def carryOut (i n : Nat) : Order → Running Reply
  | .stop => send n true
  | .nudge => send n false
  | .drop => do
    changeSignal n fun s => { s with hasSender := false }
    return .listening none
  | .state => Task.look fun w => ((w.runners[i]?).map fun r => Reply.state r.state).getD .done
  | .act a => action a

/-- Carry out the orders of a script, each at its time after the start, and ask the polling to stop
at last. A script ends when the polling has crashed. -/
def carryOutAll (i n polling start : Nat) : List ((Nat × Order) × Nat) → Running Unit
  | [] => discard (send n true)
  | ((time, o), address) :: rest => do
    Task.awaitFor (hasCrashed polling) (start + time - (← Task.clock))
    if ← Task.look (hasCrashed polling) then return ()
    post address (← carryOut i n o)
    carryOutAll i n polling start rest

def reports : List (String × Nat) → Running (List (String × Report))
  | [] => return []
  | (name, i) :: rest => do
    match ← act (World.report i) with
    | some report => return (name, report) :: (← reports rest)
    | none => reports rest

def ranResult : Reply → Attempt ConsumerError Unit
  | .failed (.consumer e) => .error (.failed e)
  | .failed _ => .error .crashed
  | _ => .ok ()

def step : Step → Running Reply
  | .act a => action a
  | .poll c stopped script => withRunner c fun i _ => do
    let start ← Task.clock
    let n ← act fun w =>
      (w.signals.size, { w with signals := w.signals.push ⟨stopped, 0, 0, true, true⟩ })
    let answers ← act (World.newLetters script.length)
    let polling ← act World.newLetter
    Task.split true [.poll i n polling, .script i n polling start (script.zip answers)]
    let (ended, r) ← letter polling
    return .ran (ranResult r) (ended - start) ((← letters answers).map (·.2))
  | .together steps => do
    let start ← Task.clock
    let addresses ← act (World.newLetters steps.length)
    Task.split false ((steps.zip addresses).map fun ((delay, s), address) => .step s delay address)
    let results ← letters addresses
    let names ← Task.look fun w => w.names.entries
    return .joined (results.map fun (time, r) => (time - start, r)) (← reports names)

def job : Job → Running Unit
  | .rebuild i n => do
    match ← Task.look fun w => w.runners[i]? with
    | some r => rebuildApart i r n
    | none => return ()
  | .poll i n address => do
    match ← Task.look fun w => w.runners[i]? with
    | some r => do
      let result ← poll i r n
      changeSignal n fun s => { s with hasReceiver := false }
      post address (.ofConsumer (fun () => .done) result)
    | none => return ()
  | .script i n polling start orders => carryOutAll i n polling start orders
  | .step s delay address => do
    Task.awaitFor (fun _ => false) delay
    post address (← step s)

/-- Take a step and report on the consumer that it was about; the reply goes to an address. -/
def stepReported (s : Step) (address : Nat) : Running Unit := do
  let r ← step s
  if r.isCrash then
    post address (.failed .crashed)
  else
    let report ← match s.consumer? with
      | none => pure none
      | some c => act fun w =>
        match w.names.get? c with
        | some i => w.report i
        | none => (none, w)
    let shown := match report with
      | some report => .reported r report
      | none => r
    post address shown

end Running

namespace Session

def fuel : Nat := 10000000

def take (m : Machine World Job) (s : Step) : Reply × Machine World Job :=
  let (address, state) := m.state.newLetter
  let m := { m with state }.perform Running.job fuel (Running.stepReported s address)
  (((m.state.letter? address).map (·.2)).getD (.failed .crashed), m)

def replies : Machine World Job → List Step → List Reply
  | _, [] => []
  | m, s :: rest =>
    let (r, m) := take m s
    r :: replies m rest

end Session

def session (wall : Instant) (policy : Policy) (steps : List Step) : List Reply :=
  Session.replies (.idle (.new wall policy)) steps

end Journal.Simulation
