import Journal.Consumer
import Journal.Decimal.Whole
import Journal.Guard
import Journal.Text.Separated

/-!
# Settings

The program is set up by variables of its environment. Only the address of the database must be
given; everything else has a value of its own. A variable that is given but makes no sense is an
error, and the first such variable is reported in the order in which they are read here. Settings
that were accepted can be used as they stand: the sizes are within their limits and records are kept
for a day at least.
-/

namespace Journal

/-- Why settings are refused: a variable that must be given is missing, or one has a value that
makes no sense. Both name the variable, and the first fault in the order of the variables is
told. -/
inductive SettingsError
  | missing (name : String)
  | invalid (name reason : String)
  deriving DecidableEq, Repr

def SettingsError.message : SettingsError → String
  | .missing v => s!"{v} must be set"
  | .invalid v reason => s!"{v} is invalid: {reason}"

structure Pool where
  url : String
  most : Nat
  least : Nat
  patience : Duration
  deriving DecidableEq

structure Settings where
  pool : Pool
  consumer : Consumer.Config
  retention : Duration
  policy : Policy

namespace Settings

abbrev Variables := String → Option String

/-- A variable that must be given. One that is blank counts as not given. -/
def needed (vars : Variables) (name : String) : Except SettingsError String :=
  match vars name with
  | some v => if Text.blank v then .error (.missing name) else .ok v
  | none => .error (.missing name)

def number (vars : Variables) (name : String) (limit standard : Nat) : Except SettingsError Nat :=
  match vars name with
  | none => .ok standard
  | some v =>
    match Decimal.readWhole limit (Text.trim v) with
    | .ok n => .ok n
    | .error fault => .error (.invalid name fault.message)

/-- The numbers of connections that are allowed at most and kept at least. They are checked against
each other when both have been read. -/
def connections (vars : Variables) : Except SettingsError (Nat × Nat) := do
  let most ← number vars "DB_MAX_CONNECTIONS" (2 ^ 32) 10
  let least ← number vars "DB_MIN_CONNECTIONS" (2 ^ 32) 1
  if most = 0 ∨ most < least then
    .error (.invalid "DB_MIN_CONNECTIONS" s!"need 0 <= min ({least}) <= max ({most}) and max > 0")
  else .ok (most, least)

def batchSize (vars : Variables) : Except SettingsError Nat := do
  let size ← number vars "CONSUMER_BATCH_SIZE" (2 ^ 64) standardPageSize
  if size = 0 ∨ largestPageSize < size then
    .error (.invalid "CONSUMER_BATCH_SIZE" s!"must be 1..={largestPageSize}")
  else .ok size

/-- The parts of a list with commas, without the blanks around them and without blank parts. -/
def listed (s : String) : List String :=
  ((Text.separated ',' s.toList).map fun part => Text.trim (String.ofList part)).filter (!·.isEmpty)

/-- The kinds of aggregates that only an elevated reader sees. An empty list is a policy that hides
nothing, and not the standard one. -/
def readPolicy (vars : Variables) : Except SettingsError Policy :=
  match vars "READ_INFRA_AGGREGATE_TYPES" with
  | none => .ok .standard
  | some v =>
    match (listed v).mapM AggregateKind.parse with
    | .ok kinds => .ok (.ofKinds kinds)
    | .error e => .error (.invalid "READ_INFRA_AGGREGATE_TYPES" e.message)

/-- A number of hours, in seconds that fit into sixty-four bits. -/
def hours (n : Nat) : Duration := .ofSeconds (min (n * 3600) (2 ^ 64 - 1))

/-- The settings that variables give. They are read one after the other, and the first that is
refused is what is told. -/
def ofVariables (vars : Variables) : Except SettingsError Settings := do
  let url ← needed vars "DATABASE_URL"
  let (most, least) ← connections vars
  let patience ← number vars "DB_ACQUIRE_TIMEOUT_MS" (2 ^ 64) 5000
  let batchSize ← batchSize vars
  let interval ← number vars "CONSUMER_POLL_INTERVAL_MS" (2 ^ 64) 100
  let retention ← number vars "IDEMPOTENCY_RETENTION_HOURS" (2 ^ 64) 24
  let policy ← readPolicy vars
  return {
    pool := ⟨url, most, least, .ofMillis patience⟩
    consumer := { Consumer.Config.standard with batchSize, pollInterval := .ofMillis interval }
    retention := Guard.retention (hours retention)
    policy }

end Settings

end Journal
