import Rendezvous.Log.Filter
import Rendezvous.Sweep
import Rendezvous.Text.Quoted

/-!
# The program

What happens from the start of the program to its end: it reads its settings,
begins to sweep, opens its two doors, health first, runs until it is told to stop,
and closes everything again. Each step is told to the log. Bad settings, or a door
that cannot be opened, end the program before it runs.

The machine the program runs on is a parameter, so that the order of the steps, and
what is said at each, can be stated for every machine.
-/

namespace Rendezvous.Program

/-- What the program listens for. -/
inductive Door where
  /-- Questions about health and metrics. -/
  | health
  /-- The room interface and the signaling connections. -/
  | api
  deriving DecidableEq, Repr

/-- The door, as the log names it. -/
def Door.name : Door → String
  | health => "Health"
  | api => "API"

/-- Why an address cannot be listened on. -/
structure BindError where
  /-- The machine's number for the error. -/
  code : Nat
  /-- The kind of error, in one word. -/
  kind : String
  message : String
  deriving DecidableEq, Repr

namespace BindError

/-- The error in words. -/
def text (e : BindError) : String := e.message ++ " (os error " ++ toString e.code ++ ")"

/-- The error with its parts named. -/
def detail (e : BindError) : String :=
  "Os \x7b code: " ++ toString e.code ++ ", kind: " ++ e.kind ++ ", message: " ++
    Text.quoted e.message ++ " \x7d"

end BindError

/-- What the machine does for the program. -/
structure Host (m : Type → Type) where
  /-- Writes a record to the log. -/
  log : LogFormat → Log.Record → m Unit
  /-- Writes a line to the error output. -/
  complain : String → m Unit
  /-- Makes the service, and begins to sweep. -/
  begin : Settings → m Unit
  /-- Listens on an address and serves who comes, or says why it cannot. -/
  listen : Door → Address → m (Option BindError)
  /-- Tells whether traffic is welcome. -/
  setReady : Bool → m Unit
  /-- Waits until the program is told to stop. -/
  awaitStop : m Unit
  /-- Ends everything that runs, and tells whether that took no longer than so many
  seconds. -/
  finish : Nat → m Bool
  /-- The number of live rooms. -/
  rooms : m Nat

/-! ## What is said -/

/-- A record of the program itself. -/
def own (level : Log.Level) (message : String) (values : List (String × Json.Value)) :
    Log.Record :=
  { level, target := "relay_service", span := none, message, values }

/-- The part that sweeps, and the span it works in. -/
def sweepTarget : String := "relay.task.eviction"

/-- The span of the sweeps. -/
def sweepSpan : Log.Span := ⟨sweepTarget, .info, "relay_service::tasks::eviction"⟩

/-- A record of the part that sweeps. -/
def sweeper (message : String) (values : List (String × Json.Value)) : Log.Record :=
  { level := .info, target := sweepTarget, span := some sweepSpan, message, values }

/-- The settings, as the log shows them. -/
def settingsValues (s : Settings) : List (String × Json.Value) :=
  [("bind_address", .string s.bind.text), ("health_bind_address", .string s.healthBind.text),
    ("api_prefix", .string s.root), ("eviction_interval_seconds", Json.natural s.sweep.interval),
    ("max_idle_seconds", Json.natural s.sweep.maxIdle),
    ("max_pending_messages", Json.natural s.limits.pending),
    ("max_cached_tracks", Json.natural s.limits.tracks)]

/-- The sweep settings, as the log shows them. -/
def sweepValues (s : SweepSettings) : List (String × Json.Value) :=
  [("interval_seconds", Json.natural s.interval), ("max_idle_seconds", Json.natural s.maxIdle)]

/-! ## What is done -/

/-- The exit codes. -/
def success : UInt32 := 0

/-- The exit code of a program that could not start. -/
def failure : UInt32 := 1

/-- For how many seconds the end is waited for. -/
def grace : Nat := 10

section

variable {m : Type → Type} [Monad m] (host : Host m) (filter : Log.Filter) (format : LogFormat)

/-- Tells the log, as far as the filter shows it. -/
def tell (r : Log.Record) : m Unit :=
  match filter.apply r with
  | some r => host.log format r
  | none => pure ()

/-- Opens a door, and tells whether it is open now. -/
def openDoor (door : Door) (address : Address) : m Bool := do
  match ← host.listen door address with
  | none =>
    tell host filter format (own .info (door.name ++ " server started") [("addr", .string address.text)])
    return true
  | some e =>
    let message := match door with
      | .health => "Failed to bind health server"
      | .api => "Failed to bind API server"
    tell host filter format
      (own .error message [("error", .string e.text), ("addr", .string address.text)])
    host.complain ("Error: " ++ e.detail)
    return false

/-- Runs with open doors until it is told to stop. -/
def serve (settings : Settings) : m Unit := do
  let tell := tell host filter format
  host.setReady true
  tell (own .info "Signaling relay running - press Ctrl+C to shutdown" [])
  host.awaitStop
  tell (own .info "Shutdown signal received, initiating graceful shutdown..." [])
  host.setReady false
  if (Sweep.start? settings.sweep 0).isSome then
    tell (sweeper "Eviction task received shutdown signal, exiting" [])
    tell (sweeper "Eviction task stopped" [])
  tell (own .info "API server shutting down" [])
  tell (own .info "Health server shutting down" [])
  if !(← host.finish grace) then
    tell (own .warn "Tasks did not finish within the shutdown grace period"
      [("grace_seconds", Json.natural grace)])
  tell (own .info "Signaling relay shutdown complete"
    [("rooms_dropped", Json.natural (← host.rooms))])

/-- Runs with good settings. -/
def runWith (settings : Settings) : m UInt32 := do
  let tell := tell host filter format
  tell (own .info "Configuration loaded successfully" (settingsValues settings))
  host.begin settings
  tell (sweeper "Starting eviction task" (sweepValues settings.sweep))
  if !(← openDoor host filter format .health settings.healthBind) then return failure
  if !(← openDoor host filter format .api settings.bind) then return failure
  serve host filter format settings
  return success

/-- Gives up on bad settings. -/
def refuse (e : SettingError) : m UInt32 := do
  tell host filter format (own .error ("Failed to load configuration: " ++ e.message) [])
  host.complain ("Error: InvalidValue(" ++ Text.quoted e.reason ++ ")")
  return failure

end

/-- Runs the program with the variables it was given, and gives its exit code. The
log is text until the settings say otherwise. -/
def run {m : Type → Type} [Monad m] (host : Host m) (vars : Variables) : m UInt32 := do
  let filter := Log.Filter.load vars
  let starting := own .info "Starting signaling relay" []
  match Settings.load vars with
  | .error e =>
    tell host filter .text starting
    refuse host filter .text e
  | .ok settings =>
    tell host filter settings.logFormat starting
    runWith host filter settings.logFormat settings

end Rendezvous.Program
