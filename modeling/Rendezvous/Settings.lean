import Rendezvous.Address
import Rendezvous.Limits
import Rendezvous.Text.Blank

/-!
# Settings

The relay is configured by variables, each with a default, so that no variables
at all give a working relay. A variable that is there has to be good: the first
bad one, in a fixed order, keeps the relay from starting. The last check joins
three variables, since a connection's buffer has to take everything a peer may be
handed when it connects.
-/

namespace Rendezvous

/-- The variables by name. -/
abbrev Variables := String → Option String

/-- How log lines are written. -/
inductive LogFormat where
  | text
  | json
  deriving DecidableEq, Repr

/-- What is wrong with a variable. -/
inductive SettingError where
  | badAddress (name value : String)
  | badPath (value : String)
  | blankHeader
  | badNumber (name value : String) (error : Decimal.WordError)
  | zero (name : String)
  | smallBuffer (required given : Nat)
  | badLogFormat (value : String)
  deriving DecidableEq, Repr

namespace SettingError

/-- The error in words. -/
def reason : SettingError → String
  | badAddress name value =>
    name ++ " must be a socket address like 0.0.0.0:8080, got '" ++ value ++
      "': invalid socket address syntax"
  | badPath value =>
    "RELAY_API_PREFIX must start with '/' and not end with '/', got '" ++ value ++ "'"
  | blankHeader => "RELAY_IDENTITY_HEADER must not be empty"
  | badNumber name value error =>
    name ++ " must be a valid positive integer, got '" ++ value ++ "': " ++ error.message
  | zero name => name ++ " must be greater than 0"
  | smallBuffer required given =>
    "RELAY_CONNECTION_BUFFER must be at least RELAY_MAX_PENDING_MESSAGES + " ++
      "2 * RELAY_MAX_CACHED_TRACKS (" ++ toString required ++ "), got " ++ toString given
  | badLogFormat value => "RELAY_LOG_FORMAT must be 'text' or 'json', got '" ++ value ++ "'"

/-- The full text of the error. -/
def message (e : SettingError) : String := "Invalid configuration value: " ++ e.reason

end SettingError

/-- The log format of a name, in letters of any case. -/
def LogFormat.ofText (s : String) : Except SettingError LogFormat :=
  let name := Text.lowerAscii s
  if name = "text" then .ok .text
  else if name = "json" then .ok .json
  else .error (.badLogFormat name)

/-- When rooms are looked at, and how long they may be idle, in seconds. -/
structure SweepSettings where
  interval : Nat
  maxIdle : Nat
  deriving DecidableEq, Repr

/-- Sweeps where none are configured: every five minutes, for rooms idle for half
a day. -/
def SweepSettings.default : SweepSettings := ⟨300, 43200⟩

/-- Everything that can be configured. -/
structure Settings where
  /-- Where the room interface and the signaling connections are served. -/
  bind : Address
  /-- Where health and metrics are served. -/
  healthBind : Address
  /-- The path under which the routes lie. -/
  root : String
  /-- The header that carries the caller's identity. -/
  identityHeader : String
  sweep : SweepSettings
  limits : Limits
  /-- How many frames can wait for one connection. -/
  buffer : Nat
  logFormat : LogFormat
  deriving DecidableEq, Repr

namespace Settings

/-- The settings where no variable is there. -/
def default : Settings where
  bind := ⟨.short 0 0 0 0, 8080⟩
  healthBind := ⟨.short 0 0 0 0, 8081⟩
  root := "/watchparty/api"
  identityHeader := "x-authenticated-user"
  sweep := .default
  limits := .default
  buffer := 1024
  logFormat := .text

/-- The variables that are looked at. -/
def variableNames : List String :=
  ["RELAY_BIND_ADDRESS", "RELAY_HEALTH_BIND_ADDRESS", "RELAY_API_PREFIX",
    "RELAY_IDENTITY_HEADER", "RELAY_EVICTION_INTERVAL_SECONDS", "RELAY_MAX_IDLE_SECONDS",
    "RELAY_MAX_PENDING_MESSAGES", "RELAY_MAX_CACHED_TRACKS", "RELAY_CONNECTION_BUFFER",
    "RELAY_LOG_FORMAT"]

/-- The address that a variable names. -/
def address (vars : Variables) (name : String) (fallback : Address) :
    Except SettingError Address :=
  match vars name with
  | none => .ok fallback
  | some value =>
    match Address.ofText? value with
    | some a => .ok a
    | none => .error (.badAddress name value)

/-- The positive number that a variable names. -/
def positive (vars : Variables) (name : String) (fallback : Nat) : Except SettingError Nat :=
  match vars name with
  | none => .ok fallback
  | some value =>
    match Decimal.word value with
    | .error e => .error (.badNumber name value e)
    | .ok 0 => .error (.zero name)
    | .ok n => .ok n

/-- A path that can stand in front of the routes. -/
def isRoot (path : String) : Bool :=
  path.toList.head? == some '/' && path.toList.getLast? != some '/'

/-- The path that the routes lie under. -/
def rootPath (vars : Variables) : Except SettingError String :=
  let path := (vars "RELAY_API_PREFIX").getD default.root
  if isRoot path then .ok path else .error (.badPath path)

/-- The header that carries the identity, in small letters. -/
def header (vars : Variables) : Except SettingError String :=
  let name := ((vars "RELAY_IDENTITY_HEADER").map Text.lowerAscii).getD default.identityHeader
  if Text.isBlankText name then .error .blankHeader else .ok name

/-- The buffer takes a full backlog. -/
def checkBuffer (limits : Limits) (buffer : Nat) : Except SettingError Unit :=
  if buffer < limits.requiredBuffer then .error (.smallBuffer limits.requiredBuffer buffer)
  else .ok ()

/-- The log format that the variables name. -/
def format (vars : Variables) : Except SettingError LogFormat :=
  match vars "RELAY_LOG_FORMAT" with
  | none => .ok default.logFormat
  | some value => LogFormat.ofText value

/-- Reads the settings off the variables. -/
def load (vars : Variables) : Except SettingError Settings := do
  let bind ← address vars "RELAY_BIND_ADDRESS" default.bind
  let healthBind ← address vars "RELAY_HEALTH_BIND_ADDRESS" default.healthBind
  let root ← rootPath vars
  let identityHeader ← header vars
  let interval ← positive vars "RELAY_EVICTION_INTERVAL_SECONDS" default.sweep.interval
  let maxIdle ← positive vars "RELAY_MAX_IDLE_SECONDS" default.sweep.maxIdle
  let pending ← positive vars "RELAY_MAX_PENDING_MESSAGES" default.limits.pending
  let tracks ← positive vars "RELAY_MAX_CACHED_TRACKS" default.limits.tracks
  let buffer ← positive vars "RELAY_CONNECTION_BUFFER" default.buffer
  checkBuffer ⟨pending, tracks⟩ buffer
  let logFormat ← format vars
  return { bind, healthBind, root, identityHeader, sweep := ⟨interval, maxIdle⟩,
           limits := ⟨pending, tracks⟩, buffer, logFormat }

end Settings

end Rendezvous
