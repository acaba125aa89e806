/-
Starting and stopping the program.

`launch` says everything that an operator sees from the start to the end: the lines of
the log, and how the program ends.  It stops before it listens only for settings that
are refused or a port that cannot be had; a counting store that gives no sign of life is
reported and does not keep it from listening.

* `Launch.prepare` — the part before the port is taken;
* `Launch.run` — the whole, given what the program meets (`Host`);
* `launch` — the same with the file of settings and the filter of the log.
-/
import QuotaGate.Log.Filter
import QuotaGate.Service.Setup
import QuotaGate.Settings.Dotenv
import QuotaGate.Store.Memory

namespace QuotaGate

/-- Why the program ends before it listens. -/
inductive LaunchError
  | settings (error : SettingsError)
  | setup (error : SetupError)
  | port
  deriving DecidableEq, Repr

namespace LaunchError

/-- What is wrong, then why, outermost reason first. -/
def chain : LaunchError → List String
  | .settings e => ["failed to load configuration", e.message, e.cause]
  | .setup e => ["failed to initialize application state", e.message] ++ e.causes
  | .port => ["failed to bind to address", "Address already in use (os error 98)"]

/-- A reason, its further lines indented like the first. -/
def indented (lead indent : String) (reason : String) : String :=
  "\n" ++ lead ++ String.ofList
    (Text.joinWith ("\n" ++ indent).toList (Text.splitAll '\n' reason.toList))

/-- Reasons under their numbers from `n` on. -/
def numbered : Nat → List String → String
  | _, [] => ""
  | n, reason :: rest =>
    let number := Numeral.ofNat n
    let lead := String.ofList (List.replicate (5 - number.length) ' ') ++ number ++ ": "
    indented lead "       " reason ++ numbered (n + 1) rest

/-- A chain of errors as the last words of the program; a single reason has no
number. -/
def report : List String → String
  | [] => ""
  | [what] => "Error: " ++ what ++ "\n"
  | [what, why] => "Error: " ++ what ++ "\n\nCaused by:" ++ indented "    " "    " why ++ "\n"
  | what :: reasons => "Error: " ++ what ++ "\n\nCaused by:" ++ numbered 0 reasons ++ "\n"

end LaunchError

/-- What asks the program to stop. -/
inductive Stop
  | terminate
  | interrupt
  deriving DecidableEq, Repr

/-- What the program meets where it starts. -/
structure Host where
  /-- Whether the port can be had. -/
  portFree : Bool
  /-- What becomes of a ping to the shared counting store. -/
  redisPing : Call Unit Unit
  stop : Stop

/-- What an operator sees. -/
structure Run where
  log : List Log.Event
  failure : Option LaunchError

namespace Run

def exitCode (r : Run) : Nat :=
  if r.failure.isSome then 1 else 0

/-- The last words. -/
def lastWords (r : Run) : String :=
  match r.failure with
  | none => ""
  | some e => LaunchError.report e.chain

end Run

namespace Launch

/-- An event of the program itself. -/
def event (level : Log.Level) (message : String) (fields : List (String × String) := []) : Log.Event :=
  { level, message, fields, source := "turnstile" }

def starting : Log.Event := event .info "Starting Turnstile"

def loaded (s : Settings) : Log.Event :=
  event .info "Configuration loaded"
    [("port", Numeral.ofNat s.port), ("quota", Numeral.ofNat s.quota),
      ("window_secs", Numeral.ofNat s.windowSecs)]

def unreachable : Log.Event :=
  event .error "counting store unreachable at startup, rate limiting will fail open"

def listening (port : Nat) : Log.Event :=
  event .info "Server listening" [("addr", "0.0.0.0:" ++ Numeral.ofNat port)]

def stopping : Stop → Log.Event
  | .terminate => event .info "Received SIGTERM, initiating graceful shutdown"
  | .interrupt => event .info "Received Ctrl+C, initiating graceful shutdown"

/-- The events of the server as it winds up. -/
def winding : List Log.Event :=
  ["received graceful shutdown signal. Telling tasks to shutdown",
    "signal received, not accepting new connections",
    "waiting for 0 task(s) to finish"].map
    fun message => { level := .trace, source := "axum::serve", message }

def stopped : Log.Event := event .info "Turnstile stopped"

/-- The events about the store's first sign of life; the store held in the process gives
it at once. -/
def firstSign [Timer] (s : Settings) (redisPing : Call Unit Unit) : List Log.Event :=
  let ping : Call Unit Unit := match s.backend with
    | .memory => .now () (.ok ()) ()
    | .redis => redisPing
  match (ping.within Service.healthPatience).result with
  | some (.ok _) => []
  | _ => [unreachable]

/-- The program up to the point where it takes its port: the log so far, and what it is
set up with, if the settings are accepted. -/
def prepare [Timer] (env : Environment) (redisPing : Call Unit Unit) :
    List Log.Event × Except LaunchError (Settings × Service) :=
  match Settings.ofEnvironment? env with
  | .error e => ([starting], .error (.settings e))
  | .ok s =>
    let log := [starting, loaded s]
    -- The location is looked at before the log names the store, all else after.
    match Service.checkLocation s with
    | .error e => (log, .error (.setup (.location e)))
    | .ok _ =>
      let log := log ++ [Service.storeChosen s.backend]
      match Service.ofSettings? s with
      | .error e => (log, .error (.setup e))
      | .ok svc => (log ++ firstSign s redisPing, .ok (s, svc))

/-- The program from its start to its end, before anything is filtered from the log. -/
def run [Timer] (env : Environment) (h : Host) : Run :=
  let (log, result) := prepare env h.redisPing
  match result with
  | .error e => { log, failure := some e }
  | .ok (s, _) =>
    if h.portFree then
      { log := log ++ [listening s.port, stopping h.stop] ++ winding ++ [stopped], failure := none }
    else { log, failure := some .port }

/-- Seconds between two purges of the store held in the process. -/
def purgeInterval : Nat := 30

/-- A purge of the store held in the process, and what the log says of it. -/
def purge (w : Windows) (now : Int) : Windows × List Log.Event :=
  let (kept, dropped) := w.purge now
  (kept, if dropped = 0 then []
    else [event .debug "purged expired rate limit windows" [("purged", Numeral.ofNat dropped)]])

/-- The filter that an environment asks for. -/
def filterOf (env : Environment) : Log.Filter :=
  ((env.text? "RUST_LOG").bind Log.Filter.ofText?).getD
    [{ source := none, span := none, field := none, depth := 3 },
      { source := some "tower_http", span := none, field := none, depth := 4 }]

/-- The environment after the file of settings, if there is one. -/
def withFile (env : Environment) (file : Option String) : Environment :=
  match file with
  | none => env
  | some text => Dotenv.load env text

end Launch

/-- The program as an operator sees it. -/
def launch [Timer] (env : Environment) (file : Option String) (h : Host) : Run :=
  let env := Launch.withFile env file
  let r := Launch.run env h
  { r with log := r.log.filter (Launch.filterOf env).passes }

end QuotaGate
