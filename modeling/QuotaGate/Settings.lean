/-
Settings, read from the environment.

`Settings.ofEnvironment?` reads nine variables.  Each that is unset has a default; the
numbers must be numerals of their width, and the backend must be known.  The first
variable at fault, in the order of reading, is the one reported.
-/
import QuotaGate.Duration
import QuotaGate.Environment
import QuotaGate.Text.Blank
import QuotaGate.Text.LowerCase

namespace QuotaGate

/-- Which counting store backs the limiter. -/
inductive Backend
  | redis
  | memory
  deriving DecidableEq, Repr

namespace Backend

def name : Backend → String
  | .redis => "Redis"
  | .memory => "Memory"

/-- Reads a backend; blanks around it and letter case do not count.  What was not
understood is reported as it was compared. -/
def ofText? (s : String) : Except String Backend :=
  let word := Text.lower (Text.trim s)
  if word = "redis" then .ok .redis
  else if word = "memory" then .ok .memory
  else .error word

/-- The wording for a backend that is not known. -/
def unknown (word : String) : String :=
  "unknown rate limit backend '" ++ word ++ "', expected 'redis' or 'memory'"

end Backend

/-- Why an environment gives no settings. -/
inductive SettingsError
  | port (fault : Numeral.Fault)
  | backend (word : String)
  | quota (fault : Numeral.Fault)
  | window (fault : Numeral.Fault)
  | patience (fault : Numeral.Fault)
  deriving DecidableEq, Repr

namespace SettingsError

/-- What is wrong. -/
def message : SettingsError → String
  | .port _ => "PORT must be a valid u16"
  | .backend _ => "RATE_LIMIT_BACKEND must be 'redis' or 'memory'"
  | .quota _ => "RATE_LIMIT_QUOTA must be a valid u32"
  | .window _ => "RATE_LIMIT_WINDOW_SECS must be a valid u64"
  | .patience _ => "RATE_LIMIT_STORE_TIMEOUT_MS must be a valid u64"

/-- Why it is wrong. -/
def cause : SettingsError → String
  | .port f => f.message
  | .backend word => Backend.unknown word
  | .quota f => f.message
  | .window f => f.message
  | .patience f => f.message

end SettingsError

/-- What the program is set to. -/
structure Settings where
  port : Nat
  redisUrl : String
  backend : Backend
  /-- Name space of the limiter's keys. -/
  space : String
  quota : Nat
  windowSecs : Nat
  patienceMillis : Nat
  /-- Whether forwarding headers are trusted. -/
  trust : Bool
  /-- The header in which the gateway names the user. -/
  gateway : Option String
  deriving DecidableEq, Repr

namespace Settings

/-- The variables that are read. -/
def names : List String :=
  ["PORT", "REDIS_URL", "RATE_LIMIT_BACKEND", "RATE_LIMIT_KEY_PREFIX", "RATE_LIMIT_QUOTA", "RATE_LIMIT_WINDOW_SECS",
    "RATE_LIMIT_STORE_TIMEOUT_MS", "RATE_LIMIT_TRUST_FORWARDED", "RATE_LIMIT_USER_HEADER"]

/-- Reads a number of at most `bits` bits, `default` if the variable is unset. -/
def number? (env : Environment) (name : String) (bits default : Nat) : Except Numeral.Fault Nat :=
  match env.text? name with
  | none => .ok default
  | some s => Numeral.natUpTo ((1 <<< bits) - 1) s.toList

/-- Whether a text says yes. -/
def isYes (s : String) : Bool :=
  ["1", "true", "yes", "on"].contains (Text.lower (Text.trim s))

/-- The header name that a text gives, if it gives any. -/
def gatewayOf (s : String) : Option String :=
  let name := Text.lower (Text.trim s)
  if name.isEmpty then none else some name

def backend? (env : Environment) : Except String Backend :=
  match env.text? "RATE_LIMIT_BACKEND" with
  | none => .ok .redis
  | some s => Backend.ofText? s

/-- Reads the settings. -/
def ofEnvironment? (env : Environment) : Except SettingsError Settings := do
  -- Read in the order in which faults are told.
  let port ← (number? env "PORT" 16 3000).mapError .port
  let redisUrl := (env.text? "REDIS_URL").getD "redis://127.0.0.1:6379"
  let backend ← (backend? env).mapError .backend
  let space := (env.text? "RATE_LIMIT_KEY_PREFIX").getD "ratelimit:"
  let quota ← (number? env "RATE_LIMIT_QUOTA" 32 100).mapError .quota
  let windowSecs ← (number? env "RATE_LIMIT_WINDOW_SECS" 64 60).mapError .window
  let patienceMillis ← (number? env "RATE_LIMIT_STORE_TIMEOUT_MS" 64 250).mapError .patience
  let trust := ((env.text? "RATE_LIMIT_TRUST_FORWARDED").map isYes).getD false
  let gateway := (env.text? "RATE_LIMIT_USER_HEADER").bind gatewayOf
  return { port, redisUrl, backend, space, quota, windowSecs, patienceMillis, trust, gateway }

end Settings

end QuotaGate
