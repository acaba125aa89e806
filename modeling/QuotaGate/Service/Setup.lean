/-
Setting up the service.

`Service.ofSettings?` makes a service of settings.  What is refused first is reported:
the location of the server, then the policy, then the name of the gateway's header.
Nothing is connected.
-/
import QuotaGate.Redis.Url
import QuotaGate.Service.App
import QuotaGate.Settings

namespace QuotaGate

/-- Why settings make no service. -/
inductive SetupError
  | location (error : Redis.UrlError)
  | policy (error : PolicyError)
  | gateway
  deriving DecidableEq, Repr

namespace SetupError

/-- What is wrong. -/
def message : SetupError → String
  | .location _ => "invalid REDIS_URL"
  | .policy _ => "invalid rate limit configuration"
  | .gateway => "RATE_LIMIT_USER_HEADER must be a valid header name"

/-- Why it is wrong, outermost reason first. -/
def causes : SetupError → List String
  | .location e => [(StoreError.redis e.message).message, e.message]
  | .policy e => [e.message]
  | .gateway => ["invalid HTTP header name"]

end SetupError

namespace Service

/-- The policy that settings ask for. -/
def policyOf? (s : Settings) : Except PolicyError Policy :=
  (Policy.make? s.space s.quota (.ofSecs s.windowSecs)).map (·.withPatience (.ofMillis s.patienceMillis))

/-- Refuses a location of the server, if one is needed. -/
def checkLocation (s : Settings) : Except Redis.UrlError Unit :=
  match s.backend with
  | .memory => .ok ()
  | .redis => (Redis.Location.open? s.redisUrl).map fun _ => ()

/-- The gateway's header that settings name. -/
def gatewayOf? (s : Settings) : Except Unit (Option HeaderName) :=
  match s.gateway with
  | none => .ok none
  | some text =>
    match HeaderName.ofText? text with
    | some name => .ok (some name)
    | none => .error ()

/-- The service that settings ask for. -/
def ofSettings? (s : Settings) : Except SetupError Service := do
  -- The first of several faults is told: location, then policy, then header.
  (checkLocation s).mapError .location
  let policy ← (policyOf? s).mapError .policy
  let gateway ← (gatewayOf? s).mapError fun _ => .gateway
  return { policy, gateway, trust := s.trust, inProcess := s.backend = .memory }

/-- The event of a store being chosen. -/
def storeChosen (b : Backend) : Log.Event :=
  { level := .info, source := "turnstile::state", message := "Counting store configured"
    fields := [("backend", b.name)] }

end Service

end QuotaGate
