/-
The service: three endpoints over one limiter.

`/api/ping` is limited, `/health` tells whether the counting store answers, `/metrics`
reports the metrics.

* `Service.limited` — enforces the policy on a request, and only then lets its handler
  answer;
* `Service.healthy` — a sign of life from the store, waited for at most a second;
* `Service.respond` — the whole service on one request.

Design notes: the limiter stands in front of the choice of method, so a request with a
wrong method is counted like any other; what no endpoint answers is not.  How long an
enforcement took is measured on a clock outside, and is an input here.  Every answer of an
endpoint is completed the same way: a wrong method is told the right ones, the length of
the body is stated, and a request for the head alone gets no body.
-/
import QuotaGate.Enforcer
import QuotaGate.Service.Advice
import QuotaGate.Service.Attribution
import QuotaGate.Service.Metrics

namespace QuotaGate

/-- What a service is set up with. -/
structure Service where
  policy : Policy
  /-- Whether forwarding headers are trusted. -/
  trust : Bool
  /-- The header in which the gateway names the user. -/
  gateway : Option HeaderName
  /-- Whether the counting store is the one held in the process. -/
  inProcess : Bool

/-- What changes while a service runs: its counting store and its metrics. -/
structure Running (σ : Type) where
  store : σ
  metrics : Metrics

/-- The endpoints. -/
inductive Endpoint
  | ping
  | health
  | metrics
  deriving DecidableEq, Repr

/-- The endpoint at a path. -/
def Endpoint.ofPath? (path : String) : Option Endpoint :=
  if path = "/api/ping" then some .ping
  else if path = "/health" then some .health
  else if path = "/metrics" then some .metrics
  else none

namespace Response

def allow : HeaderName := ⟨"allow"⟩

def contentLength : HeaderName := ⟨"content-length"⟩

/-- The answer where there is no endpoint.  Where there is not even a path, it states
its length. -/
def notFound (path : String) : Response :=
  let headers := if path.toList.head? == some '/' then [] else [(contentLength, .ofAscii "0")]
  { status := 404, headers, body := "" }

/-- The answer of an endpoint to a wrong method. -/
def wrongMethod : Response :=
  { status := 405, headers := [], body := "" }

end Response

namespace Service

variable {σ : Type} [Timer]

/-- Whether an endpoint handles the method. -/
def handles (method : String) : Bool :=
  method = "GET" || method = "HEAD"

/-- Completes the answer of an endpoint. -/
def complete (method : String) (r : Response) : Response :=
  let headers := if handles method then r.headers else r.headers.set Response.allow (.ofAscii "GET,HEAD")
  { r with
    headers := headers.set Response.contentLength (Advice.value r.body.utf8ByteSize)
    body := if method = "HEAD" then "" else r.body }

/-- Lets `handler` answer if the method is right. -/
def routed (method : String) (handler : Response) : Response :=
  if handles method then handler else .wrongMethod

/-- The answer of the limited endpoint itself. -/
def pong : Response :=
  Advice.json 200 "\x7b\"status\":\"ok\"\x7d"

/-- The answer to a request after a decision: advice on an allowed one, a rejection, or
the handler's own answer. -/
def afterDecision (d : Decision) (handler : Response) : Response :=
  match d with
  | .allowed s => { handler with headers := Advice.advise handler.headers s }
  | .rejected s => Advice.rejection s
  | .failOpen => handler

/-- Enforces the policy on a request at the moment `m`, which takes as long as `elapsed`,
then lets `handler` answer; counts the decision. -/
def limited (svc : Service) (store : CountingStore σ) (r : Running σ) (m : Clock.Moment) (nonce : String)
    (elapsed : Duration) (req : Request) (handler : Response) : Except Clock.Failure Response × Running σ :=
  let client := Attribution.client svc.gateway svc.trust req
  match svc.policy.enforceAt store r.store client m nonce with
  | .error x => (.error (.misreading x), r)
  | .ok e =>
    match e.outcome with
    | .error o => (.error (.overflow o), { r with store := e.state })
    | .ok d =>
      (.ok (afterDecision d handler),
        { store := e.state, metrics := r.metrics.record d.verdict elapsed.toSeconds })

/-- How long a sign of life is waited for. -/
def healthPatience : Duration := .ofSecs 1

/-- Whether the store gives a sign of life in time. -/
def healthy (store : CountingStore σ) (s : σ) : Bool × σ :=
  let w := store.pingWithin healthPatience s
  (match w.result with
    | some (.ok _) => true
    | _ => false,
   w.state)

/-- The answer about the store's health. -/
def healthReport (alive : Bool) : Response :=
  if alive then Advice.json 200 "\x7b\"status\":\"healthy\",\"store\":true\x7d"
  else Advice.json 503 "\x7b\"status\":\"unhealthy\",\"store\":false\x7d"

/-- The answer with the metrics. -/
def metricsReport (m : Metrics) : Response :=
  { status := 200
    headers := [(Advice.contentType, .ofAscii "text/plain; version=0.0.4; charset=utf-8")]
    body := m.text }

/-- Answers a request that arrives at the moment `m`; an enforcement of the policy on it
takes as long as `elapsed`. -/
def respond (svc : Service) (store : CountingStore σ) (r : Running σ) (m : Clock.Moment) (nonce : String)
    (elapsed : Duration) (req : Request) : Except Clock.Failure Response × Running σ :=
  match Endpoint.ofPath? req.path with
  | none => (.ok (.notFound req.path), r)
  | some .ping =>
    -- The limiter stands before the choice of method.
    let (answer, r) := svc.limited store r m nonce elapsed req (routed req.method pong)
    (answer.map (complete req.method), r)
  | some .health =>
    -- A wrong method asks nothing of the store.
    if handles req.method then
      let (alive, s) := healthy store r.store
      (.ok (complete req.method (healthReport alive)), { r with store := s })
    else (.ok (complete req.method .wrongMethod), r)
  | some .metrics =>
    (.ok (complete req.method (routed req.method (metricsReport r.metrics))), r)

/-- The service's values, for an operator to read. -/
def summary (svc : Service) : String :=
  "AppState \x7b limiter: " ++ svc.policy.summary
    ++ ", trust_forwarded: " ++ (if svc.trust then "true" else "false")
    ++ ", user_header: "
    ++ (match svc.gateway with
      | some name => "Some(" ++ Text.quote name.text ++ ")"
      | none => "None")
    ++ ", .. \x7d"

end Service

end QuotaGate
