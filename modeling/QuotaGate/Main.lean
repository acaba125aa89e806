/-
The program: the service behind an HTTP server.

It takes its settings from the environment and the file `.env`, tells its log what
becomes of them, and listens until a signal asks it to stop.  Meanwhile it purges the
store held in the process from time to time.

Design notes: what is decided is decided in `Launch` and `Service.respond`.  Here
requests from the network become values, and answers go back.  No connection to a shared
store is opened, so with that backend the store gives no sign of life, and every request
is let through.
-/
import QuotaGate.Launch
import QuotaGate.Service.Backing
import QuotaGate.Uuid
import Std.Async.Signal
import Std.Async.Timer
import Std.Http.Server
import Std.Time.DateTime.Timestamp

open Std.Async

namespace QuotaGate

/-! ### The environment -/

/-- Names of variables that a file of settings may speak of. -/
def namesIn (file : String) : List String :=
  (file.split fun c => !(c.isAlphanum || c = '_' || c = '.')).toList.map fun s => s.toString

/-- The file of settings, if there is one that can be read. -/
def readFile : IO (Option String) := do
  try return some (← IO.FS.readFile ".env")
  catch _ => return none

/-- The variables of the environment that are read here, or may be from the file. -/
def readEnvironment (file : Option String) : IO Environment := do
  let names := Settings.names ++ "RUST_LOG" :: namesIn (file.getD "")
  let pairs ← names.filterMapM fun n => do
    return (← IO.getEnv n).map fun v => (n, Text.toUtf8 v)
  return .ofList pairs

/-! ### Requests and answers -/

/-- A service over a counting store, while it runs. -/
structure Front (σ : Type) where
  service : Service
  store : CountingStore σ
  running : IO.Ref (Running σ)

namespace Front

/-- The end point that a request came from, if the server knows it. -/
def peerOf (r : Std.Http.Request Std.Http.Body.Stream) : Option SocketAddress := do
  let remote ← r.extensions.get Std.Http.Server.RemoteAddr
  SocketAddress.ofText? (toString remote)

/-- A request of the network as a value. -/
def requestOf (r : Std.Http.Request Std.Http.Body.Stream) : Request where
  method := toString r.line.method
  target := toString r.line.uri
  headers := r.line.headers.toList.filterMap fun (n, v) => do
    return (← HeaderName.ofText? n.value, Text.toUtf8 v.value)
  peer := peerOf r
  user := none

/-- The bytes to send.  An answer for the head alone states the size of what it leaves
out; the server sends none of these. -/
def content (r : Response) : ByteArray :=
  let stated := ((r.headers.firstText? Response.contentLength).bind String.toNat?).getD 0
  if r.body.isEmpty then ⟨Array.replicate stated 0⟩ else r.body.toUTF8

/-- An answer for the network. -/
def answerOf (r : Response) : Async (Std.Http.Response Std.Http.Body.Any) := do
  let status := (Std.Http.Status.ofCode none r.status.toUInt16).getD .internalServerError
  let builder := r.headers.foldl
    (fun b h => ((b.header? h.1.text (Text.ofUtf8Lossy h.2))).getD b)
    (Std.Http.Response.withStatus status)
  let body ← Std.Http.Body.Full.ofByteArray (content r)
  return builder.body (Std.Http.Body.Any.ofBody body)

/-- 128 random bits. -/
def randomBits : IO Nat :=
  return (← IO.getRandomBytes 16).foldl (fun n b => 256 * n + b.toNat) 0

/-- The moment it is. -/
def readMoment : IO Clock.Moment := do
  let nanos := (← Std.Time.Timestamp.now).toNanosecondsSinceUnixEpoch.val
  return { second := nanos / Duration.perSecond, nanos := (nanos % Duration.perSecond).toNat }

/-- Answers one request. -/
def answer {σ : Type} (f : Front σ) (r : Std.Http.Request Std.Http.Body.Stream) :
    Async (Std.Http.Response Std.Http.Body.Any) := do
  let began ← IO.monoNanosNow
  let moment ← readMoment
  let nonce := Uuid.ofBits (← randomBits)
  -- The stores here answer at once, so that an enforcement has taken its time by now.
  let elapsed : Duration := ⟨(← IO.monoNanosNow) - began⟩
  let outcome ← f.running.modifyGet fun running =>
    f.service.respond f.store running moment nonce elapsed (requestOf r)
  match outcome with
  | .ok response => answerOf response
  | .error o => throw (IO.userError o.message)

instance {σ : Type} : Std.Http.Server.Handler (Front σ) where
  onRequest f r := f.answer r

end Front

/-! ### Running -/

/-- Writes to the log what passes the filter. -/
def report (filter : Log.Filter) (events : List Log.Event) : IO Unit := do
  for e in events.filter filter.passes do
    IO.println e.line
  (← IO.getStdout).flush

/-- Waits for a signal to stop. -/
def awaitStop : Async Stop := do
  let terminate ← Signal.Waiter.mk .sigterm false
  let interrupt ← Signal.Waiter.mk .sigint false
  Selectable.one #[
    .case terminate.selector fun _ => return .terminate,
    .case interrupt.selector fun _ => return .interrupt]

/-- Purges the window sets held in the process, again and again, while the clock can be
read. -/
partial def keepPurged {σ : Type} (filter : Log.Filter) (x : Handle σ) (f : Front σ) : Async Unit := do
  match (← Front.readMoment).read with
  | .error _ => return ()
  | .ok now =>
    let events ← f.running.modifyGet fun running =>
      let (windows, events) := Launch.purge (x.windows running.store) now
      (events, { running with store := x.replace running.store windows })
    report filter events
    sleep (.ofNat (1000 * Launch.purgeInterval))
    keepPurged filter x f

/-- Serves a service until a signal asks to stop; `false` if the port cannot be had. -/
def serve {σ : Type} (svc : Service) (store : CountingStore σ) (s : σ) (port : Nat) (filter : Log.Filter)
    (upkeep : Front σ → Async Unit) : Async Bool := do
  let running ← IO.mkRef { store := s, metrics := .fresh }
  let front : Front σ := { service := svc, store, running }
  let everywhere : Std.Net.SocketAddress := .v4 { addr := .ofParts 0 0 0 0, port := port.toUInt16 }
  let server? ← try some <$> Std.Http.Server.serve everywhere front catch _ => pure none
  match server? with
  | none => return false
  | some server => do
    report filter [Launch.listening port]
    background (upkeep front)
    let stop ← awaitStop
    report filter (Launch.stopping stop :: Launch.winding)
    server.shutdownAndWait
    report filter [Launch.stopped]
    return true

/-- The program over an environment; its exit code. -/
def start (env : Environment) : IO Nat := do
  let filter := Launch.filterOf env
  -- No server is within reach, so that the shared store gives no sign of life.
  let shared := Backing.ofBackend [] .redis
  let ping := (shared.store.ping shared.start).mapState fun _ => ()
  let (log, result) := Launch.prepare env ping
  report filter log
  let failure ← match result with
    | .error e => pure (some e)
    | .ok (s, svc) => do
      let backing := Backing.ofBackend [] s.backend
      let upkeep : Front backing.State → Async Unit := match backing.handle? with
        | some x => keepPurged filter x
        | none => fun _ => return ()
      let served := serve svc backing.store backing.start s.port filter upkeep
      if ← served.block then pure none else pure (some .port)
  let run : Run := { log, failure }
  IO.eprint run.lastWords
  return run.exitCode

end QuotaGate

def main : IO UInt32 := do
  let file ← QuotaGate.readFile
  let env ← QuotaGate.readEnvironment file
  let code ← QuotaGate.start (QuotaGate.Launch.withFile env file)
  return code.toUInt32
