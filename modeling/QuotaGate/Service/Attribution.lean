/-
Whom a request belongs to.

A user that the surrounding program established comes first; then the one named by the
configured header of the gateway in front; else the request belongs to its client's
address.  Forwarded addresses count only if they are trusted, for otherwise a client
could choose its own quota.
-/
import QuotaGate.Client
import QuotaGate.Http.Message
import QuotaGate.Text.Blank

namespace QuotaGate.Attribution

def forwardedFor : HeaderName := ⟨"x-forwarded-for"⟩

def realIp : HeaderName := ⟨"x-real-ip"⟩

/-- A text without blanks at its ends, unless nothing is left of it. -/
def nonBlank? (s : String) : Option String :=
  let t := Text.trim s
  if t.isEmpty then none else some t

/-- The first hop of a forwarding chain: the text before the first comma. -/
def firstHop (chain : String) : String :=
  String.ofList (chain.toList.takeWhile (· ≠ ','))

/-- The address that trusted forwarding headers give: the first hop of the chain, else
the real address. -/
def forwarded? (hs : Headers) : Option String :=
  ((hs.firstText? forwardedFor).bind fun chain => nonBlank? (firstHop chain))
    |>.or ((hs.firstText? realIp).bind nonBlank?)

/-- The address of the client behind a request. -/
def address (trust : Bool) (peer : Option SocketAddress) (hs : Headers) : String :=
  let direct := match peer with
    | some p => p.ip.text
    | none => "unknown"
  if trust then (forwarded? hs).getD direct else direct

/-- The user of a request: the established one, else the one that the gateway's header
names. -/
def user? (gateway : Option HeaderName) (r : Request) : Option String :=
  match r.user with
  | some id => some id
  | none => gateway.bind fun name => (r.headers.firstText? name).bind nonBlank?

/-- Whom a request is charged to. -/
def client (gateway : Option HeaderName) (trust : Bool) (r : Request) : Client :=
  .resolve (user? gateway r) fun _ => address trust r.peer r.headers

end QuotaGate.Attribution
