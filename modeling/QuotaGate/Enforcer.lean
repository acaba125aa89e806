/-
Enforcing a policy.

One transaction on the store per request and no second try.  A transaction that fails or
is late lets the request through (`Decision.failOpen`), so the store can slow a request
by as long as a timer runs that is set to the policy's patience, and never block it.

* `Policy.enforce` — enforces the policy at a given second;
* `Policy.enforceAt` — the same at the second of a moment, if that can be told.

Design notes: the only fault that an enforcement itself can end in is a second beyond
the clock; if it is the store's, the store's state is as the store left it, if it is the
enforcer's own, the transaction is already done.
-/
import QuotaGate.Client
import QuotaGate.Decision
import QuotaGate.Log
import QuotaGate.Policy
import QuotaGate.Store.Basic

namespace QuotaGate

/-- What an enforcement came to. -/
structure Enforcement (σ : Type) where
  outcome : Except Clock.Overflow Decision
  /-- Time spent waiting for the store. -/
  time : Duration
  state : σ
  log : List Log.Event

namespace Policy

/-- The member under which a request of second `now` is counted; `nonce` tells the
requests of one second apart. -/
def member (now : Int) (nonce : String) : String :=
  Numeral.ofInt now ++ "-" ++ nonce

/-- The hit that counts a request of `client` at `now`. -/
def hitFor (p : Policy) (client : Client) (now : Int) (nonce : String) : Hit :=
  { key := client.key p.space
    member := member now nonce
    now
    span := p.span }

/-- An event of the enforcer. -/
def event (level : Log.Level) (message : String) (fields : List (String × String)) : Log.Event :=
  { level, message, fields, source := "turnstile::ratelimit::enforcer" }

/-- The event of a request let through for an error of the store. -/
def failOpenEvent (key : String) (e : StoreError) : Log.Event :=
  event .warn "rate limit check failed, allowing request" [("key", key), ("error", e.message)]

/-- The event of a decision on a completed transaction. -/
def decisionEvent (key : String) (s : Status) : Log.Event :=
  let fields :=
    [("key", key), ("count", Numeral.ofNat s.count), ("limit", Numeral.ofNat s.limit)]
  if s.limit < s.count then event .debug "rate limit exceeded" fields
  else event .trace "rate limit check passed" fields

/-- The decision on a transaction that answered `count`, if the end of the window is a
second that the clock holds. -/
def verdict (p : Policy) (now : Int) (count : Nat) : Except Clock.Overflow Decision :=
  (Clock.after now p.span).map fun resetAt =>
    .ofStatus (.ofCount p.quota count now resetAt)

/-- Enforces the policy on a request of `client` at `now`. -/
def enforce [Timer] {σ : Type} (p : Policy) (store : CountingStore σ) (s : σ) (client : Client) (now : Int)
    (nonce : String) : Enforcement σ :=
  let hit := p.hitFor client now nonce
  let w := store.hitWithin p.patience s hit
  let failOpen (e : StoreError) : Enforcement σ :=
    { outcome := .ok .failOpen, time := w.time, state := w.state, log := [failOpenEvent hit.key e] }
  match w.result with
  | none => failOpen (.timedOut p.patience)
  | some (.error (.store e)) => failOpen e
  -- No fault of the clock is let through: it ends the request.
  | some (.error (.clock o)) => { outcome := .error o, time := w.time, state := w.state, log := [] }
  | some (.ok count) =>
    -- The hit is counted by now, whether or not the end of its window can be told.
    let outcome := p.verdict now count
    { outcome
      time := w.time
      state := w.state
      log := match outcome with
        | .error _ => []
        | .ok d => d.status?.toList.map (decisionEvent hit.key) }

/-- Enforces the policy on a request of `client` at the moment `m`.  A moment whose
second cannot be told is a fault before anything is counted. -/
def enforceAt [Timer] {σ : Type} (p : Policy) (store : CountingStore σ) (s : σ) (client : Client)
    (m : Clock.Moment) (nonce : String) : Except Clock.Misreading (Enforcement σ) :=
  m.read.map fun now => p.enforce store s client now nonce

end Policy

end QuotaGate
