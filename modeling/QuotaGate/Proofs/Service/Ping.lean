/-
The limited endpoint, over any store.

`Service.ownAnswer` is what the endpoint says where nothing is limited.  A request makes
one call on the store, a hit.  An answer of the store in time is passed on in the fields
of advice, and turns into a rejection just if it is above the quota (`Counted`); a
failure of the store, or none in time, leaves the endpoint's own answer, which says
nothing of quotas (`respond_ping`).

Design notes: the store is audited, so that the calls that a request makes can be read
off the record; it is in any state, so that any run may have gone before.
-/
import QuotaGate.Proofs.Enforcer.Run
import QuotaGate.Proofs.Service.Fields
import QuotaGate.Store.Slow

namespace QuotaGate

/-- The second of a moment leaves room for a window. -/
theorem Clock.Moment.holds_after {m : Moment} {now : Int} (hm : m.read = .ok now) (p : Policy) :
    Holds (now + p.span) :=
  (p.holds_window (roomy hm)).2

namespace Service

variable {σ : Type} {m : Clock.Moment} {now : Int} {req : Request}

/-- The answer of the limited endpoint itself to a method. -/
def ownAnswer (method : String) : Response :=
  complete method (routed method pong)

/-- The names that tell a client about its quota. -/
def quotaNames : List HeaderName :=
  Advice.names ++ [Advice.retryName]

/-- The answer to a request whose hit was answered `count`. -/
structure Counted (p : Policy) (method : String) (now : Int) (count : Nat) (res : Response) : Prop where
  limit : res.headers.all Advice.limitName = [Advice.value p.quota]
  remaining : res.headers.all Advice.remainingName = [Advice.value (max 0 ((p.quota : Int) - count))]
  reset : res.headers.all Advice.resetName = [Advice.value (now + p.span)]
  status : res.status = 429 ↔ p.quota < count
  rejected : p.quota < count →
    res.headers.all Advice.retryName = [Advice.value p.span]
      ∧ res.headers.all Advice.contentType = [.ofAscii "application/json"]
      ∧ res.body = if method = "HEAD" then ""
        else "\x7b\"code\":\"RATE_LIMIT_EXCEEDED\",\"error\":\"Rate limit exceeded\"\x7d"
  passed : count ≤ p.quota →
    res.status = (ownAnswer method).status ∧ res.body = (ownAnswer method).body
      ∧ ∀ n ∉ Advice.names, res.headers.all n = (ownAnswer method).headers.all n

/-! ### The endpoint's own answer -/

theorem status_ownAnswer (method : String) :
    (ownAnswer method).status = if method = "GET" ∨ method = "HEAD" then 200 else 405 := by
  rw [ownAnswer, status_complete, routed]
  by_cases h : method = "GET" ∨ method = "HEAD"
  · have hh : handles method = true := by simpa [handles] using h
    rw [if_pos hh, if_pos h]
    rfl
  · have hh : ¬handles method = true := by simpa [handles] using h
    rw [if_neg hh, if_neg h]
    rfl

theorem all_ownAnswer (method : String) {n : HeaderName} (hn : n ∈ quotaNames) :
    (ownAnswer method).headers.all n = [] := by
  have hne : n ≠ Response.allow ∧ n ≠ Response.contentLength ∧ n ≠ Advice.contentType := by
    revert n
    decide
  obtain ⟨ha, hl, ht⟩ := hne
  rw [ownAnswer, all_complete ha hl, routed]
  split
  · simp [pong, Advice.json, Headers.all, ht.symm]
  · rfl

/-! ### The answer after a decision -/

/-- Whether it passes or rejects a request, a decision with a status puts the status on
the answer. -/
theorem headers_afterDecision (s : Status) (handler : Response) :
    ∃ hs, (afterDecision (.ofStatus s) handler).headers = Advice.advise hs s := by
  by_cases h : s.limit < s.count
  · rw [Decision.ofStatus, if_pos h]
    exact ⟨_, rfl⟩
  · rw [Decision.ofStatus, if_neg h]
    exact ⟨_, rfl⟩

theorem counted_afterDecision (p : Policy) (method : String) (now : Int) (count : Nat) :
    Counted p method now count
      (complete method
        (afterDecision (.ofStatus (.ofCount p.quota count now (now + p.span))) (routed method pong))) := by
  generalize hs : Status.ofCount p.quota count now (now + p.span) = s
  have hlimit : s.limit = p.quota := by rw [← hs]; rfl
  have hcount : s.count = count := by rw [← hs]; rfl
  have hremaining : (s.remaining : Int) = max 0 ((p.quota : Int) - count) := by
    rw [← hs]
    simp only [Status.ofCount]
    omega
  have hreset : s.resetAt = now + p.span := by rw [← hs]; rfl
  have hretry : (s.retryAfter : Int) = p.span := by
    have := p.span_pos
    rw [← hs]
    simp only [Status.ofCount]
    omega
  obtain ⟨fields, hfields⟩ := headers_afterDecision s (routed method pong)
  have hown : (ownAnswer method).status ≠ 429 := by
    rw [status_ownAnswer]
    split <;> decide
  -- The three fields of advice are there on either branch; the rest is told branch by
  -- branch.
  refine ⟨?_, ?_, ?_, ?_, fun h => ?_, fun h => ?_⟩
  · rw [all_complete (by decide) (by decide), hfields, Advice.all_advise_limit, hlimit]
  · rw [all_complete (by decide) (by decide), hfields, Advice.all_advise_remaining, hremaining]
  · rw [all_complete (by decide) (by decide), hfields, Advice.all_advise_reset, hreset]
  · rw [Decision.ofStatus, hlimit, hcount]
    split
    · exact ⟨fun _ => ‹_›, fun _ => rfl⟩
    · exact ⟨fun h => (hown h).elim, fun h => absurd h ‹_›⟩
  · rw [Decision.ofStatus, hlimit, hcount, if_pos h]
    refine ⟨?_, ?_, rfl⟩
    · rw [all_complete (by decide) (by decide), afterDecision, Advice.all_rejection_retry, hretry]
    · rw [all_complete (by decide) (by decide), afterDecision, Advice.all_rejection_contentType]
  · rw [Decision.ofStatus, hlimit, hcount, if_neg (by omega)]
    refine ⟨rfl, rfl, fun n hn => ?_⟩
    have hadvise := Advice.all_advise_of_notMem (routed method pong).headers s hn
    refine all_complete_congr ?_ hadvise
    rfl

/-! ### The limiter -/

section

variable [Timer]

/-- A request to the limited endpoint is one enforcement: its fault ends the request, and
its decision is counted and answered. -/
theorem respond_ping_cases (svc : Service) (store : CountingStore σ) (r : Running σ) (nonce : String)
    (elapsed : Duration) (hm : m.read = .ok now) (hp : req.path = "/api/ping") :
    let e := svc.policy.enforce store r.store (Attribution.client svc.gateway svc.trust req) now nonce
    svc.respond store r m nonce elapsed req = match e.outcome with
      | .error o => (.error (.overflow o), { r with store := e.state })
      | .ok d =>
        (.ok (complete req.method (afterDecision d (routed req.method pong))),
          { store := e.state, metrics := r.metrics.record d.verdict elapsed.toSeconds }) := by
  intro e
  have he : svc.policy.enforceAt store r.store (Attribution.client svc.gateway svc.trust req) m nonce = .ok e := by
    rw [Policy.enforceAt, hm]
    rfl
  have hping : Endpoint.ofPath? req.path = some .ping := by rw [hp]; rfl
  rw [respond, hping]
  dsimp only
  rw [limited, he]
  dsimp only
  cases e.outcome <;> rfl

/-- The decision of an enforcement is answered, and the store is left as the enforcement
leaves it. -/
theorem respond_ping_eq (svc : Service) (store : CountingStore σ) (r : Running σ) (nonce : String)
    (elapsed : Duration) (hm : m.read = .ok now) (hp : req.path = "/api/ping") :
    let e := svc.policy.enforce store r.store (Attribution.client svc.gateway svc.trust req) now nonce
    (∀ d, e.outcome = .ok d → (svc.respond store r m nonce elapsed req).1
        = .ok (complete req.method (afterDecision d (routed req.method pong))))
      ∧ (svc.respond store r m nonce elapsed req).2.store = e.state := by
  dsimp only
  rw [svc.respond_ping_cases store r nonce elapsed hm hp]
  cases (svc.policy.enforce store r.store (Attribution.client svc.gateway svc.trust req) now nonce).outcome with
  | error o => exact ⟨nofun, rfl⟩
  | ok d =>
    refine ⟨fun d' h => ?_, rfl⟩
    obtain rfl := Except.ok.inj h
    rfl

/-- A request at a moment that cannot be told ends in a fault, and changes nothing. -/
theorem respond_of_unreadable (svc : Service) (store : CountingStore σ) (r : Running σ) (nonce : String)
    (elapsed : Duration) {x : Clock.Misreading} (hm : m.read = .error x) (hp : req.path = "/api/ping") :
    svc.respond store r m nonce elapsed req = (.error (.misreading x), r) := by
  have hping : Endpoint.ofPath? req.path = some .ping := by rw [hp]; rfl
  rw [respond, hping]
  simp only [limited, Policy.enforceAt, hm]
  rfl

/-- **The store never stands in the way.**  A request to the limited endpoint is one
hit, whatever came before.  An answer that comes in time is put on the response, which
is a rejection just if it is above the quota; otherwise the endpoint answers for itself,
without a word about quotas.  In time is what comes before the timer ends that is set to
the policy's patience: all that comes within the patience, if it is within the reach of
timers, and nothing else, if timers count to it. -/
theorem respond_ping (svc : Service) (store : CountingStore σ) (r : Running (Audited σ)) (nonce : String)
    (elapsed : Duration) (hm : m.read = .ok now) (hp : req.path = "/api/ping") :
    let hit := svc.policy.hitFor (Attribution.client svc.gateway svc.trust req) now nonce
    let call := store.hit r.store.inner hit
    let out := svc.respond store.audited r m nonce elapsed req
    (∀ a count, call.answer = some a → InTime svc.policy.patience a.delay → a.result = .ok count →
        out.2.store.record = r.store.record ++ [.hit hit]
          ∧ ∃ res, out.1 = .ok res ∧ Counted svc.policy req.method now count res)
      ∧ (∀ a e, call.answer = some a → InTime svc.policy.patience a.delay → a.result = .error (.store e) →
        out.2.store.record = r.store.record ++ [.hit hit] ∧ out.1 = .ok (ownAnswer req.method))
      ∧ (call.Late svc.policy.patience →
        out.2.store.record = r.store.record ++ [.hit hit, .timeout] ∧ out.1 = .ok (ownAnswer req.method))
      ∧ (ownAnswer req.method).status = (if req.method = "GET" ∨ req.method = "HEAD" then 200 else 405)
      ∧ (∀ n ∈ quotaNames, (ownAnswer req.method).headers.all n = [])
      ∧ (svc.policy.patience ≤ Timer.reach →
        ∀ delay, delay ≤ svc.policy.patience → InTime svc.policy.patience delay)
      ∧ (Timer.Counts svc.policy.patience →
        ∀ delay, InTime svc.policy.patience delay ↔ delay ≤ svc.policy.patience) := by
  intro hit call out
  obtain ⟨hanswer, hstore⟩ := svc.respond_ping_eq store.audited r nonce elapsed hm hp
  obtain ⟨houtcome, -, hstate⟩ := svc.policy.enforce_eq_judge store.audited r.store
    (Attribution.client svc.gateway svc.trust req) now nonce
  rw [hstate] at hstore
  rw [houtcome] at hanswer
  refine ⟨fun a count ha ht hok => ?_, fun a e ha ht herr => ?_, fun hl => ?_, status_ownAnswer _,
    fun n hn => all_ownAnswer _ hn, fun h _ => inTime_of_le h, fun h _ => inTime_iff_le h⟩
  · -- A count in time.
    rw [store.audited_hitWithin_of_inTime ha ht] at hanswer hstore
    refine ⟨congrArg _ hstore, _, hanswer _ ?_, counted_afterDecision svc.policy req.method now count⟩
    rw [hok, Policy.judge, Policy.verdict_of_holds _ (Clock.Moment.holds_after hm _)]
  · -- An error of the store in time.
    rw [store.audited_hitWithin_of_inTime ha ht] at hanswer hstore
    refine ⟨congrArg _ hstore, hanswer .failOpen ?_⟩
    rw [herr, Policy.judge]
  · -- Nothing in time, so that the store is told.
    rw [store.audited_hitWithin_of_late hl] at hanswer hstore
    exact ⟨congrArg _ hstore, hanswer .failOpen rfl⟩

end

/-- Five requests an hour, by a limiter that waits for `patience`. -/
def fivePerHour (patience : Duration) : Service where
  policy :=
    { space := "p:", quota := 5, window := .ofSecs 3600, patience
      quota_pos := by decide, one_le_secs := by decide, window_le := by decide }
  trust := false
  gateway := none
  inProcess := true

/-- A request of user 42 to the limited endpoint. -/
def pingOf (method : String) : Request :=
  { method, target := "/api/ping", headers := [], peer := none, user := some "42" }

/-- A wrong method is counted like any other, here by a store that answers at the last
instant. -/
theorem respond_ping_post :
    Clock.Moment.read ⟨1700000000, 0⟩ = .ok 1700000000 ∧ (pingOf "POST").path = "/api/ping"
      ∧ ∃ res, ((fivePerHour (.ofMillis 250)).respond (Windows.slowStore (.ofMillis 250)).audited
          ⟨⟨[], .empty⟩, .fresh⟩ ⟨1700000000, 0⟩ "x" (.ofMillis 250) (pingOf "POST")).1 = .ok res
        ∧ res.status = 405 ∧ res.headers.all Advice.remainingName = [Advice.value 4]
        ∧ res.headers.all Advice.retryName = [] := by
  have hm : Clock.Moment.read ⟨1700000000, 0⟩ = .ok 1700000000 := by decide
  have hp : (pingOf "POST").path = "/api/ping" := by decide
  obtain ⟨hcounted, -, -, hstatus, hown, -⟩ := respond_ping (fivePerHour (.ofMillis 250))
    (Windows.slowStore (.ofMillis 250)) ⟨⟨[], .empty⟩, .fresh⟩ "x" (.ofMillis 250) hm hp
  obtain ⟨-, res, hres, hc⟩ := hcounted _ 1 rfl (Nat.le_refl _) (by decide)
  obtain ⟨hs, -, hall⟩ := hc.passed (by decide)
  refine ⟨hm, hp, res, hres, hs.trans (hstatus.trans (by decide)), hc.remaining, ?_⟩
  rw [hall _ (by decide)]
  exact hown _ (by decide)

end Service

end QuotaGate
