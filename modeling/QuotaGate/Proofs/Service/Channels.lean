/-
What a client can change by its headers.

Headers reach the limiter through three channels: the header in which the gateway names
the user, and, for a request without a user where forwarding is trusted, the two headers
of forwarded addresses; of each only the first value.  A request is *like* another if it
differs from it in nothing but headers, and in these not where a channel is open.

* `Visit.Alike.client_eq` — two such requests are charged to the same client;
* `Visit.Alike.enforce_eq`, `Visit.Alike.visit_eq` — what the store makes of them is the
  same, and so are the answer and the state that is left, over any store;
* `Visit.Alike.visit_agrees` — where the times measured differ, that shows in nothing but a
  report of the metrics;
* `Service.headers_confined` — the same for two runs of such requests.

Design notes: the two runs draw the same identifiers, as an identifier is stored with its
hit.
Which channels are open is told by the first request of a pair alone; that they are open
for the other one too is part of what is proved.
-/
import Mathlib.Data.List.Forall2
import QuotaGate.Proofs.Service.Run
import QuotaGate.Store.Memory

namespace QuotaGate

/-- Two requests that agree in all but headers, and also in the headers that the limiter
looks at. -/
structure Visit.Alike (svc : Service) (v v' : Visit) : Prop where
  moment : v.moment = v'.moment
  nonce : v.nonce = v'.nonce
  method : v.request.method = v'.request.method
  path : v.request.path = v'.request.path
  peer : v.request.peer = v'.request.peer
  user : v.request.user = v'.request.user
  /-- The gateway's header, where no user is established. -/
  gateway : v.isPing → v.request.user = none → ∀ name, svc.gateway = some name →
    v.request.headers.first? name = v'.request.headers.first? name
  /-- The forwarded addresses, where there is no user at all and they are trusted. -/
  forwarded : v.isPing → Attribution.user? svc.gateway v.request = none → svc.trust →
    v.request.headers.first? Attribution.forwardedFor = v'.request.headers.first? Attribution.forwardedFor
      ∧ v.request.headers.first? Attribution.realIp = v'.request.headers.first? Attribution.realIp

namespace Headers

theorem firstText?_congr {hs hs' : Headers} {n : HeaderName} (h : hs.first? n = hs'.first? n) :
    hs.firstText? n = hs'.firstText? n := by
  rw [firstText?, firstText?, h]

end Headers

namespace Attribution

theorem address_congr {trust : Bool} {hs hs' : Headers} (peer : Option SocketAddress)
    (h : trust → hs.first? forwardedFor = hs'.first? forwardedFor ∧ hs.first? realIp = hs'.first? realIp) :
    address trust peer hs = address trust peer hs' := by
  cases trust with
  | false => rfl
  | true =>
    obtain ⟨hf, hr⟩ := h rfl
    have hforwarded : forwarded? hs = forwarded? hs' := by
      rw [forwarded?, forwarded?, Headers.firstText?_congr hf, Headers.firstText?_congr hr]
    simp only [address, hforwarded]

end Attribution

/-- The states agree in all but the times that were measured. -/
structure Running.Agrees {σ : Type} (r r' : Running σ) : Prop where
  store : r.store = r'.store
  counters : r.metrics.counters = r'.metrics.counters
  observations : r.metrics.times.observations = r'.metrics.times.observations

theorem Running.Agrees.refl {σ : Type} (r : Running σ) : r.Agrees r :=
  ⟨rfl, rfl, rfl⟩

/-- They go on to do so when one decision is counted in both. -/
theorem Running.Agrees.record {σ : Type} {r r' : Running σ} (h : r.Agrees r') (s : σ) (v : Verdict)
    (seconds seconds' : Float) :
    Running.Agrees ⟨s, r.metrics.record v seconds⟩ ⟨s, r'.metrics.record v seconds'⟩ := by
  obtain ⟨hallowed, hrejected, hfailOpen⟩ : r.metrics.allowed = r'.metrics.allowed
      ∧ r.metrics.rejected = r'.metrics.rejected ∧ r.metrics.failOpen = r'.metrics.failOpen := by
    simpa [Metrics.counters] using h.counters
  have hobservations := congrArg (· + 1) h.observations
  cases v <;> exact ⟨rfl, by simp [Metrics.counters, Metrics.record, *], hobservations⟩

namespace Visit.Alike

variable {svc : Service} {v v' : Visit}

theorem user?_eq (h : v.Alike svc v') (hp : v.isPing) :
    Attribution.user? svc.gateway v.request = Attribution.user? svc.gateway v'.request := by
  rw [Attribution.user?, Attribution.user?, ← h.user]
  cases hu : v.request.user with
  | some id => rfl
  | none =>
    cases hg : svc.gateway with
    | none => rfl
    | some name =>
      have hfirst := Headers.firstText?_congr (h.gateway hp hu name hg)
      simp only [Option.bind_some, hfirst]

theorem client_eq (h : v.Alike svc v') (hp : v.isPing) :
    Attribution.client svc.gateway svc.trust v.request = Attribution.client svc.gateway svc.trust v'.request := by
  rw [Attribution.client, Attribution.client, ← h.user?_eq hp, ← h.peer]
  cases hu : Attribution.user? svc.gateway v.request with
  | some id => rfl
  | none =>
    -- Only here is the address asked for.
    have haddress := Attribution.address_congr v.request.peer (h.forwarded hp hu)
    simp only [Client.resolve, haddress]

/-- Such requests are enforced upon as one, down to how long the store is waited for. -/
theorem enforce_eq [Timer] {σ : Type} (h : v.Alike svc v') (hp : v.isPing) (store : CountingStore σ) (s : σ)
    (now : Int) :
    svc.policy.enforce store s (Attribution.client svc.gateway svc.trust v.request) now v.nonce
      = svc.policy.enforce store s (Attribution.client svc.gateway svc.trust v'.request) now v'.nonce := by
  rw [h.client_eq hp, h.nonce]

/-- If the same time is measured for them, they are answered as one. -/
theorem visit_eq [Timer] {σ : Type} (h : v.Alike svc v') (helapsed : v.elapsed = v'.elapsed) (store : CountingStore σ)
    (r : Running σ) : svc.visit store r v = svc.visit store r v' := by
  rw [Service.visit, Service.visit, Service.respond, Service.respond, ← h.moment, ← h.nonce, ← h.method, ← h.path,
    ← helapsed]
  cases he : Endpoint.ofPath? v.request.path with
  | none => rfl
  | some e =>
    cases e with
    | ping => simp only [Service.limited, h.client_eq (isPing_iff.2 (Endpoint.ofPath?_eq_some_iff.1 he))]
    -- Neither of these looks at the headers.
    | health => rfl
    | metrics => rfl

/-- Whatever times are measured, they are answered alike unless they ask for the metrics. -/
theorem visit_agrees [Timer] {σ : Type} (h : v.Alike svc v') (store : CountingStore σ) {r r' : Running σ}
    (hr : r.Agrees r') :
    (v.request.path ≠ "/metrics" → (svc.visit store r v).1 = (svc.visit store r' v').1)
      ∧ (svc.visit store r v).2.Agrees (svc.visit store r' v').2 := by
  obtain ⟨s, m⟩ := r
  obtain ⟨s', m'⟩ := r'
  obtain rfl : s = s' := hr.store
  rw [Service.visit, Service.visit, Service.respond, Service.respond, ← h.moment, ← h.nonce, ← h.method, ← h.path]
  cases he : Endpoint.ofPath? v.request.path with
  | none => exact ⟨fun _ => rfl, hr⟩
  | some e =>
    cases e with
    | ping =>
      simp only [Service.limited, ← h.client_eq (isPing_iff.2 (Endpoint.ofPath?_eq_some_iff.1 he))]
      cases svc.policy.enforceAt store s (Attribution.client svc.gateway svc.trust v.request) v.moment v.nonce with
      | error x => exact ⟨fun _ => rfl, hr⟩
      | ok e =>
        dsimp only
        cases e.outcome with
        | error o => exact ⟨fun _ => rfl, ⟨rfl, hr.counters, hr.observations⟩⟩
        | ok d => exact ⟨fun _ => rfl, hr.record e.state d.verdict _ _⟩
    | health =>
      dsimp only
      split
      · exact ⟨fun _ => rfl, ⟨rfl, hr.counters, hr.observations⟩⟩
      · exact ⟨fun _ => rfl, hr⟩
    | metrics => exact ⟨fun hne => absurd (Endpoint.ofPath?_eq_some_iff.1 he) hne, hr⟩

end Visit.Alike

namespace Service

variable {σ : Type}

theorem runs_eq [Timer] (svc : Service) (store : CountingStore σ) (r : Running σ) {visits visits' : List Visit}
    (h : List.Forall₂ (Visit.Alike svc) visits visits')
    (helapsed : visits.map Visit.elapsed = visits'.map Visit.elapsed) :
    (svc.answers store r visits).map Prod.snd = (svc.answers store r visits').map Prod.snd
      ∧ svc.after store r visits = svc.after store r visits' := by
  -- Both runs go on from one state, as the pair before left only one.
  induction h generalizing r with
  | nil => exact ⟨rfl, rfl⟩
  | @cons v v' visits visits' hv _ ih =>
    obtain ⟨hone, hrest⟩ := List.cons.inj helapsed
    obtain ⟨hanswers, hafter⟩ := ih (svc.visit store r v').2 hrest
    rw [answers, answers, after, after, List.foldl_cons, List.foldl_cons, hv.visit_eq hone store r, List.map_cons,
      List.map_cons]
    exact ⟨congrArg _ hanswers, hafter⟩

/-- Whatever times are measured in the two runs, all answers agree but the reports of the
metrics. -/
theorem runs_agree [Timer] (svc : Service) (store : CountingStore σ) {r r' : Running σ} (hr : r.Agrees r')
    {visits visits' : List Visit} (h : List.Forall₂ (Visit.Alike svc) visits visits') :
    List.Forall₂ (fun x x' : Served => x.1.request.path ≠ "/metrics" → x.2 = x'.2)
        (svc.answers store r visits) (svc.answers store r' visits')
      ∧ (svc.after store r visits).Agrees (svc.after store r' visits') := by
  induction h generalizing r r' with
  | nil => exact ⟨.nil, hr⟩
  | @cons v v' visits visits' hv _ ih =>
    obtain ⟨hanswer, hr'⟩ := hv.visit_agrees store hr
    obtain ⟨hanswers, hafter⟩ := ih hr'
    exact ⟨.cons hanswer hanswers, hafter⟩

end Service

def Visit.withHeaders (v : Visit) (hs : Headers) : Visit :=
  { v with request := { v.request with headers := hs } }

theorem Visit.alike_withHeaders {svc : Service} (htrust : svc.trust = false) (hgateway : svc.gateway = none) (v : Visit)
    (hs : Headers) : v.Alike svc (v.withHeaders hs) where
  moment := rfl
  nonce := rfl
  method := rfl
  path := rfl
  peer := rfl
  user := rfl
  gateway _ _ name hname := by
    rw [hgateway] at hname
    cases hname
  forwarded _ _ ht := by
    rw [htrust] at ht
    cases ht

namespace Service

variable {σ : Type}

/-- **Headers reach the limiter through its channels alone.**  Requests that are alike are
enforced upon as one.  Two runs of requests that are alike, one by one, get the same
answers and leave the same windows and the same counters, over any store and from any
state; a report of the metrics also tells the times measured, and is the same if these
are.  Without a gateway's header and without trust no channel is left: whatever headers
the clients write, each request is charged to the same client, and the run is the same. -/
theorem headers_confined [Timer] (svc : Service) (store : CountingStore σ) (r : Running σ) :
    (∀ v v' : Visit, v.Alike svc v' → v.isPing → ∀ (s : σ) (now : Int),
        svc.policy.enforce store s (Attribution.client svc.gateway svc.trust v.request) now v.nonce
          = svc.policy.enforce store s (Attribution.client svc.gateway svc.trust v'.request) now v'.nonce)
      ∧ (∀ visits visits' : List Visit, List.Forall₂ (Visit.Alike svc) visits visits' →
        List.Forall₂ (fun x x' : Served => x.1.request.path ≠ "/metrics" → x.2 = x'.2)
            (svc.answers store r visits) (svc.answers store r visits')
          ∧ (svc.after store r visits).Agrees (svc.after store r visits'))
      ∧ (∀ visits visits' : List Visit, List.Forall₂ (Visit.Alike svc) visits visits' →
        visits.map Visit.elapsed = visits'.map Visit.elapsed →
        (svc.answers store r visits).map Prod.snd = (svc.answers store r visits').map Prod.snd
          ∧ svc.after store r visits = svc.after store r visits')
      ∧ (svc.trust = false → svc.gateway = none → ∀ write : Visit → Headers,
        (∀ v : Visit, Attribution.client svc.gateway svc.trust (v.withHeaders (write v)).request
            = Attribution.client svc.gateway svc.trust v.request)
          ∧ ∀ visits : List Visit,
            (svc.answers store r (visits.map fun v => v.withHeaders (write v))).map Prod.snd
                = (svc.answers store r visits).map Prod.snd
              ∧ svc.after store r (visits.map fun v => v.withHeaders (write v)) = svc.after store r visits) := by
  refine ⟨fun _ _ h hp s now => h.enforce_eq hp store s now, fun _ _ h => svc.runs_agree store (.refl r) h,
    fun _ _ h helapsed => svc.runs_eq store r h helapsed, fun htrust hgateway write => ⟨fun v => ?_, fun visits => ?_⟩⟩
  · rw [htrust, hgateway]
    rfl
  · have halike : List.Forall₂ (Visit.Alike svc) visits (visits.map fun v => v.withHeaders (write v)) :=
      List.forall₂_map_right_iff.2
        (List.forall₂_same.2 fun v _ => v.alike_withHeaders htrust hgateway (write v))
    have helapsed : visits.map Visit.elapsed = (visits.map fun v => v.withHeaders (write v)).map Visit.elapsed := by
      rw [List.map_map]
      rfl
    obtain ⟨hanswers, hafter⟩ := svc.runs_eq store r halike helapsed
    exact ⟨hanswers.symm, hafter.symm⟩

/-- A service behind a gateway and a proxy. -/
def gated : Service where
  policy :=
    { space := "g:", quota := 6, window := .ofSecs 45, patience := .ofMillis 250
      quota_pos := by decide, one_le_secs := by decide, window_le := by decide }
  trust := true
  gateway := some ⟨"x-user"⟩
  inProcess := true

/-- The same limits, with all channels closed. -/
def secluded : Service :=
  { gated with trust := false, gateway := none }

/-- A request at one and the same second. -/
def visitFrom (nonce target : String) (user : Option String) (headers : List (String × String)) : Visit where
  moment := ⟨1700000000, 0⟩
  nonce
  elapsed := .zero
  request :=
    { method := "GET", target, peer := none, user, headers := headers.map fun h => (⟨h.1⟩, .ofAscii h.2) }

def plainVisits : List Visit :=
  [visitFrom "a" "/api/ping" (some "7") [], visitFrom "b" "/api/ping" none [("x-user", " 7 ")],
    visitFrom "c" "/api/ping" none [("x-user", " "), ("x-forwarded-for", "198.51.100.1, 10.0.0.2")],
    visitFrom "d" "/health" none []]

/-- The same requests with headers that their clients might have added. -/
def forgedVisits : List Visit :=
  [visitFrom "a" "/api/ping" (some "7") [("x-user", "8"), ("x-forwarded-for", "192.0.2.1")],
    visitFrom "b" "/api/ping" none [("x-user", " 7 "), ("x-user", "8"), ("x-real-ip", "192.0.2.1")],
    visitFrom "c" "/api/ping" none
      [("x-forwarded-for", "198.51.100.1, 10.0.0.2"), ("x-user", " "), ("x-forwarded-for", "192.0.2.1")],
    visitFrom "d" "/health" none [("x-user", "8")]]

theorem forgedVisits_confined :
    List.Forall₂ (Visit.Alike gated) plainVisits forgedVisits
      ∧ (let w := (gated.after Windows.store ⟨.empty, .fresh⟩ forgedVisits).store
        w.count "g:user:7" 1700000000 = 2 ∧ w.count "g:ip:198.51.100.1" 1700000000 = 1 ∧ w.size = 2)
      ∧ secluded.trust = false ∧ secluded.gateway = none
      ∧ Attribution.client secluded.gateway secluded.trust ((visitFrom "a" "/api/ping" none []).withHeaders
        [(Attribution.forwardedFor, .ofAscii "192.0.2.1")]).request = .address "unknown" := by
  have halike : List.Forall₂ (Visit.Alike gated) plainVisits forgedVisits := by
    refine .cons ?_ (.cons ?_ (.cons ?_ (.cons ?_ .nil)))
    · exact ⟨rfl, rfl, rfl, rfl, rfl, rfl, (fun _ hu => nomatch hu), by decide⟩
    · refine ⟨rfl, rfl, rfl, rfl, rfl, rfl, fun _ _ name hname => ?_, by decide⟩
      cases hname
      decide
    · refine ⟨rfl, rfl, rfl, rfl, rfl, rfl, fun _ _ name hname => ?_, by decide⟩
      cases hname
      decide
    · exact ⟨rfl, rfl, rfl, rfl, rfl, rfl, fun hp => absurd hp (by decide), by decide⟩
  obtain ⟨-, -, hruns, -⟩ := gated.headers_confined Windows.store ⟨.empty, .fresh⟩
  obtain ⟨-, hafter⟩ := hruns _ _ halike rfl
  refine ⟨halike, ?_, rfl, rfl, ?_⟩
  · rw [← hafter]
    decide
  · obtain ⟨-, -, -, hclosed⟩ := secluded.headers_confined Windows.store ⟨.empty, .fresh⟩
    obtain ⟨hclient, -⟩ := hclosed rfl rfl fun _ => [(Attribution.forwardedFor, .ofAscii "192.0.2.1")]
    exact (hclient _).trans (by decide)

end Service

end QuotaGate
