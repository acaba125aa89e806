/-
How long a service waits for its store.

It waits in two places: at an enforcement, for as long as the policy allows, and at a health
check, for a second.  Both are inquiries of one kind.  A call is made, and noted by the store;
it is waited for until it is answered, by a value or an error, or until the bound runs out.
Then, and only then, the store is told, and the inquiry comes to what it comes to without a
store (`Inquiry.unheard`).  A bound lasts as long as a timer that is set to it.

* `Inquiry.make` — one inquiry, with its time, its finding and the calls on the record;
* `Episode.Disciplined`, `disciplined_make` — what goes for every inquiry;
* `Service.waits_disciplined` — the same for a run of inquiries, and for the endpoint that
  reports on the store's health.

Design notes: timers count to a second, and so a health check waits for just that.  How
long an enforcement waits is told by the timer, and is the patience of the policy where
timers count to it.
-/
import QuotaGate.Proofs.Service.Conservation

namespace QuotaGate

variable {σ : Type}

namespace Service

/-- The answer about the store's health tells it by its status and in its body. -/
theorem complete_healthReport (method : String) (alive : Bool) :
    (complete method (healthReport alive)).status = (if alive then 200 else 503)
      ∧ (complete method (healthReport alive)).body = if method = "HEAD" then ""
        else if alive then "\x7b\"status\":\"healthy\",\"store\":true\x7d"
        else "\x7b\"status\":\"unhealthy\",\"store\":false\x7d" := by
  cases alive <;> exact ⟨rfl, rfl⟩

end Service

section

variable [Timer]

/-! ### Inquiries -/

/-- What a service waits for its store for: an enforcement, or a health check. -/
inductive Inquiry
  | enforce (a : Arrival)
  | health
  deriving DecidableEq, Repr

/-- What an inquiry comes to: a decision, or whether the store is healthy. -/
inductive Finding
  | decided (outcome : Except Clock.Overflow Decision)
  | healthy (alive : Bool)
  deriving DecidableEq

/-- An inquiry that was made, with the states of the store before and after it. -/
structure Episode (σ : Type) where
  inquiry : Inquiry
  before : Audited σ
  /-- Time spent waiting for the store. -/
  time : Duration
  finding : Finding
  after : Audited σ

namespace Inquiry

variable (p : Policy) (store : CountingStore σ)

/-- What the timer is set to that ends the wait for the store. -/
def bound : Inquiry → Duration
  | .enforce _ => p.patience
  | .health => Service.healthPatience

/-- The call that is made. -/
def contact : Inquiry → Contact
  | .enforce a => .hit (a.hit p)
  | .health => .ping

/-- The delay of the store's answer, if one ever comes. -/
def delay? (s : σ) : Inquiry → Option Duration
  | .enforce a => (store.hit s (a.hit p)).delay?
  | .health => (store.ping s).delay?

/-- What an inquiry comes to if nothing is heard in time. -/
def unheard : Inquiry → Finding
  | .enforce _ => .decided (.ok .failOpen)
  | .health => .healthy false

/-- Makes an inquiry. -/
def make (s : Audited σ) : Inquiry → Episode σ
  | .enforce a =>
    let e := p.enforce store.audited s a.client a.now a.nonce
    { inquiry := .enforce a, before := s, time := e.time, finding := .decided e.outcome, after := e.state }
  | .health =>
    let check := Service.healthy store.audited s
    { inquiry := .health
      before := s
      time := (store.audited.pingWithin Service.healthPatience s).time
      finding := .healthy check.1
      after := check.2 }

end Inquiry

namespace Episode

variable (p : Policy) (store : CountingStore σ)

/-- The bound ran out on the store's answer. -/
def InVain (ep : Episode σ) : Prop :=
  RunsOut (ep.inquiry.bound p) (ep.inquiry.delay? p store ep.before.inner)

instance (ep : Episode σ) : Decidable (ep.InVain p store) :=
  inferInstanceAs (Decidable (RunsOut _ _))

/-- The calls of an inquiry: its own, and the word that time ran out, if it did. -/
def contacts (ep : Episode σ) : List Contact :=
  if ep.InVain p store then [ep.inquiry.contact p, .timeout] else [ep.inquiry.contact p]

/-- An inquiry was made with patience and discipline. -/
structure Disciplined (ep : Episode σ) : Prop where
  time : ep.time = waitFor (Timer.runs (ep.inquiry.bound p)) (ep.inquiry.delay? p store ep.before.inner)
  record : ep.after.record = ep.before.record ++ ep.contacts p store
  inVain : ep.InVain p store → ep.finding = ep.inquiry.unheard
  decided : ∀ a answer, ep.inquiry = .enforce a → (store.hit ep.before.inner (a.hit p)).answer = some answer →
    InTime p.patience answer.delay → ep.finding = .decided (p.judge a.now (some answer.result))
  healthy : ep.inquiry = .health → ∃ alive, ep.finding = .healthy alive ∧ (alive ↔ (store.ping ep.before.inner).Alive)

end Episode

theorem Service.healthy_iff {store : CountingStore σ} {s : σ} :
    (healthy store s).1 ↔ (store.pingWithin healthPatience s).result = some (.ok ()) := by
  simp only [healthy]
  rcases (store.pingWithin healthPatience s).result with _ | (_ | _) <;> simp

theorem Inquiry.disciplined_make (p : Policy) (store : CountingStore σ) (s : Audited σ) (i : Inquiry) :
    (i.make p store s).Disciplined p store := by
  cases i with
  | enforce a =>
    obtain ⟨houtcome, htime, hstate⟩ := p.enforce_eq_judge store.audited s a.client a.now a.nonce
    obtain ⟨hwait, hrecord, hnone, hsome⟩ :=
      store.audited_settle_spec s (.hit (a.hit p)) p.patience (store.hit s.inner (a.hit p))
    refine ⟨htime.trans hwait, (congrArg Audited.record hstate).trans hrecord, fun hvain => ?_, ?_, nofun⟩
    · exact congrArg Finding.decided (houtcome.trans (congrArg (p.judge a.now) (hnone hvain)))
    · intro b answer hb hanswer ht
      obtain rfl := Inquiry.enforce.inj hb
      have hresult := (hsome answer.result).2 ⟨answer, hanswer, ht, rfl⟩
      exact congrArg Finding.decided (houtcome.trans (congrArg (p.judge a.now) hresult))
  | health =>
    obtain ⟨hwait, hrecord, hnone, hsome⟩ :=
      store.audited_settle_spec s .ping Service.healthPatience (store.ping s.inner)
    have halive : (Service.healthy store.audited s).1 ↔ (store.ping s.inner).Alive :=
      Service.healthy_iff.trans ((hsome (.ok ())).trans (Call.within_eq_some.symm.trans Call.alive_iff.symm))
    refine ⟨hwait, hrecord, fun hvain => ?_, nofun, fun _ => ⟨_, rfl, halive⟩⟩
    have hfalse : ¬(Service.healthy store.audited s).1 := by
      rw [Service.healthy_iff]
      intro h
      exact absurd ((hnone hvain).symm.trans h) nofun
    exact congrArg Finding.healthy (Bool.eq_false_iff.2 hfalse)

/-! ### Runs of inquiries -/

namespace Service

/-- The inquiries of a run, one after the other. -/
def episodes (p : Policy) (store : CountingStore σ) (s : Audited σ) : List Inquiry → List (Episode σ)
  | [] => []
  | i :: rest => i.make p store s :: episodes p store (i.make p store s).after rest

/-- The state that inquiries leave. -/
def afterInquiries (p : Policy) (store : CountingStore σ) (s : Audited σ) (inquiries : List Inquiry) : Audited σ :=
  inquiries.foldl (fun s i => (i.make p store s).after) s

theorem disciplined_episodes (p : Policy) (store : CountingStore σ) (s : Audited σ) (inquiries : List Inquiry) :
    (∀ ep ∈ episodes p store s inquiries, ep.Disciplined p store)
      ∧ (afterInquiries p store s inquiries).record
        = s.record ++ (episodes p store s inquiries).flatMap (Episode.contacts p store) := by
  induction inquiries generalizing s with
  | nil => exact ⟨nofun, (List.append_nil _).symm⟩
  | cons i rest ih =>
    have hi := i.disciplined_make p store s
    obtain ⟨hrest, hrecord⟩ := ih (i.make p store s).after
    refine ⟨List.forall_mem_cons.2 ⟨hi, hrest⟩, ?_⟩
    rw [afterInquiries, List.foldl_cons, ← afterInquiries, hrecord, hi.record, episodes, List.flatMap_cons,
      List.append_assoc]
    cases i <;> rfl

/-- A request for the store's health is a health check, and nothing else. -/
theorem visit_health (svc : Service) (store : CountingStore σ) (r : Running σ) {v : Visit}
    (hpath : v.request.path = "/health") (hmethod : v.request.method = "GET" ∨ v.request.method = "HEAD") :
    svc.visit store r v
      = (.ok (complete v.request.method (healthReport (healthy store r.store).1)),
          { r with store := (healthy store r.store).2 }) := by
  have hhealth : Endpoint.ofPath? v.request.path = some .health := by rw [hpath]; rfl
  have hhandled : handles v.request.method = true := by simpa [handles] using hmethod
  rw [visit, respond, hhealth]
  dsimp only
  rw [if_pos hhandled]

/-- **Waits are bounded, and given up once.**  Each of a run of enforcements and health checks
makes one call and waits for its answer for as long as that takes, but no longer than the
timer runs that is set to its bound.  Just if the bound runs out, on what comes after the
timer has ended or never comes, the store is told so, once; the request is then let through,
or the store not healthy.  No bound is too short for what is there at once.  The timer runs
for no less than the bound if that is within its reach, and for the bound itself if timers
count to it, as they do for that of a health check.  A request for the store's health is told
whether a sign of life came within a second; it makes no hit, and changes no counter. -/
theorem waits_disciplined (svc : Service) (store : CountingStore σ) (s : Audited σ) (inquiries : List Inquiry) :
    let eps := episodes svc.policy store s inquiries
    (∀ ep ∈ eps, ep.Disciplined svc.policy store)
      ∧ (afterInquiries svc.policy store s inquiries).record
        = s.record ++ eps.flatMap (Episode.contacts svc.policy store)
      ∧ (∀ bound, RunsOut bound none ∧ ¬RunsOut bound (some .zero)
        ∧ (∀ delay, RunsOut bound (some delay) ↔ Timer.runs bound < delay)
        ∧ (bound ≤ Timer.reach → bound ≤ Timer.runs bound) ∧ (Timer.Counts bound → Timer.runs bound = bound)
        ∧ (Timer.reach ≤ bound → Timer.runs bound = Timer.reach))
      ∧ Timer.runs healthPatience = healthPatience
      ∧ ∀ (r : Running (Audited σ)) (v : Visit), v.request.path = "/health" →
        v.request.method = "GET" ∨ v.request.method = "HEAD" →
          let out := svc.visit store.audited r v
          out.2 = { r with store := (Inquiry.health.make svc.policy store r.store).after }
            ∧ out.2.metrics = r.metrics ∧ out.2.store.hits = r.store.hits
            ∧ ∃ res, out.1 = .ok res
              ∧ ((store.ping r.store.inner).Alive → res.status = 200
                ∧ res.body = if v.request.method = "HEAD" then "" else "\x7b\"status\":\"healthy\",\"store\":true\x7d")
              ∧ (¬(store.ping r.store.inner).Alive → res.status = 503
                ∧ res.body = if v.request.method = "HEAD" then "" else "\x7b\"status\":\"unhealthy\",\"store\":false\x7d") := by
  intro eps
  obtain ⟨hdisciplined, hrecord⟩ := disciplined_episodes svc.policy store s inquiries
  refine ⟨hdisciplined, hrecord, fun bound => ?_, runs_healthPatience, fun r v hpath hmethod => ?_⟩
  · exact ⟨runsOut_none bound, fun h => runsOut_some.1 h (inTime_zero bound), fun _ => runsOut_some_iff,
      Timer.le_runs, Timer.runs_of_counts, Timer.runs_of_reach⟩
  · obtain ⟨alive, hfinding, halive⟩ := (Inquiry.health.disciplined_make svc.policy store r.store).healthy rfl
    obtain rfl : (healthy store.audited r.store).1 = alive := Finding.healthy.inj hfinding
    have hkeep := (CountingStore.pingsKeep_unit store).audited.pingWithin healthPatience r.store
    obtain ⟨hstatus, hbody⟩ := complete_healthReport v.request.method (healthy store.audited r.store).1
    rw [svc.visit_health store.audited r hpath hmethod]
    refine ⟨rfl, rfl, congrArg Prod.fst hkeep, _, rfl, fun h => ?_, fun h => ?_⟩
    · rw [hstatus, hbody, halive.2 h]
      exact ⟨rfl, rfl⟩
    · rw [hstatus, hbody, Bool.eq_false_iff.2 (mt halive.1 h)]
      exact ⟨rfl, rfl⟩

end Service

end

/-! ### A run with every outcome -/

namespace Service

/-- Enforcements and health checks in turn, by a limiter that waits for a quarter of a second. -/
def mixedInquiries : List Inquiry :=
  [.enforce ⟨.user "42", 100, "a"⟩, .enforce ⟨.user "42", 100, "b"⟩, .health, .health, .enforce ⟨.user "42", 101, "a"⟩,
    .health]

/-- Two answers at the very end of the bound, two just after it, an error at once, and
silence. -/
def dilatory : Script :=
  [.count 1 (.ofMillis 250), .error "down" (.ofMillis 251), .count 0 (.ofSecs 1), .silence, .error "down" .zero,
    .count 0 (.ofMillis 1001)]

theorem mixedInquiries_disciplined :
    let svc := fivePerHour (.ofMillis 250)
    let hit (now : Int) (nonce : String) : Contact := .hit (svc.policy.hitFor (.user "42") now nonce)
    (afterInquiries svc.policy Script.store ⟨[], dilatory⟩ mixedInquiries).record
        = [hit 100 "a", hit 100 "b", .timeout, .ping, .ping, .timeout, hit 101 "a", .ping, .timeout]
      ∧ (episodes svc.policy Script.store ⟨[], dilatory⟩ mixedInquiries).map Episode.time
        = [.ofMillis 250, .ofMillis 250, .ofSecs 1, .ofSecs 1, .zero, .ofSecs 1]
      ∧ (visitOf "GET" "/health").request.path = "/health"
      ∧ ∃ res, (svc.visit Script.store.audited ⟨⟨[], [.count 0 (.ofMillis 1001)]⟩, .fresh⟩ (visitOf "GET" "/health")).1
          = .ok res ∧ res.status = 503 := by
  intro svc hit
  obtain ⟨-, hrecord, -, -, hhealth⟩ := svc.waits_disciplined Script.store ⟨[], dilatory⟩ mixedInquiries
  have hpath : (visitOf "GET" "/health").request.path = "/health" := by decide
  obtain ⟨-, -, -, res, hres, -, hdead⟩ :=
    hhealth ⟨⟨[], [.count 0 (.ofMillis 1001)]⟩, .fresh⟩ (visitOf "GET" "/health") hpath (.inl rfl)
  refine ⟨hrecord.trans (by decide), by decide, hpath, res, hres, (hdead ?_).1⟩
  rintro ⟨a, ha, hdelay, -⟩
  obtain rfl := Option.some.inj ha
  exact absurd hdelay (by decide)

end Service

end QuotaGate
