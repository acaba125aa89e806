/-
What the counters of a service stand for, over any run of requests.

A request to the limited endpoint is one hit, one observation and one decision, whatever
its method and whatever the store makes of it; the answer shows which decision it was.
Any other request leaves the counters alone.  So four tallies that are kept apart agree:
the counters, the observations, the hits on the store, and the answers that clients get.

* `Verdict.Shown` — the answers that a counter stands for;
* `Service.Tallied` — the tallies agree with the requests and the answers so far;
* `Service.tallied_after` — they do after every run;
* `Service.tallies_agree` — the same tally by tally, with what a report then tells.

Design notes: the store may answer, fail, be late or say nothing, as long as it faults on
the clock only where a window leaves the clock's range, which no window at a moment that
can be told does.  It is audited, so that its hits can be counted.
-/
import QuotaGate.Proofs.Service.Ping
import QuotaGate.Proofs.Service.Report
import QuotaGate.Proofs.Service.Run
import QuotaGate.Proofs.Store.Conduct

namespace QuotaGate

namespace Response

/-- A response with all the fields of advice. -/
def Advised (res : Response) : Prop :=
  ∀ n ∈ Advice.names, res.headers.all n ≠ []

instance (res : Response) : Decidable res.Advised :=
  List.decidableBAll _ Advice.names

/-- A response with none of the fields of advice. -/
def Silent (res : Response) : Prop :=
  ∀ n ∈ Advice.names, res.headers.all n = []

instance (res : Response) : Decidable res.Silent :=
  List.decidableBAll _ Advice.names

theorem Silent.not_advised {res : Response} (h : res.Silent) : ¬res.Advised := fun ha =>
  ha Advice.limitName (by decide) (h Advice.limitName (by decide))

/-- A response that has nothing to do with quotas. -/
structure Quiet (res : Response) : Prop where
  status : res.status ≠ 429
  silent : res.Silent

end Response

namespace Metrics

/-- The counter of a verdict. -/
def count (m : Metrics) : Verdict → Nat
  | .allowed => m.allowed
  | .rejected => m.rejected
  | .failOpen => m.failOpen

@[simp] theorem count_record (m : Metrics) (v w : Verdict) (seconds : Float) :
    (m.record v seconds).count w = m.count w + if w = v then 1 else 0 := by
  cases v <;> cases w <;> rfl

/-- The number of decisions counted. -/
def total (m : Metrics) : Nat :=
  m.allowed + m.rejected + m.failOpen

@[simp] theorem total_record (m : Metrics) (v : Verdict) (seconds : Float) : (m.record v seconds).total = m.total + 1 := by
  cases v <;> simp only [total, record] <;> omega

@[simp] theorem times_record (m : Metrics) (v : Verdict) (seconds : Float) :
    (m.record v seconds).times = m.times.observe seconds := by
  cases v <;> rfl

end Metrics

namespace Served

/-- Whether the request was answered, and with a response of the kind `p`. -/
def gets (x : Served) (p : Response → Bool) : Bool :=
  x.2.toOption.any p

/-- How many of the requests were to the limited endpoint. -/
def pings (xs : List Served) : Nat :=
  xs.countP fun x => x.1.isPing

@[simp] theorem pings_concat (xs : List Served) (v : Visit) (answer : Except Clock.Failure Response) :
    pings (xs ++ [(v, answer)]) = pings xs + if v.isPing then 1 else 0 := by
  rw [pings, List.countP_append, List.countP_singleton, pings]

end Served

/-- Whether an answer is one of those that the counter of a verdict stands for. -/
def Verdict.Shown : Verdict → Served → Bool
  | .allowed, x => x.gets fun res => res.status ≠ 429 ∧ res.Advised
  | .rejected, x => x.gets fun res => res.status = 429
  | .failOpen, x => x.1.isPing && x.gets fun res => res.Silent

namespace Service

variable {σ : Type}

/-! ### Quiet answers -/

theorem quiet_complete {res : Response} (h : res.Quiet) (method : String) : (complete method res).Quiet where
  status := h.status
  silent n hn := by rw [all_complete_of_mem_names hn, h.silent n hn]

theorem quiet_wrongMethod : Response.wrongMethod.Quiet :=
  ⟨by decide, by decide⟩

theorem quiet_routed {res : Response} (h : res.Quiet) (method : String) : (routed method res).Quiet := by
  rw [routed]
  split
  · exact h
  · exact quiet_wrongMethod

theorem quiet_pong : pong.Quiet :=
  ⟨by decide, by decide⟩

theorem quiet_healthReport (alive : Bool) : (healthReport alive).Quiet := by
  cases alive <;> exact ⟨by decide, by decide⟩

theorem quiet_metricsReport (m : Metrics) : (metricsReport m).Quiet where
  status := show (200 : Nat) ≠ 429 by decide
  silent := show ∀ n ∈ Advice.names, (metricsReport .fresh).headers.all n = [] by decide

theorem quiet_notFound (path : String) : (Response.notFound path).Quiet where
  status := show (404 : Nat) ≠ 429 by decide
  silent := by
    simp only [Response.Silent, Response.notFound]
    split <;> decide

/-! ### One request -/

/-- The answer of the limited endpoint after a decision. -/
def answerAfter (method : String) (d : Decision) : Response :=
  complete method (afterDecision d (routed method pong))

theorem quiet_answerAfter_failOpen (method : String) : (answerAfter method .failOpen).Quiet :=
  quiet_complete (quiet_routed quiet_pong method) method

theorem advised_answerAfter (method : String) (s : Status) :
    (answerAfter method (.allowed s)).Advised ∧ (answerAfter method (.rejected s)).Advised := by
  have h : ∀ res hs, res.headers = Advice.advise hs s → (complete method res).Advised := by
    intro res hs he n hn
    rw [all_complete_of_mem_names hn, he]
    exact Advice.all_advise_ne_nil hs s hn
  exact ⟨h _ _ rfl, h _ _ rfl⟩

theorem shown_answerAfter {x : Visit} (hx : x.isPing) (method : String) (d : Decision) (v : Verdict) :
    v.Shown (x, .ok (answerAfter method d)) ↔ v = d.verdict := by
  have hshown : v.Shown (x, .ok (answerAfter method d)) ↔ match v with
      | .allowed => (answerAfter method d).status ≠ 429 ∧ (answerAfter method d).Advised
      | .rejected => (answerAfter method d).status = 429
      | .failOpen => (answerAfter method d).Silent := by
    cases v <;> simp [Verdict.Shown, Served.gets, Except.toOption, hx]
  rw [hshown]
  -- Each decision against each verdict; status and advice tell the decisions apart.
  cases d with
  | allowed s =>
    have hstatus : (answerAfter method (.allowed s)).status ≠ 429 := (quiet_routed quiet_pong method).status
    have hadvised := (advised_answerAfter method s).1
    cases v with
    | allowed => exact iff_of_true ⟨hstatus, hadvised⟩ rfl
    | rejected => exact iff_of_false hstatus nofun
    | failOpen => exact iff_of_false (fun hs => hs.not_advised hadvised) nofun
  | rejected s =>
    have hadvised := (advised_answerAfter method s).2
    cases v with
    | allowed => exact iff_of_false (fun h => h.1 rfl) nofun
    | rejected => exact iff_of_true rfl rfl
    | failOpen => exact iff_of_false (fun hs => hs.not_advised hadvised) nofun
  | failOpen =>
    obtain ⟨hstatus, hsilent⟩ := quiet_answerAfter_failOpen method
    cases v with
    | allowed => exact iff_of_false (fun h => hsilent.not_advised h.2) nofun
    | rejected => exact iff_of_false hstatus nofun
    | failOpen => exact iff_of_true hsilent rfl

/-- A quiet answer to a request elsewhere shows no verdict. -/
theorem not_shown_of_quiet {x : Visit} (hx : ¬x.isPing) {res : Response} (h : res.Quiet) (v : Verdict) :
    ¬v.Shown (x, .ok res) := by
  cases v with
  | allowed => simp [Verdict.Shown, Served.gets, Except.toOption, h.silent.not_advised]
  | rejected => simp [Verdict.Shown, Served.gets, Except.toOption, h.status]
  | failOpen => simp [Verdict.Shown, hx]

/-- A request to any other path leaves the metrics alone, and of the store what signs of
life keep; its answer has nothing to do with quotas. -/
theorem visit_other [Timer] (svc : Service) (store : CountingStore σ) (r : Running σ) {x : Visit} (hx : ¬x.isPing) :
    let out := svc.visit store r x
    out.2.metrics = r.metrics ∧ (x.request.path ≠ "/health" → out.2 = r)
      ∧ (∀ {τ : Type} (view : σ → τ), store.PingsKeep view → view out.2.store = view r.store)
      ∧ ∃ res, out.1 = .ok res ∧ res.Quiet := by
  have hpath : x.request.path ≠ "/api/ping" := mt Visit.isPing_iff.2 hx
  rw [visit, respond, Endpoint.ofPath?, if_neg hpath]
  by_cases hhealth : x.request.path = "/health"
  · rw [if_pos hhealth]
    dsimp only
    split
    · -- The one case in which the store is asked for something.
      refine ⟨rfl, fun h => absurd hhealth h, fun view hk => hk.pingWithin _ _, _, rfl, ?_⟩
      exact quiet_complete (quiet_healthReport _) _
    · exact ⟨rfl, fun _ => rfl, fun _ _ => rfl, _, rfl, quiet_complete quiet_wrongMethod _⟩
  · rw [if_neg hhealth]
    by_cases hmetrics : x.request.path = "/metrics"
    · rw [if_pos hmetrics]
      exact ⟨rfl, fun _ => rfl, fun _ _ => rfl, _, rfl, quiet_complete (quiet_routed (quiet_metricsReport _) _) _⟩
    · rw [if_neg hmetrics]
      exact ⟨rfl, fun _ => rfl, fun _ _ => rfl, _, rfl, quiet_notFound _⟩

/-! ### Runs keep the tallies -/

/-- The tallies of a service agree with the requests so far and their answers. -/
structure Tallied (xs : List Served) (r : Running (Audited σ)) : Prop where
  answered : ∀ x ∈ xs, ∃ res, x.2 = .ok res
  shown : ∀ v, r.metrics.count v = xs.countP v.Shown
  total : r.metrics.total = Served.pings xs
  hits : r.store.hits = Served.pings xs
  observations : r.metrics.times.observations = Served.pings xs
  bounds : r.metrics.times.buckets.map Prod.fst = Metrics.bounds
  counted : Histogram.counted r.metrics.times.buckets ≤ r.metrics.times.observations
  covered : (∀ x ∈ xs, x.1.isPing → x.1.elapsed.toSeconds ≤ Metrics.greatest) →
    Histogram.counted r.metrics.times.buckets = r.metrics.times.observations

namespace Tallied

variable {svc : Service} {store : CountingStore σ} {xs : List Served} {r : Running (Audited σ)} {x : Visit}

/-- Before the first request nothing is counted. -/
theorem fresh (s : σ) : Tallied [] ⟨⟨[], s⟩, .fresh⟩ where
  answered := nofun
  shown v := by cases v <;> rfl
  total := rfl
  hits := rfl
  observations := rfl
  bounds := by simp [Metrics.fresh, Histogram.ofBounds, Function.comp_def]
  counted := (Histogram.counted_ofBounds _).le
  covered _ := Histogram.counted_ofBounds _

/-- A request to the limited endpoint adds one to each tally, and to the counter that its
answer shows. -/
theorem ping [Timer] (h : Tallied xs r) (hs : store.HeedsClock) {now : Int} (hm : x.moment.read = .ok now)
    (hx : x.isPing) :
    let out := svc.visit store.audited r x
    Tallied (xs ++ [(x, out.1)]) out.2 := by
  have hpath := Visit.isPing_iff.1 hx
  let client := Attribution.client svc.gateway svc.trust x.request
  let e := svc.policy.enforce store.audited r.store client now x.nonce
  obtain ⟨d, hd⟩ : ∃ d, e.outcome = .ok d :=
    svc.policy.exists_decision hs.audited r.store (svc.policy.hitFor_fits (Clock.Moment.roomy hm) client x.nonce)
  have hout : svc.visit store.audited r x = (.ok (answerAfter x.request.method d),
      { store := e.state, metrics := r.metrics.record d.verdict x.elapsed.toSeconds }) := by
    rw [visit, svc.respond_ping_cases store.audited r x.nonce x.elapsed hm hpath, hd]
    rfl
  -- The hit is on the record whether or not its answer came in time.
  have hhits : e.state.hits = r.store.hits + 1 := by
    rw [(svc.policy.enforce_eq_judge store.audited r.store client now x.nonce).2.2]
    exact store.hits_hitWithin _ _ _
  rw [hout]
  refine ⟨?_, fun v => ?_, ?_, ?_, ?_, ?_, ?_, fun hcovered => ?_⟩
  · exact List.forall_mem_append.2 ⟨h.answered, List.forall_mem_singleton.2 ⟨_, rfl⟩⟩
  · rw [Metrics.count_record, h.shown, List.countP_append, List.countP_singleton]
    simp only [shown_answerAfter hx]
  · rw [Metrics.total_record, h.total, Served.pings_concat, if_pos hx]
  · rw [hhits, h.hits, Served.pings_concat, if_pos hx]
  · rw [Metrics.times_record, Histogram.observe, h.observations, Served.pings_concat, if_pos hx]
  · rw [Metrics.times_record, Histogram.observe, Histogram.map_fst_tally, h.bounds]
  · rw [Metrics.times_record, Histogram.observe]
    exact (Histogram.counted_tally_le _ _).trans (Nat.succ_le_succ h.counted)
  · obtain ⟨hbefore, hlast⟩ := List.forall_mem_append.1 hcovered
    have hgreatest : Metrics.greatest ∈ r.metrics.times.buckets.map Prod.fst := by
      rw [h.bounds]
      exact List.mem_of_getLast? Metrics.getLast?_bounds
    obtain ⟨b, hb, hbound⟩ := List.mem_map.1 hgreatest
    have hbucket : ∃ b ∈ r.metrics.times.buckets, x.elapsed.toSeconds ≤ b.1 :=
      ⟨b, hb, hbound ▸ List.forall_mem_singleton.1 hlast hx⟩
    rw [Metrics.times_record, Histogram.observe, ← h.covered hbefore]
    exact Histogram.counted_tally_of_le hbucket

/-- Any other request leaves all tallies as they are. -/
theorem other [Timer] (h : Tallied xs r) (hx : ¬x.isPing) :
    let out := svc.visit store.audited r x
    Tallied (xs ++ [(x, out.1)]) out.2 := by
  obtain ⟨hmetrics, -, hkeep, res, hres, hquiet⟩ := svc.visit_other store.audited r hx
  -- The only contact that may be made here is a sign of life.
  have hhits : (svc.visit store.audited r x).2.store.hits = r.store.hits :=
    congrArg Prod.fst (hkeep _ (CountingStore.pingsKeep_unit store).audited)
  intro out
  rw [hres]
  refine ⟨?_, fun v => ?_, ?_, ?_, ?_, ?_, ?_, fun hcovered => ?_⟩
  · exact List.forall_mem_append.2 ⟨h.answered, List.forall_mem_singleton.2 ⟨_, rfl⟩⟩
  · rw [hmetrics, h.shown, List.countP_append, List.countP_singleton, if_neg (not_shown_of_quiet hx hquiet v), Nat.add_zero]
  · rw [hmetrics, h.total, Served.pings_concat, if_neg hx, Nat.add_zero]
  · rw [hhits, h.hits, Served.pings_concat, if_neg hx, Nat.add_zero]
  · rw [hmetrics, h.observations, Served.pings_concat, if_neg hx, Nat.add_zero]
  · rw [hmetrics, h.bounds]
  · rw [hmetrics]
    exact h.counted
  · rw [hmetrics]
    exact h.covered fun y hy => hcovered y (List.mem_append_left _ hy)

end Tallied

variable {store : CountingStore σ} {visits : List Visit}

theorem tallied_after [Timer] (svc : Service) (hs : store.HeedsClock) (s : σ)
    (hread : ∀ v ∈ visits, ∃ now, v.moment.read = .ok now) :
    Tallied (svc.answers store.audited ⟨⟨[], s⟩, .fresh⟩ visits) (svc.after store.audited ⟨⟨[], s⟩, .fresh⟩ visits) := by
  induction visits using List.reverseRecOn with
  | nil => exact .fresh s
  | append_singleton visits v ih =>
    have hbefore := ih fun w hw => hread w (List.mem_append_left _ hw)
    obtain ⟨now, hm⟩ := hread v (List.mem_append_right _ List.mem_cons_self)
    rw [answers_concat, after_concat]
    by_cases hv : v.isPing
    · exact hbefore.ping hs hm hv
    · exact hbefore.other hv

/-- A report that is asked for tells the metrics as they are then. -/
theorem visit_metrics [Timer] (svc : Service) (store : CountingStore σ) (r : Running σ) {v : Visit}
    (hpath : v.request.path = "/metrics") (hget : v.request.method = "GET") :
    ∃ res, (svc.visit store r v).1 = .ok res ∧ res.body = r.metrics.text := by
  have hmetrics : Endpoint.ofPath? v.request.path = some .metrics := by rw [hpath]; rfl
  have hhandled : handles v.request.method = true := by rw [hget]; rfl
  have hnoHead : v.request.method ≠ "HEAD" := by rw [hget]; decide
  refine ⟨complete v.request.method (metricsReport r.metrics), ?_, ?_⟩
  · rw [visit, respond, hmetrics]
    dsimp only
    rw [routed, if_pos hhandled]
  · simp only [complete, if_neg hnoHead, metricsReport]

/-- **What is counted is what happened.**  After any run of requests the counters add up
to the requests that were made to the limited endpoint, of which each was one hit and one
observation; each counter is the number of the answers that show its verdict.  Requests
elsewhere change nothing of this, and the report tells it.  The last bucket, which has no
bound but the greatest number there is, has all the observations that do not exceed it. -/
theorem tallies_agree [Timer] (svc : Service) (hs : store.HeedsClock) (s : σ)
    (hread : ∀ v ∈ visits, ∃ now, v.moment.read = .ok now) :
    let r := svc.after store.audited ⟨⟨[], s⟩, .fresh⟩ visits
    let xs := svc.answers store.audited ⟨⟨[], s⟩, .fresh⟩ visits
    let pings := visits.countP Visit.isPing
    let ms := r.metrics
    (ms.allowed + ms.rejected + ms.failOpen = pings ∧ r.store.hits = pings ∧ ms.times.observations = pings)
      ∧ (xs.map Prod.fst = visits ∧ ∀ x ∈ xs, ∃ res, x.2 = .ok res)
      ∧ (ms.rejected = xs.countP (fun x => x.gets fun res => res.status = 429)
        ∧ ms.allowed = xs.countP (fun x => x.gets fun res => res.status ≠ 429 ∧ res.Advised)
        ∧ ms.failOpen = xs.countP (fun x => x.1.isPing && x.gets fun res => res.Silent))
      ∧ (∀ v, v.request.path ≠ "/api/ping" →
        let out := svc.visit store.audited r v
        out.2.metrics = ms ∧ out.2.store.hits = r.store.hits ∧ (v.request.path ≠ "/health" → out.2 = r)
          ∧ ∀ {τ : Type} (view : σ → τ), store.PingsKeep view → view out.2.store.inner = view r.store.inner)
      ∧ (∀ v, v.request.path = "/metrics" → v.request.method = "GET" →
        ∃ res, (svc.visit store.audited r v).1 = .ok res
          ∧ Report.samples res.body
            = [("rate_limit_allowed_total", Numeral.ofNat ms.allowed),
                ("rate_limit_rejections_total", Numeral.ofNat ms.rejected),
                ("rate_limit_fail_open_total", Numeral.ofNat ms.failOpen),
                ("rate_limit_store_duration_seconds_sum", Metrics.layout.float ms.times.sum),
                ("rate_limit_store_duration_seconds_count", Numeral.ofNat ms.times.observations)]
              ++ ms.times.cumulative.map fun b =>
                (Report.bucketName "rate_limit_store_duration_seconds" b.1, Numeral.ofNat b.2))
      ∧ ms.times.cumulative.map Prod.fst = Metrics.bounds
      ∧ (ms.times.cumulative.map Prod.snd).Pairwise (· ≤ ·)
      ∧ (∀ n ∈ ms.times.cumulative.map Prod.snd, n ≤ ms.times.observations)
      ∧ ((∀ v ∈ visits, v.isPing → v.elapsed.toSeconds ≤ Metrics.greatest) →
        ∃ b, ms.times.cumulative.getLast? = some b ∧ Metrics.boundText b.1 = "+Inf" ∧ b.2 = ms.times.observations) := by
  intro r xs pings ms
  have h : Tallied xs r := svc.tallied_after hs s hread
  have hvisits : xs.map Prod.fst = visits := svc.map_fst_answers _ _ visits
  have hpings : Served.pings xs = pings := by
    simp only [pings, ← hvisits, List.countP_map]
    rfl
  obtain ⟨hsorted, hbetween⟩ := Histogram.cumulate_spec 0 ms.times.buckets
  refine ⟨⟨h.total.trans hpings, h.hits.trans hpings, h.observations.trans hpings⟩, ⟨hvisits, h.answered⟩,
    ⟨h.shown .rejected, h.shown .allowed, h.shown .failOpen⟩, fun v hv => ?_, fun v hpath hget => ?_, ?_, hsorted,
    fun n hn => ?_, fun hcovered => ?_⟩
  · have hx : ¬v.isPing := by simpa [Visit.isPing] using hv
    obtain ⟨hmetrics, hsame, hkeep, -⟩ := svc.visit_other store.audited r hx
    exact ⟨hmetrics, congrArg Prod.fst (hkeep _ (CountingStore.pingsKeep_unit store).audited), hsame,
      fun view hk => congrArg Prod.snd (hkeep _ hk.audited)⟩
  · obtain ⟨res, hres, hbody⟩ := svc.visit_metrics store.audited r hpath hget
    exact ⟨res, hres, by rw [hbody, Report.samples_text]⟩
  · rw [Histogram.cumulative, Histogram.map_fst_cumulate, h.bounds]
  · refine (hbetween n hn).2.trans ?_
    rw [Nat.zero_add]
    exact h.counted
  · have hlast : (ms.times.buckets.map Prod.fst).getLast? = some Metrics.greatest := by
      rw [h.bounds, Metrics.getLast?_bounds]
    have hall : Histogram.counted ms.times.buckets = ms.times.observations :=
      h.covered fun x hx => hcovered x.1 (hvisits ▸ List.mem_map_of_mem hx)
    refine ⟨(Metrics.greatest, ms.times.observations), ?_, Metrics.boundText_greatest, rfl⟩
    rw [Histogram.cumulative, Histogram.getLast?_cumulate 0 hlast, hall, Nat.zero_add]

/-- The longest time that can be measured, just under 2 ^ 64 seconds, does not exceed it. -/
example : (Duration.mk 18446744073709551615999999999).toSeconds ≤ Metrics.greatest := by
  decide +kernel

/-! ### A run with every outcome -/

/-- Seven requests in a quarter of an hour, without trust in anything that a client says. -/
def wary : Service where
  policy :=
    { space := "q:", quota := 7, window := .ofSecs 900, patience := .ofMillis 250
      quota_pos := by decide, one_le_secs := by decide, window_le := by decide }
  trust := false
  gateway := none
  inProcess := false

/-- A request at one and the same second, with a time of ten milliseconds measured. -/
def visitOf (method target : String) : Visit where
  moment := ⟨1700000000, 0⟩
  nonce := "x"
  elapsed := .ofMillis 10
  request := { method, target, headers := [], peer := none, user := none }

def mixedVisits : List Visit :=
  [visitOf "GET" "/api/ping", visitOf "POST" "/api/ping?again", visitOf "GET" "/health", visitOf "GET" "/api/ping",
    visitOf "GET" "/nowhere", visitOf "GET" "/metrics", visitOf "HEAD" "/api/ping"]

/-- A count within the quota, one beyond it, a sign of life, silence, an error. -/
def mixedOutcomes : Script :=
  [.count 1 .zero, .count 9 (.ofMillis 10), .count 0 .zero, .silence, .error "down" .zero]

theorem mixedVisits_agree :
    Script.store.HeedsClock ∧ (∀ v ∈ mixedVisits, ∃ now, v.moment.read = .ok now)
      ∧ (let r := wary.after Script.store.audited ⟨⟨[], mixedOutcomes⟩, .fresh⟩ mixedVisits
        let xs := wary.answers Script.store.audited ⟨⟨[], mixedOutcomes⟩, .fresh⟩ mixedVisits
        r.metrics.allowed = 1 ∧ r.metrics.rejected = 1 ∧ r.metrics.failOpen = 2 ∧ r.store.hits = 4
          ∧ r.metrics.times.observations = 4 ∧ xs.countP (fun x => x.gets fun res => res.status = 429) = 1
          ∧ xs.countP (fun x => x.gets fun res => res.status ≠ 429 ∧ res.Advised) = 1
          ∧ xs.countP (fun x => x.1.isPing && x.gets fun res => res.Silent) = 2
          ∧ ∃ b, r.metrics.times.cumulative.getLast? = some b ∧ Metrics.boundText b.1 = "+Inf" ∧ b.2 = 4) := by
  have hread : ∀ v ∈ mixedVisits, ∃ now, v.moment.read = .ok now := by
    intro v hv
    refine ⟨1700000000, ?_⟩
    revert v
    decide
  have helapsed : ∀ v ∈ mixedVisits, v.isPing → v.elapsed.toSeconds ≤ Metrics.greatest := by
    have hten : ∀ v ∈ mixedVisits, v.elapsed = .ofMillis 10 := by decide
    intro v hv _
    rw [hten v hv]
    decide +kernel
  obtain ⟨⟨-, hhits, hobservations⟩, -, ⟨hrejected, hallowed, hfailOpen⟩, -, -, -, -, -, hinf⟩ :=
    wary.tallies_agree Script.heedsClock mixedOutcomes hread
  obtain ⟨b, hb, hlabel, hcount⟩ := hinf helapsed
  have hpings : mixedVisits.countP Visit.isPing = 4 := by decide
  refine ⟨Script.heedsClock, hread, by decide, by decide, by decide, hhits.trans hpings, hobservations.trans hpings,
    ?_, ?_, ?_, b, hb, hlabel, hcount.trans (hobservations.trans hpings)⟩
  · exact hrejected.symm.trans (by decide)
  · exact hallowed.symm.trans (by decide)
  · exact hfailOpen.symm.trans (by decide)

end Service

end QuotaGate
