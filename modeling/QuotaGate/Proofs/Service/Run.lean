/-
Runs of a service.

A run is a list of requests, each with the moment at which it arrives, the identifier
drawn for it, and how long its enforcement is measured to take.  `Service.answers` lists
what became of them, in the order in which they came, and `Service.after` is the state
that they leave.

* `Endpoint.ofPath?_eq_some_iff` — where each endpoint is;
* `Call.alive_iff` — what counts as a sign of life from a store.
-/
import QuotaGate.Service.App

namespace QuotaGate

namespace Endpoint

/-- The path of an endpoint. -/
def path : Endpoint → String
  | .ping => "/api/ping"
  | .health => "/health"
  | .metrics => "/metrics"

theorem ofPath?_eq_some_iff {text : String} {e : Endpoint} : ofPath? text = some e ↔ text = e.path := by
  constructor
  · intro h
    unfold ofPath? at h
    split at h
    · cases h
      assumption
    · split at h
      · cases h
        assumption
      · split at h
        · cases h
          assumption
        · cases h
  · rintro rfl
    cases e <;> rfl

end Endpoint

/-! ### Signs of life -/

/-- The call gives a sign of life within the time that one is waited for. -/
def Call.Alive {σ : Type} (c : Call σ Unit) : Prop :=
  ∃ a, c.answer = some a ∧ a.delay ≤ Service.healthPatience ∧ a.result = .ok ()

/-- Signs of life are waited for a second, to which timers count. -/
theorem Service.runs_healthPatience [Timer] : Timer.runs healthPatience = healthPatience :=
  Timer.runs_of_counts Timer.counts_second

theorem Call.alive_iff [Timer] {σ : Type} {c : Call σ Unit} :
    c.Alive ↔ (c.within Service.healthPatience).result = some (.ok ()) := by
  rw [within_eq_some, Service.runs_healthPatience]
  rfl

/-! ### Requests and their answers -/

/-- A request as a service gets it. -/
structure Visit where
  moment : Clock.Moment
  /-- The identifier drawn for the request. -/
  nonce : String
  /-- How long the enforcement on the request takes, if there is one. -/
  elapsed : Duration
  request : Request

/-- Whether the request is one to the limited endpoint. -/
def Visit.isPing (v : Visit) : Bool :=
  v.request.path = "/api/ping"

theorem Visit.isPing_iff {v : Visit} : v.isPing ↔ v.request.path = "/api/ping" :=
  decide_eq_true_iff

/-- A request and its answer, as a client sees them. -/
abbrev Served := Visit × Except Clock.Failure Response

namespace Service

variable {σ : Type} [Timer] (svc : Service) (store : CountingStore σ)

/-- Answers one request. -/
def visit (r : Running σ) (v : Visit) : Except Clock.Failure Response × Running σ :=
  svc.respond store r v.moment v.nonce v.elapsed v.request

/-- The state that a run leaves. -/
def after (r : Running σ) (visits : List Visit) : Running σ :=
  visits.foldl (fun r v => (svc.visit store r v).2) r

/-- The requests of a run, each with its answer. -/
def answers (r : Running σ) : List Visit → List Served
  | [] => []
  | v :: rest => (v, (svc.visit store r v).1) :: answers (svc.visit store r v).2 rest

theorem after_concat (r : Running σ) (visits : List Visit) (v : Visit) :
    svc.after store r (visits ++ [v]) = (svc.visit store (svc.after store r visits) v).2 := by
  rw [after, List.foldl_append]
  rfl

theorem answers_concat (r : Running σ) (visits : List Visit) (v : Visit) :
    svc.answers store r (visits ++ [v])
      = svc.answers store r visits ++ [(v, (svc.visit store (svc.after store r visits) v).1)] := by
  induction visits generalizing r with
  | nil => rfl
  | cons w visits ih => exact congrArg _ (ih _)

theorem map_fst_answers (r : Running σ) (visits : List Visit) : (svc.answers store r visits).map Prod.fst = visits := by
  induction visits generalizing r with
  | nil => rfl
  | cons v visits ih => exact congrArg _ (ih _)

end Service

end QuotaGate
