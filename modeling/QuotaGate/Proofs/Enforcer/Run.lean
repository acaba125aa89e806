/-
Runs of an enforcer.

Over any store an enforcement is one hit, and a decision on what the hit came to
(`enforce_eq_judge`).  Over the window sets held in the process a run interleaves
enforcements with purges and counts in any way; `Policy.decisions` lists what became of
its requests, in the order in which they came.

* `getElem?_decisions` — the `i`-th decision, from the state that the steps before it
  leave;
* `after_eq` — the state of the store after a run, as that after the calls which the run
  makes.
-/
import QuotaGate.Enforcer
import QuotaGate.Proofs.Store.Run
import QuotaGate.Proofs.Store.Waiting

namespace QuotaGate

/-- A request as an enforcer gets it. -/
structure Arrival where
  client : Client
  now : Int
  /-- The identifier drawn for the request. -/
  nonce : String
  deriving DecidableEq, Repr

/-- The hit that counts a request. -/
def Arrival.hit (p : Policy) (a : Arrival) : Hit :=
  p.hitFor a.client a.now a.nonce

/-- The whole window of a request lies within the clock's range. -/
def Arrival.Fits (p : Policy) (a : Arrival) : Prop :=
  (a.hit p).Fits

instance (p : Policy) (a : Arrival) : Decidable (a.Fits p) :=
  inferInstanceAs (Decidable (a.hit p).Fits)

/-! ### Room for a window -/

/-- The clock holds every second within a year of this one. -/
def Clock.Roomy (t : Int) : Prop :=
  -0x8000000000000000 + 31536000 ≤ t ∧ t ≤ 0x7fffffffffffffff - 31536000

theorem Clock.Moment.roomy {m : Moment} {now : Int} (hm : m.read = .ok now) : Roomy now := by
  obtain ⟨hlow, hhigh, rfl⟩ := Moment.read_eq_ok.1 hm
  simp only [Roomy, lastDated] at *
  omega

/-- No policy has a window of more than a year. -/
theorem Policy.holds_window {now : Int} (hnow : Clock.Roomy now) (p : Policy) :
    Clock.Holds (now - p.span) ∧ Clock.Holds (now + p.span) := by
  have := p.span_pos
  have := p.span_le
  simp only [Clock.Holds, Clock.Roomy] at *
  omega

theorem Policy.hitFor_fits {now : Int} (hnow : Clock.Roomy now) (p : Policy) (client : Client) (nonce : String) :
    (p.hitFor client now nonce).Fits :=
  p.holds_window hnow

namespace Policy

/-- A step of a run. -/
inductive Step
  | enforce (a : Arrival)
  | purge (now : Int)
  | count (key : String) (now : Int)
  deriving DecidableEq, Repr

/-- The second that a step is made at. -/
def Step.now : Step → Int
  | .enforce a => a.now
  | .purge now => now
  | .count _ now => now

/-- The request of a step, if it enforces the policy on one. -/
def Step.arrival? : Step → Option Arrival
  | .enforce a => some a
  | _ => none

/-- The requests of a run, in the order in which they came. -/
def arrivals (steps : List Step) : List Arrival :=
  steps.filterMap Step.arrival?

/-! ### One enforcement -/

/-- What an enforcement decides on what its hit came to. -/
def judge (p : Policy) (now : Int) : Option (Except Fault Nat) → Except Clock.Overflow Decision
  | some (.ok count) => p.verdict now count
  | some (.error (.clock o)) => .error o
  | some (.error (.store _)) => .ok .failOpen
  | none => .ok .failOpen

theorem enforce_eq_judge [Timer] {σ : Type} (p : Policy) (store : CountingStore σ) (s : σ) (client : Client) (now : Int)
    (nonce : String) :
    let w := store.hitWithin p.patience s (p.hitFor client now nonce)
    let e := p.enforce store s client now nonce
    e.outcome = p.judge now w.result ∧ e.time = w.time ∧ e.state = w.state := by
  simp only [enforce]
  -- Nothing in time, an error of the store, a fault of the clock, a count.
  rcases (store.hitWithin p.patience s (p.hitFor client now nonce)).result with _ | (⟨_ | _⟩ | _)
    <;> exact ⟨rfl, rfl, rfl⟩

/-- An enforcement comes to nothing in time, of which the store is told, or to what the
answer of its hit says. -/
theorem enforce_cases [Timer] {σ : Type} (p : Policy) (store : CountingStore σ) (s : σ) (client : Client) (now : Int)
    (nonce : String) :
    let call := store.hit s (p.hitFor client now nonce)
    let e := p.enforce store s client now nonce
    (call.Late p.patience ∧ e.outcome = .ok .failOpen ∧ e.state = store.onTimeout call.abandoned)
      ∨ ∃ a, call.answer = some a ∧ InTime p.patience a.delay ∧ e.outcome = p.judge now (some a.result)
        ∧ e.state = a.state := by
  intro call e
  obtain ⟨ho, -, hs⟩ := p.enforce_eq_judge store s client now nonce
  rcases store.settle_cases p.patience call with ⟨hl, hr, hw⟩ | ⟨a, ha, ht, hr, hw⟩
  · exact .inl ⟨hl, ho.trans (congrArg (p.judge now) hr), hs.trans hw⟩
  · exact .inr ⟨a, ha, ht, ho.trans (congrArg (p.judge now) hr), hs.trans hw⟩

/-- Only an error of the store lets a request through without a count. -/
theorem judge_eq_failOpen {p : Policy} {now : Int} {r : Except Fault Nat} :
    p.judge now (some r) = .ok .failOpen ↔ ∃ e, r = .error (.store e) := by
  rcases r with (e | o) | count
  · simp [judge]
  · simp [judge]
  · simp only [judge, verdict, reduceCtorEq, exists_false, iff_false]
    cases Clock.after now p.span with
    | error o => exact nofun
    | ok resetAt =>
      intro h
      have hof : ∀ s, Decision.ofStatus s ≠ .failOpen := by
        intro s
        rw [Decision.ofStatus]
        split <;> nofun
      exact hof _ (Except.ok.inj h)

theorem verdict_of_holds (p : Policy) {now : Int} (h : Clock.Holds (now + p.span)) (count : Nat) :
    p.verdict now count = .ok (.ofStatus (.ofCount p.quota count now (now + p.span))) := by
  rw [verdict, Clock.after_eq_ok.2 ⟨h, rfl⟩]
  rfl

/-! ### Requests of a run -/

@[simp] theorem arrivals_append (xs ys : List Step) :
    arrivals (xs ++ ys) = arrivals xs ++ arrivals ys :=
  List.filterMap_append ..

@[simp] theorem arrivals_enforce (a : Arrival) (steps : List Step) :
    arrivals (.enforce a :: steps) = a :: arrivals steps := rfl

theorem mem_arrivals {a : Arrival} {steps : List Step} :
    a ∈ arrivals steps ↔ Step.enforce a ∈ steps := by
  simp only [arrivals, List.mem_filterMap]
  constructor
  · rintro ⟨s, hs, ha⟩
    cases s <;> cases ha
    exact hs
  · exact fun h => ⟨_, h, rfl⟩

/-- The steps before the `i`-th request of a run are those with the requests before
it. -/
theorem exists_split {steps : List Step} {i : Nat} {a : Arrival} (h : (arrivals steps)[i]? = some a) :
    ∃ before rest, steps = before ++ .enforce a :: rest ∧ arrivals before = (arrivals steps).take i := by
  induction steps generalizing i with
  | nil => simp [arrivals] at h
  | cons s steps ih =>
    -- A step without a request leaves the place as it is, one with a request moves it on.
    have skip : s.arrival? = none → ∃ before rest, s :: steps = before ++ .enforce a :: rest
        ∧ arrivals before = (arrivals (s :: steps)).take i := by
      intro hs
      have hst : arrivals (s :: steps) = arrivals steps := List.filterMap_cons_none hs
      rw [hst] at h ⊢
      obtain ⟨before, rest, rfl, hb⟩ := ih h
      exact ⟨s :: before, rest, rfl, (List.filterMap_cons_none hs).trans hb⟩
    cases s with
    | enforce b =>
      rcases i with _ | i
      · obtain rfl : b = a := by simpa using h
        exact ⟨[], steps, rfl, rfl⟩
      · obtain ⟨before, rest, rfl, hb⟩ := ih (i := i) (by simpa using h)
        exact ⟨.enforce b :: before, rest, rfl, by simpa using hb⟩
    | purge now => exact skip rfl
    | count key now => exact skip rfl

/-- The call that a step makes on the store. -/
def Step.op (p : Policy) : Step → Windows.Op
  | .enforce a => .hit (a.hit p)
  | .purge now => .purge now
  | .count key now => .count key now

/-! ### Steps -/

variable [Timer] (p : Policy) (store : CountingStore Windows)

/-- The state that a step leaves. -/
def apply (w : Windows) : Step → Windows
  | .enforce a => (p.enforce store w a.client a.now a.nonce).state
  | .purge now => (w.purge now).1
  | .count _ _ => w

/-- The state that a run leaves. -/
def after (w : Windows) (steps : List Step) : Windows :=
  steps.foldl (p.apply store) w

/-- The requests of a run, each with what became of it. -/
def decisions (w : Windows) : List Step → List (Arrival × Except Clock.Overflow Decision)
  | [] => []
  | .enforce a :: rest =>
    (a, (p.enforce store w a.client a.now a.nonce).outcome)
      :: decisions (p.apply store w (.enforce a)) rest
  | s :: rest => decisions (p.apply store w s) rest

/-! ### Runs as lists -/

theorem decisions_append (w : Windows) (xs ys : List Step) :
    p.decisions store w (xs ++ ys)
      = p.decisions store w xs ++ p.decisions store (p.after store w xs) ys := by
  induction xs generalizing w with
  | nil => rfl
  | cons s xs ih =>
    cases s with
    | enforce a => exact congrArg _ (ih _)
    | purge now => exact ih _
    | count key now => exact ih _

theorem map_fst_decisions (w : Windows) (steps : List Step) :
    (p.decisions store w steps).map Prod.fst = arrivals steps := by
  induction steps generalizing w with
  | nil => rfl
  | cons s steps ih =>
    cases s with
    | enforce a => exact congrArg _ (ih _)
    | purge now => exact ih _
    | count key now => exact ih _

@[simp] theorem length_decisions (w : Windows) (steps : List Step) :
    (p.decisions store w steps).length = (arrivals steps).length := by
  rw [← p.map_fst_decisions store w steps, List.length_map]

theorem getElem?_decisions (w : Windows) {before rest : List Step} {a : Arrival} :
    (p.decisions store w (before ++ .enforce a :: rest))[(arrivals before).length]?
      = some (a, (p.enforce store (p.after store w before) a.client a.now a.nonce).outcome) := by
  rw [decisions_append, List.getElem?_append_right (by simp)]
  simp [decisions]

/-! ### Runs over window sets -/

theorem enforce_eq (w : Windows) (a : Arrival) :
    let e := p.enforce Windows.store w a.client a.now a.nonce
    e.outcome = ((w.hit (a.hit p)).2).bind (p.verdict a.now) ∧ e.state = (w.hit (a.hit p)).1 := by
  -- The store answers at once, which no patience is too short for.
  obtain ⟨ho, -, hs⟩ := p.enforce_eq_judge Windows.store w a.client a.now a.nonce
  rw [Windows.store.hitWithin_of_inTime rfl (inTime_zero _)] at ho hs
  rw [Arrival.hit]
  refine ⟨ho.trans ?_, hs⟩
  cases (w.hit (p.hitFor a.client a.now a.nonce)).2 <;> rfl

theorem apply_eq (w : Windows) (s : Step) : p.apply Windows.store w s = w.apply (s.op p) := by
  cases s with
  | enforce a => exact (p.enforce_eq w a).2
  | purge now => rfl
  | count key now => rfl

theorem after_eq (w : Windows) (steps : List Step) :
    p.after Windows.store w steps = w.after (steps.map (Step.op p)) := by
  have hf : p.apply Windows.store = fun w s => w.apply (s.op p) := by
    funext w s
    exact p.apply_eq w s
  rw [after, Windows.after, List.foldl_map, hf]

/-- An enforcement within the clock's range is decided on the size that the set of its
client then has. -/
theorem outcome_eq (w : Windows) {a : Arrival} (ha : a.Fits p) :
    (p.enforce Windows.store w a.client a.now a.nonce).outcome
      = .ok (.ofStatus (.ofCount p.quota ((w.set (a.client.key p.space)).record (a.hit p)).entries.length
          a.now (a.now + p.span))) := by
  rw [(p.enforce_eq w a).1, Windows.hit_of_holds w ha]
  exact p.verdict_of_holds ha.2 _

end Policy

end QuotaGate
