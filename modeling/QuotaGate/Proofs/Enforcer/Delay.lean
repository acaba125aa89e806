/-
Enforcing a policy over a slow store.

The slow store begins a hit only after its delay.  So a hit is either made as if there were
no delay, or it is given up before it has begun, and leaves nothing behind.  Which of the
two it is hangs on the delay and the policy's patience alone, on whose timer ends first, so
that it is the same for all requests of a run: they are all decided as over the store that
answers at once, or they are all let through and nothing is ever counted
(`decisions_slowStore`).

* `enforce_slowStore_of_inTime`, `enforce_slowStore_of_late` — one enforcement;
* `run_slowStore_of_inTime`, `run_slowStore_of_late` — a run of them, from any state.

Design notes: the switch is at the patience itself, its last instant included, if timers
count to it.  The delay is a timer's as well, and so a patience beyond the reach of timers
runs out on no delay (`threefold_beyond_reach`).
-/
import QuotaGate.Proofs.Enforcer.Window
import QuotaGate.Store.Slow

namespace QuotaGate.Policy

open Windows (slowStore)

variable (p : Policy) {delay : Duration}

/-- The steps of a run that enforce nothing. -/
def unenforced (steps : List Step) : List Step :=
  steps.filter fun s => s.arrival?.isNone

section

variable [Timer]

/-! ### One enforcement -/

/-- If the delay is waited for, it makes no difference to what an enforcement comes to. -/
theorem enforce_slowStore_of_inTime (ht : InTime p.patience (Timer.runs delay)) (w : Windows) (a : Arrival) :
    let e := p.enforce (slowStore delay) w a.client a.now a.nonce
    let e' := p.enforce Windows.store w a.client a.now a.nonce
    e.outcome = e'.outcome ∧ e.state = e'.state := by
  intro e e'
  obtain ⟨ho, -, hs⟩ := p.enforce_eq_judge (slowStore delay) w a.client a.now a.nonce
  obtain ⟨ho', -, hs'⟩ := p.enforce_eq_judge Windows.store w a.client a.now a.nonce
  -- Both stores answer the hit alike, the one after the delay and the other at once.
  rw [(slowStore delay).hitWithin_of_inTime rfl ht] at ho hs
  rw [Windows.store.hitWithin_of_inTime rfl (inTime_zero _)] at ho' hs'
  exact ⟨ho.trans ho'.symm, hs.trans hs'.symm⟩

/-- If the delay is not waited for, the request is let through, and the sets stay as they
were. -/
theorem enforce_slowStore_of_late (hl : ¬InTime p.patience (Timer.runs delay)) (w : Windows) (a : Arrival) :
    let e := p.enforce (slowStore delay) w a.client a.now a.nonce
    e.outcome = .ok .failOpen ∧ e.state = w := by
  intro e
  rcases p.enforce_cases (slowStore delay) w a.client a.now a.nonce with ⟨-, ho, hs⟩ | ⟨b, hb, ht, -⟩
  · exact ⟨ho, hs⟩
  · obtain rfl := Option.some.inj hb
    exact absurd ht hl

/-! ### Runs -/

theorem run_slowStore_of_inTime (ht : InTime p.patience (Timer.runs delay)) (w : Windows) (steps : List Step) :
    p.decisions (slowStore delay) w steps = p.decisions Windows.store w steps
      ∧ p.after (slowStore delay) w steps = p.after Windows.store w steps := by
  have happly : ∀ (v : Windows) (s : Step), p.apply (slowStore delay) v s = p.apply Windows.store v s := by
    intro v s
    cases s with
    | enforce a => exact (p.enforce_slowStore_of_inTime ht v a).2
    | purge now => rfl
    | count key now => rfl
  induction steps generalizing w with
  | nil => exact ⟨rfl, rfl⟩
  | cons s steps ih =>
    obtain ⟨hd, ha⟩ := ih (p.apply Windows.store w s)
    refine ⟨?_, ?_⟩
    · cases s with
      | enforce a =>
        rw [decisions, decisions, happly, hd, (p.enforce_slowStore_of_inTime ht w a).1]
      | purge now => exact hd
      | count key now => exact hd
    · rw [after, List.foldl_cons, happly]
      exact ha

/-- All requests are let through, and what is left is what the other steps leave. -/
theorem run_slowStore_of_late (hl : ¬InTime p.patience (Timer.runs delay)) (w : Windows) (steps : List Step) :
    p.decisions (slowStore delay) w steps = (arrivals steps).map (·, .ok .failOpen)
      ∧ p.after (slowStore delay) w steps = p.after (slowStore delay) w (unenforced steps) := by
  induction steps generalizing w with
  | nil => exact ⟨rfl, rfl⟩
  | cons s steps ih =>
    obtain ⟨hd, ha⟩ := ih (p.apply (slowStore delay) w s)
    cases s with
    | enforce a =>
      obtain ⟨ho, hs⟩ := p.enforce_slowStore_of_late hl w a
      have hsame : p.apply (slowStore delay) w (.enforce a) = w := hs
      rw [hsame] at hd ha
      refine ⟨?_, ?_⟩
      · rw [decisions, hsame, hd, ho]
        rfl
      · rw [after, List.foldl_cons, hsame]
        exact ha
    | purge now => exact ⟨hd, ha⟩
    | count key now => exact ⟨hd, ha⟩

/-- No step but an enforcement makes a set. -/
theorem after_unenforced (store : CountingStore Windows) (steps : List Step) :
    p.after store .empty (unenforced steps) = .empty := by
  induction steps with
  | nil => rfl
  | cons s steps ih =>
    cases s with
    | enforce a => exact ih
    | purge now => exact ih
    | count key now => exact ih

/-- **A delay is all or nothing.**  Let requests be enforced over a slow store that is new,
with purges and counts in between.  If the timer of the delay ends no later than that of the
policy's patience, the requests are decided one for one as over the store that answers at
once, and the two leave the same sets.  Otherwise every request is let through, whatever the
quota, and no set is ever made.  The former is the case if the delay is within the patience,
or the patience beyond the reach of timers; the latter if the patience is neither, and is one
that timers count to. -/
theorem decisions_slowStore (delay : Duration) (steps : List Step) :
    (Timer.runs delay ≤ Timer.runs p.patience →
        p.decisions (slowStore delay) .empty steps = p.decisions Windows.store .empty steps
          ∧ p.after (slowStore delay) .empty steps = p.after Windows.store .empty steps)
      ∧ (Timer.runs p.patience < Timer.runs delay →
        p.decisions (slowStore delay) .empty steps = (arrivals steps).map (·, .ok .failOpen)
          ∧ p.after (slowStore delay) .empty steps = .empty)
      ∧ (delay ≤ p.patience ∨ Timer.reach ≤ p.patience → Timer.runs delay ≤ Timer.runs p.patience)
      ∧ (p.patience < delay → p.patience < Timer.reach → Timer.Counts p.patience →
        Timer.runs p.patience < Timer.runs delay) := by
  refine ⟨fun ht => p.run_slowStore_of_inTime ht .empty steps, fun hlate => ?_, ?_, fun hdelay hreach hcounts => ?_⟩
  · obtain ⟨hd, ha⟩ := p.run_slowStore_of_late (Nat.not_le.2 hlate) .empty steps
    exact ⟨hd, ha.trans (p.after_unenforced _ steps)⟩
  · rintro (hdelay | hreach)
    · exact Timer.runs_mono hdelay
    · rw [Timer.runs_of_reach hreach]
      exact Timer.runs_le_reach delay
  · exact Timer.runs_lt_runs hcounts hreach hdelay

end

/-- A delay of the patience itself, and one that is longer by a nanosecond. -/
theorem busyMinute_delayed :
    Duration.ofMillis 250 ≤ twiceAMinute.patience ∧ twiceAMinute.patience < ⟨250000001⟩
      ∧ twiceAMinute.patience < Timer.reach ∧ Timer.Counts twiceAMinute.patience
      ∧ (twiceAMinute.decisions (slowStore (.ofMillis 250)) .empty busyMinute)[4]?
        = some (⟨.user "42", 160, "b"⟩, .ok (.rejected
          { limit := 2, count := 3, remaining := 0, resetAt := 220, retryAfter := 60 }))
      ∧ (twiceAMinute.decisions (slowStore ⟨250000001⟩) .empty busyMinute)[4]?
        = some (⟨.user "42", 160, "b"⟩, .ok .failOpen)
      ∧ twiceAMinute.after (slowStore ⟨250000001⟩) .empty busyMinute = .empty := by
  have hin : Duration.ofMillis 250 ≤ twiceAMinute.patience := by decide
  have hout : twiceAMinute.patience < ⟨250000001⟩ := by decide
  have hreach : twiceAMinute.patience < Timer.reach := by decide
  have hcounts : Timer.Counts twiceAMinute.patience := by decide
  obtain ⟨heard, -, within, -⟩ := twiceAMinute.decisions_slowStore (.ofMillis 250) busyMinute
  obtain ⟨-, unheard, -, beyond⟩ := twiceAMinute.decisions_slowStore ⟨250000001⟩ busyMinute
  obtain ⟨hopen, hempty⟩ := unheard (beyond hout hreach hcounts)
  refine ⟨hin, hout, hreach, hcounts, ?_, ?_, hempty⟩
  · rw [(heard (within (.inl hin))).1]
    decide
  · rw [hopen]
    rfl

/-- Three requests of one second. -/
def threefold : List Step :=
  [.enforce ⟨.user "42", 1700000000, "a"⟩, .enforce ⟨.user "42", 1700000000, "b"⟩, .enforce ⟨.user "42", 1700000000, "c"⟩]

/-- With a patience of thirty-five years and a delay of forty, the third of them is rejected, as
all three are counted. -/
theorem threefold_beyond_reach :
    let p := twiceAMinute.withPatience (.ofMillis 1103760000000)
    let slow := slowStore (.ofMillis 1261440000000)
    p.patience < .ofMillis 1261440000000
      ∧ (∀ a ∈ arrivals threefold, a.Fits p)
      ∧ (p.decisions slow .empty threefold)[2]?
        = some (⟨.user "42", 1700000000, "c"⟩, .ok (.rejected
          { limit := 2, count := 3, remaining := 0, resetAt := 1700000060, retryAfter := 60 }))
      ∧ (p.after slow .empty threefold).count "rl:user:42" 1700000000 = 3 := by
  decide

end QuotaGate.Policy
