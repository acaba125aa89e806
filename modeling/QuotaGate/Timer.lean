/-
Timers.

Whoever waits for something, but not for ever, sets a timer, and how long that runs is the
runtime's affair.  It counts in steps and reaches only so far.  `Timer` holds what is known
of it; it is a parameter of all that waits.

* `Timer.Counts` — the durations that timers keep to: whole steps, within their reach;
* `runs_of_counts`, `runs_of_reach` — how long a timer runs that is set to such a duration,
  and how long one that is set beyond the reach;
* `Timer.counting` — timers that count up to a number of steps;
* `Timer.milliseconds` — those that the program and its examples run on.

Design notes: a timer may round up to its next step, so it is never early, but for its
reach.  A second is taken to be within reach, and to be whole steps.  The instance has the
lowest priority, so that what is said of all timers is said of those at hand.
-/
import QuotaGate.Duration

namespace QuotaGate

/-- The timers of a runtime. -/
class Timer where
  /-- How long a timer runs that is set to a duration. -/
  runs : Duration → Duration
  /-- The step in which timers count. -/
  step : Duration
  /-- The longest that a timer runs. -/
  reach : Duration
  /-- A timer that is set to more does not run for less. -/
  runs_mono : ∀ {d e : Duration}, d ≤ e → runs d ≤ runs e
  /-- Within the reach no timer is early. -/
  le_runs : ∀ {d : Duration}, d ≤ reach → d ≤ runs d
  /-- One that is set to whole steps is not late either. -/
  runs_whole : ∀ {d : Duration}, step.nanos ∣ d.nanos → d ≤ reach → runs d = d
  runs_le_reach : ∀ d : Duration, runs d ≤ reach
  step_dvd_second : step.nanos ∣ Duration.perSecond
  second_le_reach : Duration.ofSecs 1 ≤ reach

namespace Timer

section Laws

variable [Timer] {d e : Duration}

/-- Timers keep to the duration: it is whole steps, and within their reach. -/
def Counts (d : Duration) : Prop :=
  step.nanos ∣ d.nanos ∧ d ≤ reach

instance (d : Duration) : Decidable (Counts d) :=
  inferInstanceAs (Decidable (_ ∧ _))

theorem runs_of_counts (h : Counts d) : runs d = d :=
  runs_whole h.1 h.2

theorem counts_second : Counts (.ofSecs 1) :=
  ⟨by simpa [Duration.ofSecs] using step_dvd_second, second_le_reach⟩

/-- Set to the reach or more, a timer runs to the reach. -/
theorem runs_of_reach (h : reach ≤ d) : runs d = reach :=
  Duration.le_antisymm (runs_le_reach d) (Nat.le_trans (le_runs (Nat.le_refl _)) (runs_mono h))

/-- Of two timers, the one that is set to more ends later, if the other ends within the
reach and on time. -/
theorem runs_lt_runs (hd : Counts d) (hreach : d < reach) (h : d < e) : runs d < runs e := by
  rw [runs_of_counts hd]
  by_cases he : e ≤ reach
  · exact Nat.lt_of_lt_of_le h (le_runs he)
  · rw [runs_of_reach (Nat.le_of_lt (Duration.not_le.1 he))]
    exact hreach

end Laws

/-! ### Timers that count up -/

/-- The number of steps that a timer counts which is set to `nanos`. -/
def stepsFor (step nanos : Nat) : Nat :=
  (nanos + (step - 1)) / step

theorem le_stepsFor_mul {step : Nat} (hstep : 0 < step) (nanos : Nat) : nanos ≤ stepsFor step nanos * step := by
  have hdiv := Nat.div_add_mod (nanos + (step - 1)) step
  have hmod := Nat.mod_lt (nanos + (step - 1)) hstep
  rw [stepsFor, Nat.mul_comm]
  omega

theorem stepsFor_mul {step : Nat} (hstep : 0 < step) (n : Nat) : stepsFor step (step * n) = n := by
  rw [stepsFor, Nat.mul_add_div hstep, Nat.div_eq_of_lt (by omega), Nat.add_zero]

/-- Timers that count steps, but no more than `most`. -/
@[reducible]
def counting (step : Duration) (most : Nat) (hstep : step.nanos ∣ Duration.perSecond)
    (hmost : Duration.perSecond ≤ most * step.nanos) : Timer :=
  have hpos : 0 < step.nanos := Nat.pos_of_dvd_of_pos hstep (by decide)
  { runs := fun d => ⟨min (stepsFor step.nanos d.nanos) most * step.nanos⟩
    step
    reach := ⟨most * step.nanos⟩
    runs_mono := fun {d e} h => by
      refine Nat.mul_le_mul_right _ ?_
      have hsteps : stepsFor step.nanos d.nanos ≤ stepsFor step.nanos e.nanos :=
        Nat.div_le_div_right (Nat.add_le_add_right h _)
      omega
    le_runs := fun {d} h => by
      change d.nanos ≤ min (stepsFor step.nanos d.nanos) most * step.nanos
      rw [Nat.min_def]
      split
      · exact le_stepsFor_mul hpos d.nanos
      · exact h
    runs_whole := fun {d} hwhole h => by
      obtain ⟨n, hn⟩ := hwhole
      refine congrArg Duration.mk ?_
      have hle : n ≤ most := Nat.le_of_mul_le_mul_left (hn ▸ Nat.mul_comm _ _ ▸ h) hpos
      rw [hn, stepsFor_mul hpos, Nat.min_eq_left hle, Nat.mul_comm]
    runs_le_reach := fun d => Nat.mul_le_mul_right _ (Nat.min_le_right _ _)
    step_dvd_second := hstep
    second_le_reach := by
      change 1 * Duration.perSecond ≤ most * step.nanos
      omega }

/-- Timers that count milliseconds, for up to thirty years. -/
instance (priority := low) milliseconds : Timer :=
  counting (.ofMillis 1) 946080000000 (by decide) (by decide)

end Timer

end QuotaGate
