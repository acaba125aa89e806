/-
Wall-clock time in whole seconds.

A second is an integer, counted from the start of 1970; the clock holds those of 64
bits.  Stepping back or forward by a window is checked: a result that the clock cannot
hold is a fault of that step, not a wrapped value (`before_eq_ok`, `after_eq_ok`).

The current second is read off the moment it is.  `Moment.read` tells only the moments
from the start of 1970 to the last one that has a date (`read_eq_ok`); a second that is
given is taken as it is.
-/
import QuotaGate.Duration

namespace QuotaGate.Clock

/-- The seconds that the clock holds. -/
def Holds (t : Int) : Prop :=
  -0x8000000000000000 ≤ t ∧ t < 0x8000000000000000

instance (t : Int) : Decidable (Holds t) :=
  inferInstanceAs (Decidable (_ ∧ _))

/-- A step that leaves the clock's range, by its direction. -/
inductive Overflow
  | back
  | forward
  deriving DecidableEq, Repr

/-- The wording of a fault. -/
def Overflow.message : Overflow → String
  | .back => "attempt to subtract with overflow"
  | .forward => "attempt to add with overflow"

/-- The second `span` before `t`. -/
def before (t span : Int) : Except Overflow Int :=
  if Holds (t - span) then .ok (t - span) else .error .back

/-- The second `span` after `t`. -/
def after (t span : Int) : Except Overflow Int :=
  if Holds (t + span) then .ok (t + span) else .error .forward

theorem before_eq_ok {t span u : Int} : before t span = .ok u ↔ Holds (t - span) ∧ u = t - span := by
  unfold before
  split <;> simp_all [eq_comm]

theorem after_eq_ok {t span u : Int} : after t span = .ok u ↔ Holds (t + span) ∧ u = t + span := by
  unfold after
  split <;> simp_all [eq_comm]

theorem before_eq_error {t span : Int} {o : Overflow} : before t span = .error o ↔ ¬Holds (t - span) ∧ o = .back := by
  unfold before
  split <;> simp_all [eq_comm]

theorem after_eq_error {t span : Int} {o : Overflow} : after t span = .error o ↔ ¬Holds (t + span) ∧ o = .forward := by
  unfold after
  split <;> simp_all [eq_comm]

/-! ### Reading the current second -/

/-- A moment: a second, and the part of it that has passed. -/
structure Moment where
  second : Int
  nanos : Nat
  deriving DecidableEq, Repr

/-- The last second that has a date, at the end of the year 262142. -/
def lastDated : Int := 8210266876799

/-- Why the current second cannot be told. -/
inductive Misreading
  /-- The moment lies `lead` before the start of 1970. -/
  | early (lead : Duration)
  | late
  deriving DecidableEq, Repr

/-- The wording of a fault. -/
def Misreading.message : Misreading → String
  | .early lead => "system time before Unix epoch: SystemTimeError(" ++ lead.text ++ ")"
  | .late => "called \x60Option::unwrap()\x60 on a \x60None\x60 value"

namespace Moment

/-- The time from a moment to the start of 1970. -/
def lead (m : Moment) : Duration :=
  ⟨(-(m.second * Duration.perSecond + m.nanos)).toNat⟩

/-- The second of a moment. -/
def read (m : Moment) : Except Misreading Int :=
  if m.second < 0 then .error (.early m.lead)
  else if m.second ≤ lastDated then .ok m.second
  else .error .late

theorem read_eq_ok {m : Moment} {t : Int} :
    m.read = .ok t ↔ 0 ≤ m.second ∧ m.second ≤ lastDated ∧ t = m.second := by
  unfold read
  split
  · simp only [reduceCtorEq, false_iff]
    omega
  · split
    · simp_all [eq_comm]
    · simp only [reduceCtorEq, false_iff]
      omega

end Moment

/-- Why something that depends on the current second failed. -/
inductive Failure
  | overflow (fault : Overflow)
  | misreading (fault : Misreading)
  deriving DecidableEq, Repr

def Failure.message : Failure → String
  | .overflow o => o.message
  | .misreading m => m.message

end QuotaGate.Clock
