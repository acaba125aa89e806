/-
Metrics of a limiter.

Three counters, one for each kind of decision, and a histogram of the time that
enforcements took.  Every observation falls into at most one bucket, the first whose
bound it does not exceed; the text reports the buckets summed up from the smallest
bound.

* `Metrics.record` — counts one decision;
* `Metrics.text` — the metrics in the text format that collectors read.
-/
import QuotaGate.Decimal.Compact
import QuotaGate.Decision

namespace QuotaGate

/-- The kinds of decision. -/
inductive Verdict
  | allowed
  | rejected
  | failOpen
  deriving DecidableEq, Repr

def Decision.verdict : Decision → Verdict
  | .allowed _ => .allowed
  | .rejected _ => .rejected
  | .failOpen => .failOpen

/-- Observations by size. -/
structure Histogram where
  sum : Float
  observations : Nat
  /-- Upper bound and number of observations of each bucket, smallest bound first. -/
  buckets : List (Float × Nat)

namespace Histogram

/-- A histogram without observations. -/
def ofBounds (bounds : List Float) : Histogram :=
  { sum := 0, observations := 0, buckets := bounds.map (·, 0) }

/-- Counts `v` in the first bucket whose bound it does not exceed. -/
def tally (v : Float) : List (Float × Nat) → List (Float × Nat)
  | [] => []
  | (bound, n) :: rest =>
    if v ≤ bound then (bound, n + 1) :: rest else (bound, n) :: tally v rest

def observe (h : Histogram) (v : Float) : Histogram :=
  { sum := h.sum + v, observations := h.observations + 1, buckets := tally v h.buckets }

/-- The buckets with the observations up to each bound, given `before` below the
first. -/
def cumulate (before : Nat) : List (Float × Nat) → List (Float × Nat)
  | [] => []
  | (bound, n) :: rest => (bound, before + n) :: cumulate (before + n) rest

/-- The number of observations up to each bound. -/
def cumulative (h : Histogram) : List (Float × Nat) :=
  cumulate 0 h.buckets

/-- A value counts in the first bucket whose bound it does not exceed, and in no
other. -/
theorem tally_spec (v : Float) (bs : List (Float × Nat)) :
    (tally v bs = bs ∧ ∀ b ∈ bs, ¬v ≤ b.1)
      ∨ ∃ below bound n above, bs = below ++ (bound, n) :: above ∧ (∀ b ∈ below, ¬v ≤ b.1) ∧ v ≤ bound
        ∧ tally v bs = below ++ (bound, n + 1) :: above := by
  induction bs with
  | nil => exact .inl ⟨rfl, nofun⟩
  | cons b bs ih =>
    obtain ⟨bound, n⟩ := b
    rw [tally]
    by_cases hv : v ≤ bound
    · rw [if_pos hv]
      exact .inr ⟨[], bound, n, bs, rfl, nofun, hv, rfl⟩
    · rw [if_neg hv]
      rcases ih with ⟨ht, hbs⟩ | ⟨below, bound', n', above, rfl, hbelow, hv', ht⟩
      · exact .inl ⟨by rw [ht], List.forall_mem_cons.2 ⟨hv, hbs⟩⟩
      · exact .inr ⟨(bound, n) :: below, bound', n', above, rfl, List.forall_mem_cons.2 ⟨hv, hbelow⟩, hv', by
          rw [ht, List.cons_append]⟩

end Histogram

/-- The metrics of a limiter. -/
structure Metrics where
  allowed : Nat
  rejected : Nat
  failOpen : Nat
  times : Histogram

namespace Metrics

/-- The greatest finite floating-point number, the bound of the last bucket. -/
def greatest : Float :=
  Float.ofBits 0x7fefffffffffffff

/-- A tenth of a millisecond, doubled thirteen times, and a last bucket for all the
rest. -/
def bounds : List Float :=
  (List.range 14).map (fun i => 0.0001 * (1 <<< i : Nat).toFloat) ++ [greatest]

theorem getLast?_bounds : bounds.getLast? = some greatest := by
  rw [bounds, List.getLast?_concat]

def fresh : Metrics :=
  { allowed := 0, rejected := 0, failOpen := 0, times := .ofBounds bounds }

/-- Counts a decision that took `seconds`. -/
def record (m : Metrics) (v : Verdict) (seconds : Float) : Metrics :=
  let times := m.times.observe seconds
  match v with
  | .allowed => { m with times, allowed := m.allowed + 1 }
  | .rejected => { m with times, rejected := m.rejected + 1 }
  | .failOpen => { m with times, failOpen := m.failOpen + 1 }

/-! ### Text -/

/-- Numbers have at most 21 digits before the point and five zeros after it; whole ones
end in `.0`. -/
def layout : Decimal.Layout :=
  { longest := 21, zeros := 5, whole := ".0" }

/-- The head of a metric: what it is, and of which type. -/
def heading (name help type : String) : List String :=
  ["# HELP " ++ name ++ " " ++ help ++ ".", "# TYPE " ++ name ++ " " ++ type]

def counterLines (name help : String) (n : Nat) : List String :=
  heading name help "counter" ++ [name ++ "_total " ++ Numeral.ofNat n]

/-- The label of a bucket. -/
def boundText (bound : Float) : String :=
  if bound == greatest then "+Inf" else layout.float bound

theorem boundText_greatest : boundText greatest = "+Inf" := by
  decide +kernel

def histogramLines (name help : String) (h : Histogram) : List String :=
  heading name help "histogram"
    ++ [name ++ "_sum " ++ layout.float h.sum, name ++ "_count " ++ Numeral.ofNat h.observations]
    ++ h.cumulative.map fun b =>
      name ++ "_bucket\x7ble=\"" ++ boundText b.1 ++ "\"\x7d " ++ Numeral.ofNat b.2

/-- The lines of the report. -/
def lines (m : Metrics) : List String :=
  counterLines "rate_limit_allowed" "Requests allowed by the rate limiter" m.allowed
    ++ counterLines "rate_limit_rejections" "Rate limit rejections" m.rejected
    ++ counterLines "rate_limit_fail_open"
      "Requests allowed because the counting store was unavailable" m.failOpen
    ++ histogramLines "rate_limit_store_duration_seconds"
      "Rate limit store transaction duration in seconds" m.times
    ++ ["# EOF"]

/-- The metrics as text, every line ended. -/
def text (m : Metrics) : String :=
  String.join (m.lines.map (· ++ "\n"))

/-- The three counters. -/
def counters (m : Metrics) : List Nat :=
  [m.allowed, m.rejected, m.failOpen]

/-- The metrics in a dump of the program's values: their name alone. -/
def summary (_ : Metrics) : String :=
  "Metrics"

end Metrics

end QuotaGate
