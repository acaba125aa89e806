/-
The policy of a limiter: how many requests a client may make in how long a window.

`Policy.make?` refuses a quota of zero and a window outside one second to one year; what
it accepts carries those bounds (`quota_pos`, `one_le_secs`, `window_le`).  Windows are
counted in whole seconds, so a fraction of a second plays no part in the counting, only
in the upper bound.
-/
import QuotaGate.Duration
import QuotaGate.Text.Quoted

namespace QuotaGate

/-- An accepted policy. -/
structure Policy where
  /-- Name space of the limiter's keys. -/
  space : String
  /-- Requests that a client may make in a window. -/
  quota : Nat
  window : Duration
  /-- How long one store transaction may take. -/
  patience : Duration
  quota_pos : 0 < quota
  one_le_secs : 1 ≤ window.secs
  window_le : window ≤ Duration.ofSecs 31536000

/-- Why a policy is refused. -/
inductive PolicyError
  | zeroQuota
  | windowTooShort (window : Duration)
  | windowTooLong (window : Duration)
  deriving DecidableEq, Repr

namespace Policy

/-- The longest window, one year. -/
def longest : Duration := .ofSecs 31536000

/-- How long a store transaction may take unless said otherwise. -/
def defaultPatience : Duration := .ofMillis 250

/-- A policy with the default patience. -/
def make? (space : String) (quota : Nat) (window : Duration) : Except PolicyError Policy :=
  if hq : quota = 0 then .error .zeroQuota
  else if hs : window.secs = 0 then .error (.windowTooShort window)
  else if hl : window ≤ longest then
    .ok
      { space, quota, window
        patience := defaultPatience
        quota_pos := Nat.pos_of_ne_zero hq
        one_le_secs := Nat.pos_of_ne_zero hs
        window_le := hl }
  else .error (.windowTooLong window)

/-- The same policy with another patience. -/
def withPatience (p : Policy) (patience : Duration) : Policy :=
  { p with patience }

/-- The window in whole seconds. -/
def span (p : Policy) : Int :=
  p.window.secs

/-- The policy's values, for an operator to read. -/
def summary (p : Policy) : String :=
  "LimiterConfig \x7b key_prefix: " ++ Text.quote p.space ++ ", quota: " ++ Numeral.ofNat p.quota
    ++ ", window: " ++ p.window.text ++ ", store_timeout: " ++ p.patience.text ++ ", .. \x7d"

/-- Why a policy is refused, the first reason counting. -/
theorem make?_eq_error {space : String} {quota : Nat} {window : Duration} {e : PolicyError} :
    make? space quota window = .error e
      ↔ (quota = 0 ∧ e = .zeroQuota)
        ∨ (quota ≠ 0 ∧ window.secs = 0 ∧ e = .windowTooShort window)
        ∨ (quota ≠ 0 ∧ window.secs ≠ 0 ∧ ¬window ≤ longest ∧ e = .windowTooLong window) := by
  unfold make?
  by_cases hq : quota = 0
  · simp [hq, eq_comm]
  · by_cases hs : window.secs = 0
    · simp [hq, hs, eq_comm]
    · by_cases hl : window ≤ longest
      · simp [hq, hs, hl]
      · simp [hq, hs, hl, eq_comm]

theorem exists_make?_eq_ok {space : String} {quota : Nat} {window : Duration} :
    (∃ p, make? space quota window = .ok p) ↔ 1 ≤ quota ∧ 1 ≤ window.secs ∧ window ≤ longest := by
  unfold make?
  by_cases hq : quota = 0
  · simp [hq]
  · by_cases hs : window.secs = 0
    · simp [hq, hs]
    · by_cases hl : window ≤ longest
      · simp [hq, hs, hl, Nat.one_le_iff_ne_zero]
      · simp [hq, hs, hl]

/-- An accepted policy has the values that it was made of. -/
theorem of_make?_eq_ok {space : String} {quota : Nat} {window : Duration} {p : Policy}
    (h : make? space quota window = .ok p) :
    p.space = space ∧ p.quota = quota ∧ p.window = window ∧ p.patience = defaultPatience := by
  unfold make? at h
  split at h
  · cases h
  · split at h
    · cases h
    · split at h
      · obtain rfl := Except.ok.inj h
        exact ⟨rfl, rfl, rfl, rfl⟩
      · cases h

theorem span_pos (p : Policy) : 1 ≤ p.span := by
  have := p.one_le_secs
  simp only [span]
  omega

theorem span_le (p : Policy) : p.span ≤ 31536000 := by
  have h : p.window.nanos ≤ 31536000 * 1000000000 := p.window_le
  have hs : p.window.secs = p.window.nanos / 1000000000 := rfl
  simp only [span]
  omega

end Policy

/-- The wording of a refusal. -/
def PolicyError.message : PolicyError → String
  | .zeroQuota => "rate limit quota must be greater than zero"
  | .windowTooShort window =>
    "rate limit window must be at least one second, got " ++ window.text
  | .windowTooLong window =>
    "rate limit window must not exceed " ++ Policy.longest.text ++ ", got " ++ window.text

end QuotaGate
