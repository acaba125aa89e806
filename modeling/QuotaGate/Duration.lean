/-
Spans of time, to the nanosecond.

A duration is a number of nanoseconds; `secs` and `subsec` split it at the second.
`text` writes it in its largest unit with a whole part, with as many decimal places as
it needs.
-/
import QuotaGate.Text.Numeral

namespace QuotaGate

/-- A span of time. -/
structure Duration where
  nanos : Nat
  deriving DecidableEq, Repr, Inhabited

namespace Duration

/-- Nanoseconds in a second. -/
def perSecond : Nat := 1000000000

def ofSecs (s : Nat) : Duration := ⟨s * perSecond⟩

def ofMillis (ms : Nat) : Duration := ⟨ms * 1000000⟩

def zero : Duration := ⟨0⟩

/-- Whole seconds. -/
def secs (d : Duration) : Nat := d.nanos / perSecond

/-- Nanoseconds beyond the whole seconds. -/
def subsec (d : Duration) : Nat := d.nanos % perSecond

instance : LE Duration := ⟨fun a b => a.nanos ≤ b.nanos⟩

instance : LT Duration := ⟨fun a b => a.nanos < b.nanos⟩

instance (a b : Duration) : Decidable (a ≤ b) := inferInstanceAs (Decidable (a.nanos ≤ b.nanos))

instance (a b : Duration) : Decidable (a < b) := inferInstanceAs (Decidable (a.nanos < b.nanos))

theorem le_antisymm {a b : Duration} (h : a ≤ b) (h' : b ≤ a) : a = b :=
  congrArg Duration.mk (Nat.le_antisymm h h')

theorem not_le {a b : Duration} : ¬a ≤ b ↔ b < a :=
  Nat.not_le

/-- The span in seconds as a floating-point number. -/
def toSeconds (d : Duration) : Float :=
  d.secs.toFloat + d.subsec.toFloat / perSecond.toFloat

/-- The digits of `part / 10 ^ places` after the point, without trailing zeros. -/
def fraction : (places part : Nat) → List Char
  | 0, _ => []
  | places + 1, part =>
    if part = 0 then []
    else (part / Nat.pow 10 places).digitChar :: fraction places (part % Nat.pow 10 places)

/-- A number of units of `10 ^ places` nanoseconds each, with its unit. -/
def inUnit (nanos places : Nat) (unit : String) : String :=
  let rest := fraction places (nanos % Nat.pow 10 places)
  Numeral.ofNat (nanos / Nat.pow 10 places) ++ (if rest = [] then "" else "." ++ String.ofList rest) ++ unit

/-- A duration in its largest unit with a whole part. -/
def text (d : Duration) : String :=
  if perSecond ≤ d.nanos then inUnit d.nanos 9 "s"
  else if 1000000 ≤ d.nanos then inUnit d.nanos 6 "ms"
  else if 1000 ≤ d.nanos then inUnit d.nanos 3 "µs"
  else inUnit d.nanos 0 "ns"

@[simp] theorem secs_ofSecs (s : Nat) : (ofSecs s).secs = s := by
  simp [secs, ofSecs, perSecond]

end Duration

end QuotaGate
