/-
Decisions on requests.

A status is what a completed store transaction tells about a client's window.  A request
is allowed or rejected with a status, or let through without one when the transaction
failed.
-/
namespace QuotaGate

/-- A client's window as one transaction found it. -/
structure Status where
  /-- The quota. -/
  limit : Nat
  /-- Requests in the window, the one at hand included. -/
  count : Nat
  /-- Requests left. -/
  remaining : Nat
  /-- The second at which the window ends. -/
  resetAt : Int
  /-- Seconds from the decision to `resetAt`. -/
  retryAfter : Nat
  deriving DecidableEq, Repr

/-- The status after `count` requests, decided at `now` for a window that ends at
`resetAt`. -/
def Status.ofCount (limit count : Nat) (now resetAt : Int) : Status :=
  { limit, count, resetAt
    remaining := limit - count
    retryAfter := (resetAt - now).toNat }

/-- What becomes of a request. -/
inductive Decision
  | allowed (status : Status)
  | rejected (status : Status)
  | failOpen
  deriving DecidableEq, Repr

namespace Decision

/-- The decision on a completed transaction: a request is rejected if the count exceeds
the limit. -/
def ofStatus (s : Status) : Decision :=
  if s.limit < s.count then .rejected s else .allowed s

theorem ofStatus_eq_allowed {s : Status} : ofStatus s = .allowed s ↔ s.count ≤ s.limit := by
  unfold ofStatus
  split
  · simp only [reduceCtorEq, false_iff]
    omega
  · simp only [true_iff]
    omega

theorem ofStatus_eq_rejected_iff {s t : Status} : ofStatus s = .rejected t ↔ s.limit < s.count ∧ t = s := by
  unfold ofStatus
  split
  · simp_all [eq_comm]
  · exact iff_of_false nofun fun h => absurd h.1 ‹_›

theorem ofStatus_eq_allowed_iff {s t : Status} : ofStatus s = .allowed t ↔ s.count ≤ s.limit ∧ t = s := by
  unfold ofStatus
  split
  · exact iff_of_false nofun fun h => Nat.not_lt.2 h.1 ‹_›
  · simp_all [eq_comm]

/-- Whether the request goes on to its handler. -/
def isAllowed : Decision → Bool
  | .rejected _ => false
  | _ => true

def status? : Decision → Option Status
  | .allowed s => some s
  | .rejected s => some s
  | .failOpen => none

@[simp] theorem status?_ofStatus (s : Status) : (ofStatus s).status? = some s := by
  unfold ofStatus
  split <;> rfl

end Decision

end QuotaGate
