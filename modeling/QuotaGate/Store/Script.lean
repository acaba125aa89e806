/-
A counting store that plays a script.

Each call takes the next outcome of the queue, whether or not its caller waits for it: a
count or an error after a delay, or silence.  With the queue empty every call fails.
-/
import QuotaGate.Store.Basic

namespace QuotaGate

/-- What a scripted call comes to. -/
inductive Outcome
  | count (n : Nat) (delay : Duration)
  | error (detail : String) (delay : Duration)
  | silence
  deriving DecidableEq, Repr

/-- The outcomes that are still to come. -/
abbrev Script := List Outcome

namespace Script

/-- Takes the next outcome as the answer to a call; `value` makes a result of a
count. -/
def take {α : Type} (value : Nat → α) : Script → Call Script α
  | [] => .now [] (.error (.store (.unavailable "script ended"))) []
  | .count n delay :: rest =>
    { abandoned := rest, answer := some { delay, result := .ok (value n), state := rest } }
  | .error detail delay :: rest =>
    { abandoned := rest
      answer := some { delay, result := .error (.store (.unavailable detail)), state := rest } }
  | .silence :: rest => { abandoned := rest, answer := none }

/-- The counting store that plays a script. -/
def store : CountingStore Script where
  hit s _ := s.take id
  ping s := s.take fun _ => ()

end Script

end QuotaGate
