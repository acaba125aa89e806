/-
Counting stores.

A counting store records hits: a hit adds a member, scored with the second of the
request, to the set of a key, drops what has left the window, and answers how many
members the set then has.  All that a store shows to its callers is in `CountingStore`:
what each call answers, after how long, and what state it leaves, both when its answer
is awaited and when it is given up before.

* `Call.within` — waits for a call's answer until a timer ends; an answer that comes just
  as it ends is in time (`within_eq_some`);
* `CountingStore.pingWithin`, `hitWithin` — the same for the two calls; a store whose
  call ran out of time is told so once.

Design notes: waiting is on a clock of its own, which only the delays of calls move, so
the time spent on a call is a value and not an effect.  A bound is what a timer is set to,
and so no more exact than timers are; when an answer comes is the store's affair alone.
-/
import QuotaGate.Clock
import QuotaGate.Timer

namespace QuotaGate

/-- One request to be counted. -/
structure Hit where
  key : String
  /-- Tells the request from others of the same second. -/
  member : String
  now : Int
  /-- Length of the window in seconds. -/
  span : Int
  deriving DecidableEq, Repr

/-- Why a store did not answer. -/
inductive StoreError
  | redis (detail : String)
  | timedOut (bound : Duration)
  | unavailable (detail : String)
  deriving DecidableEq, Repr

/-- The wording of a store error. -/
def StoreError.message : StoreError → String
  | .redis detail => "redis error: " ++ detail
  | .timedOut bound => "store transaction timed out after " ++ bound.text
  | .unavailable detail => "store unavailable: " ++ detail

/-- How a call comes to its end without a value: by an error of the store, or by a
second that the clock cannot hold. -/
inductive Fault
  | store (error : StoreError)
  | clock (overflow : Clock.Overflow)
  deriving DecidableEq, Repr

/-- The answer to a call: when it comes, what it says, and the state of the store
then. -/
structure Answer (σ α : Type) where
  delay : Duration
  result : Except Fault α
  state : σ

/-- A call that has been started: the state that the store keeps if the caller gives up
before the answer, and the answer, unless it never comes. -/
structure Call (σ α : Type) where
  abandoned : σ
  answer : Option (Answer σ α)

namespace Call

variable {σ τ α : Type}

/-- A call that is answered at once. -/
def now (before : σ) (result : Except Fault α) (after : σ) : Call σ α :=
  { abandoned := before
    answer := some { delay := .zero, result, state := after } }

/-- The same call with its states seen through `f`. -/
def mapState (f : σ → τ) (c : Call σ α) : Call τ α :=
  { abandoned := f c.abandoned
    answer := c.answer.map fun a => { delay := a.delay, result := a.result, state := f a.state } }

end Call

/-- What waiting for a call came to: the time it took, the state that the store is in,
and the call's result, or `none` if the bound ran out. -/
structure Waited (σ α : Type) where
  time : Duration
  result : Option (Except Fault α)
  state : σ

/-- Waits for the answer of a call, with a timer that is set to `bound`. -/
def Call.within [Timer] {σ α : Type} (bound : Duration) (c : Call σ α) : Waited σ α :=
  match c.answer with
  | none => { time := Timer.runs bound, result := none, state := c.abandoned }
  | some a =>
    if a.delay ≤ Timer.runs bound then
      { time := a.delay, result := some a.result, state := a.state }
    else { time := Timer.runs bound, result := none, state := c.abandoned }

theorem Call.within_eq_some [Timer] {σ α : Type} {bound : Duration} {c : Call σ α} {r : Except Fault α} :
    (c.within bound).result = some r ↔
      ∃ a, c.answer = some a ∧ a.delay ≤ Timer.runs bound ∧ a.result = r := by
  unfold Call.within
  cases c.answer with
  | none => simp
  | some a =>
    by_cases h : a.delay ≤ Timer.runs bound <;> simp [h]

/-- A counting store with states `σ`. -/
structure CountingStore (σ : Type) where
  /-- Records a hit and answers the size of the set. -/
  hit : σ → Hit → Call σ Nat
  /-- Asks for a sign of life. -/
  ping : σ → Call σ Unit
  /-- Hears that its caller gave up waiting. -/
  onTimeout : σ → σ := id

namespace CountingStore

variable {σ α : Type}

/-- Tells the store if waiting for it ran out. -/
def settle (store : CountingStore σ) (w : Waited σ α) : Waited σ α :=
  match w.result with
  | some _ => w
  | none => { w with state := store.onTimeout w.state }

/-- Records a hit, waiting at most `bound`. -/
def hitWithin [Timer] (store : CountingStore σ) (bound : Duration) (s : σ) (h : Hit) : Waited σ Nat :=
  store.settle ((store.hit s h).within bound)

/-- Asks for a sign of life, waiting at most `bound`. -/
def pingWithin [Timer] (store : CountingStore σ) (bound : Duration) (s : σ) : Waited σ Unit :=
  store.settle ((store.ping s).within bound)

end CountingStore

end QuotaGate
