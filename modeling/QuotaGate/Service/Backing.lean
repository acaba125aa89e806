/-
What a service counts in.

A backing is a counting store, with the state that it starts in.  Window sets that are
held in the process can be reached beside the store, so that they may be purged from time
to time; what a shared server holds is its own affair.
-/
import QuotaGate.Redis.Session
import QuotaGate.Settings
import QuotaGate.Store.Memory

namespace QuotaGate

/-- A way to the window sets within the states of a store. -/
structure Handle (σ : Type) where
  windows : σ → Windows
  replace : σ → Windows → σ
  windows_replace : ∀ s w, windows (replace s w) = w

/-- A counting store and its first state. -/
structure Backing where
  State : Type
  store : CountingStore State
  start : State
  /-- The way to the window sets held in the process, if these are what is counted in. -/
  handle? : Option (Handle State)

/-- The backing that settings ask for; of the two stores only a shared one has a server. -/
def Backing.ofBackend [Redis.Decoding] (server : List Redis.Turn) : Backend → Backing
  | .memory =>
    { State := Windows
      store := Windows.store
      start := .empty
      handle? := some { windows := id, replace := fun _ w => w, windows_replace := fun _ _ => rfl } }
  | .redis =>
    { State := Redis.Link
      store := Redis.Link.store
      start := { session := .fresh, server }
      handle? := none }

end QuotaGate
