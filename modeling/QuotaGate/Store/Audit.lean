/-
Audited stores: any counting store, with a record of the calls it got.

The record changes nothing in what the store answers; it says which calls were made, in
order, and when the store was told that its caller had given up.
-/
import QuotaGate.Store.Basic

namespace QuotaGate

/-- A call as a store gets it. -/
inductive Contact
  | hit (h : Hit)
  | ping
  | timeout
  deriving DecidableEq, Repr

/-- The state of an audited store: the record, latest call last, and the state of the
store itself. -/
structure Audited (σ : Type) where
  record : List Contact
  inner : σ

namespace Audited

variable {σ : Type}

/-- Adds a contact to the record. -/
def note (a : Audited σ) (c : Contact) : List Contact :=
  a.record ++ [c]

/-- The number of hits on the record. -/
def hits (a : Audited σ) : Nat :=
  a.record.countP fun c => match c with
    | .hit _ => true
    | _ => false

end Audited

/-- A store with a record of its calls. -/
def CountingStore.audited {σ : Type} (store : CountingStore σ) : CountingStore (Audited σ) where
  hit a h := (store.hit a.inner h).mapState (⟨a.note (.hit h), ·⟩)
  ping a := (store.ping a.inner).mapState (⟨a.note .ping, ·⟩)
  onTimeout a := ⟨a.note .timeout, store.onTimeout a.inner⟩

end QuotaGate
