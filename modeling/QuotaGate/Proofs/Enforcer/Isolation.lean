/-
Clients do not meet.

A key names one client, and a call touches the set of its own key and of no other.  So
what is decided on the requests of a client hangs on the set of its key alone, and this
set on the client's own requests and the purges: the requests of all others may be left
out of a run, and nothing changes for the client (`decisions_isolated`).

Design notes: a request that ends in a fault of the clock is a request like any other
here.  A fault of the first step leaves the set as it was, one of the second leaves the
members written and the end unmoved; either way it is a matter of its own key.
-/
import QuotaGate.Proofs.Enforcer.Run
import QuotaGate.Proofs.Naming

namespace QuotaGate

namespace Windows

/-- What a hit is answered, and what it makes of the set of its key, is told by this set,
whether or not the hit ends in a fault. -/
theorem hit_congr {w w' : Windows} {h : Hit} (hs : w.set h.key = w'.set h.key) :
    (w.hit h).2 = (w'.hit h).2 ∧ set (w.hit h).1 h.key = set (w'.hit h).1 h.key := by
  rw [hit, hit, hs]
  cases Clock.before h.now h.span with
  | error o => exact ⟨rfl, hs⟩
  | ok start =>
    cases Clock.after h.now h.span with
    | error o => simp [set]
    | ok expiry => simp [set]

end Windows

namespace Policy

/-- Whether a step stays in a run from which the requests of all clients but `c` are
taken. -/
def Step.stays (c : Client) : Step → Bool
  | .enforce a => a.client = c
  | .purge _ => true
  | .count _ _ => true

/-- The run without the requests of all clients but `c`. -/
def alone (c : Client) (steps : List Step) : List Step :=
  steps.filter (Step.stays c)

variable (p : Policy) {w w' : Windows} {c : Client}

/-- A step that stays leaves the client's set as the client's set tells. -/
theorem set_apply_congr [Timer] (hs : w.set (c.key p.space) = w'.set (c.key p.space)) {s : Step} (hc : s.stays c) :
    Windows.set (p.apply Windows.store w s) (c.key p.space)
      = Windows.set (p.apply Windows.store w' s) (c.key p.space) := by
  rw [apply_eq, apply_eq]
  cases s with
  | enforce a =>
    obtain rfl : a.client = c := of_decide_eq_true hc
    exact (Windows.hit_congr (h := a.hit p) hs).2
  | purge now =>
    change Windows.set (w.purge now).1 _ = Windows.set (w'.purge now).1 _
    rw [Windows.set_purge, Windows.set_purge, hs]
  | count key now => exact hs

/-- A step that is taken out does not touch the client's set. -/
theorem set_apply_of_not_stays [Timer] (w : Windows) {s : Step} (hc : ¬s.stays c) :
    Windows.set (p.apply Windows.store w s) (c.key p.space) = w.set (c.key p.space) := by
  rw [apply_eq]
  cases s with
  | enforce a =>
    have hne : a.client ≠ c := fun e => hc (decide_eq_true e)
    exact Windows.set_hit_of_ne w fun e => hne (Client.key_inj.1 e).symm
  | purge now => exact absurd rfl hc
  | count key now => exact absurd rfl hc

/-- The client's set after a run, and what is decided on the client's requests in it, are
those of the client alone, also from another state with the same set. -/
theorem alone_congr [Timer] (hs : w.set (c.key p.space) = w'.set (c.key p.space)) (steps : List Step) :
    (p.decisions Windows.store w steps).filter (fun d => d.1.client = c)
        = p.decisions Windows.store w' (alone c steps)
      ∧ Windows.set (p.after Windows.store w steps) (c.key p.space)
        = Windows.set (p.after Windows.store w' (alone c steps)) (c.key p.space) := by
  -- The requests of others drive the two states apart, but for the client's set; so the
  -- induction is over all pairs of states that have this set in common.
  induction steps generalizing w w' with
  | nil => exact ⟨rfl, hs⟩
  | cons s steps ih =>
    by_cases hc : s.stays c
    · have halone : alone c (s :: steps) = s :: alone c steps := List.filter_cons_of_pos hc
      obtain ⟨hd, ha⟩ := ih (p.set_apply_congr hs hc)
      rw [halone]
      refine ⟨?_, ha⟩
      cases s with
      | enforce a =>
        have hclient : a.client = c := of_decide_eq_true hc
        have houtcome : (p.enforce Windows.store w a.client a.now a.nonce).outcome
            = (p.enforce Windows.store w' a.client a.now a.nonce).outcome := by
          subst hclient
          rw [(p.enforce_eq w a).1, (p.enforce_eq w' a).1, (Windows.hit_congr (h := a.hit p) hs).1]
        rw [decisions, decisions, List.filter_cons_of_pos (by simpa using hclient), hd, houtcome]
      | purge now => exact hd
      | count key now => exact hd
    · have halone : alone c (s :: steps) = alone c steps := List.filter_cons_of_neg hc
      obtain ⟨hd, ha⟩ := ih ((p.set_apply_of_not_stays w hc).trans hs)
      rw [halone]
      refine ⟨?_, ha⟩
      cases s with
      | enforce a =>
        have hclient : a.client ≠ c := fun e => hc (decide_eq_true e)
        rw [decisions, List.filter_cons_of_neg (by simpa using hclient), hd]
      | purge now => exact absurd rfl hc
      | count key now => exact absurd rfl hc

/-- **Clients are isolated.**  No two clients share a key, whatever the name space.  In
any run, from any state and at any seconds, the requests of a client are decided one for
one as in the run without the requests of all others; and the two runs leave the client's
set the same. -/
theorem decisions_isolated [Timer] :
    (∀ space : String, Function.Injective (Client.key space))
      ∧ ∀ (p : Policy) (w : Windows) (steps : List Step) (c : Client),
        (p.decisions Windows.store w steps).filter (fun d => d.1.client = c)
            = p.decisions Windows.store w (alone c steps)
          ∧ Windows.set (p.after Windows.store w steps) (c.key p.space)
            = Windows.set (p.after Windows.store w (alone c steps)) (c.key p.space) :=
  ⟨fun _ _ _ h => Client.key_inj.1 h, fun p _ steps _ => p.alone_congr rfl steps⟩

end Policy

end QuotaGate
