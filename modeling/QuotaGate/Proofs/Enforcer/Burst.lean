/-
A burst of requests within one second.

However many requests come within a second, and whoever sends them, each client is let
through as often as it has requests left, and no more: its first requests pass, the rest
are rejected, and the counts go up by one from what is live in its window
(`decisions_of_client`).  In what order the clients come does not matter, nor does it for
anything that is decided later (`after_reordered`).

Design notes: the state before the burst may be any at all, also one that requests out of
order have left.  Only the first hit on a key can find its set past the end, and only it
can drop anything; the members of the burst are new, so that none drops another.
-/
import QuotaGate.Proofs.Enforcer.Isolation
import QuotaGate.Proofs.Enforcer.Window
import QuotaGate.Proofs.Store.Reordering

namespace QuotaGate

/-- How many entries of a set are live at `now` and come after `start`. -/
def WindowSet.inWindow (s : WindowSet) (start now : Int) : Nat :=
  (young start (s.live now)).length

namespace WindowSet

variable {s : WindowSet} {x : Hit}

/-- A hit with a new member keeps just the entries in its window. -/
theorem filter_keeps_of_fresh (hnew : ∀ e ∈ s.entries, e.member ≠ x.member) :
    (s.live x.now).filter x.keeps = young (x.now - x.span) (s.live x.now) := by
  refine List.filter_congr fun e he => ?_
  have hne := hnew e ((live_sublist s _).mem he)
  simp [Hit.keeps, hne]

theorem length_record_of_fresh (hnew : ∀ e ∈ s.entries, e.member ≠ x.member) :
    (s.record x).entries.length = s.inWindow (x.now - x.span) x.now + 1 := by
  rw [entries_record, filter_keeps_of_fresh hnew, List.length_append]
  rfl

theorem inWindow_record_of_fresh (hpos : 0 < x.span) (hnew : ∀ e ∈ s.entries, e.member ≠ x.member) :
    (s.record x).inWindow (x.now - x.span) x.now = s.inWindow (x.now - x.span) x.now + 1 := by
  have hend : x.now < (s.record x).expiresAt := by
    rw [expiresAt_record]
    omega
  have hyoung : young (x.now - x.span) (s.record x).entries = (s.record x).entries := by
    refine List.filter_eq_self.2 fun e he => decide_eq_true ?_
    rw [entries_record, filter_keeps_of_fresh hnew] at he
    rcases List.mem_append.1 he with he | he
    · exact of_decide_eq_true (List.mem_filter.1 he).2
    · obtain rfl := List.mem_singleton.1 he
      simp only [Hit.entry]
      omega
  rw [inWindow, live_of_lt hend, hyoung, length_record_of_fresh hnew]

end WindowSet

namespace Policy

/-- A run of requests alone. -/
def requests (as : List Arrival) : List Step :=
  as.map .enforce

/-- A burst at `now`: requests of that second, whose members are neither stored nor the same
for two of them. -/
structure Burst (p : Policy) (w : Windows) (now : Int) (as : List Arrival) : Prop where
  now_eq : ∀ a ∈ as, a.now = now
  holds : Clock.Holds (now - p.span) ∧ Clock.Holds (now + p.span)
  nodup : as.Nodup
  fresh : ∀ a ∈ as, ∀ e ∈ (w.set (a.client.key p.space)).entries, e.member ≠ member now a.nonce

namespace Burst

variable {p : Policy} {w : Windows} {now : Int} {as : List Arrival}

theorem sublist {as' : List Arrival} (h : p.Burst w now as) (hs : as'.Sublist as) : p.Burst w now as' :=
  ⟨fun a ha => h.now_eq a (hs.mem ha), h.holds, h.nodup.sublist hs, fun a ha => h.fresh a (hs.mem ha)⟩

theorem fits (h : p.Burst w now as) {a : Arrival} (ha : a ∈ as) : a.Fits p := by
  have hnow := h.now_eq a ha
  have hholds := h.holds
  rw [← hnow] at hholds
  exact hholds

theorem simultaneous (h : p.Burst w now as) {a b : Arrival} (ha : a ∈ as) (hb : b ∈ as) :
    (a.hit p).Simultaneous (b.hit p) where
  now := (h.now_eq a ha).trans (h.now_eq b hb).symm
  span := rfl
  span_pos := p.span_pos
  fits := h.fits ha

/-- What is left of a burst after its first request is a burst in the state that this
leaves. -/
theorem tail [Timer] {a : Arrival} (h : p.Burst w now (a :: as)) :
    p.Burst (p.apply Windows.store w (.enforce a)) now as := by
  refine ⟨(h.sublist (List.sublist_cons_self a as)).now_eq, h.holds, (List.nodup_cons.1 h.nodup).2, fun b hb e he => ?_⟩
  have hbefore := h.fresh b (List.mem_cons_of_mem _ hb)
  rw [p.apply_eq] at he
  rcases Windows.mem_entries_hit he with he | ⟨hkey, rfl⟩
  · exact hbefore e he
  · -- The entry of the first request: another one of its client has another identifier.
    have hclient : b.client = a.client := Client.key_inj.1 hkey
    intro hmember
    have hnonce : a.nonce = b.nonce := (member_inj.1 hmember).2
    have hab : a = b := by
      have ha := h.now_eq a List.mem_cons_self
      have hb := h.now_eq b (List.mem_cons_of_mem _ hb)
      cases a
      cases b
      simp_all
    exact (List.nodup_cons.1 h.nodup).1 (hab ▸ hb)

end Burst

variable (p : Policy)

/-- The requests of one client in a burst: each is counted on top of what was in the window
and of those before it. -/
theorem decisions_of_client [Timer] {w : Windows} {now : Int} {c : Client} {as : List Arrival} (h : p.Burst w now as)
    (hc : ∀ a ∈ as, a.client = c) :
    p.decisions Windows.store w (requests as)
      = as.mapIdx fun i a => (a, .ok (.ofStatus (.ofCount p.quota
          ((w.set (c.key p.space)).inWindow (now - p.span) now + (i + 1)) now (now + p.span)))) := by
  induction as generalizing w with
  | nil => rfl
  | cons a as ih =>
    obtain rfl := hc a List.mem_cons_self
    obtain rfl := h.now_eq a List.mem_cons_self
    have hfit := h.fits List.mem_cons_self
    have hnew := h.fresh a List.mem_cons_self
    have hset : Windows.set (p.apply Windows.store w (.enforce a)) (a.client.key p.space)
        = (w.set (a.client.key p.space)).record (a.hit p) := by
      rw [p.apply_eq]
      exact Windows.set_hit_self w (h := a.hit p) hfit
    have hlength := WindowSet.length_record_of_fresh (x := a.hit p) hnew
    have hwindow : ((w.set (a.client.key p.space)).record (a.hit p)).inWindow (a.now - p.span) a.now
        = (w.set (a.client.key p.space)).inWindow (a.now - p.span) a.now + 1 :=
      WindowSet.inWindow_record_of_fresh (x := a.hit p) p.span_pos hnew
    have hrest := ih h.tail fun b hb => hc b (List.mem_cons_of_mem _ hb)
    rw [hset, hwindow] at hrest
    rw [requests, List.map_cons, decisions, p.outcome_eq w hfit, hlength, List.mapIdx_cons]
    refine congrArg _ (hrest.trans (List.mapIdx_eq_mapIdx_iff.2 fun i _ => ?_))
    rw [Nat.add_assoc, Nat.add_comm 1]

/-- The requests of a client in a burst are decided as if they came alone. -/
theorem filter_decisions_burst [Timer] {w : Windows} {now : Int} {as : List Arrival} (h : p.Burst w now as)
    (c : Client) :
    (p.decisions Windows.store w (requests as)).filter (fun d => d.1.client = c)
      = (as.filter fun a => a.client = c).mapIdx fun i a => (a, .ok (.ofStatus (.ofCount p.quota
          ((w.set (c.key p.space)).inWindow (now - p.span) now + (i + 1)) now (now + p.span)))) := by
  have halone : alone c (requests as) = requests (as.filter fun a => a.client = c) := by
    rw [alone, requests, List.filter_map]
    rfl
  rw [(p.alone_congr (c := c) rfl (requests as)).1, halone]
  exact p.decisions_of_client (h.sublist List.filter_sublist) fun a ha => of_decide_eq_true (List.mem_filter.1 ha).2

/-! ### Order -/

/-- States that differ in the order within the sets decide all later requests alike. -/
theorem decisions_congr [Timer] {w w' : Windows} (h : w.Reordered w') (steps : List Step) :
    p.decisions Windows.store w steps = p.decisions Windows.store w' steps := by
  induction steps generalizing w w' with
  | nil => rfl
  | cons s steps ih =>
    have hnext := ih (h.apply (s.op p))
    rw [← p.apply_eq, ← p.apply_eq] at hnext
    cases s with
    | enforce a => rw [decisions, decisions, hnext, (p.enforce_eq w a).1, (p.enforce_eq w' a).1, (h.hit (a.hit p)).1]
    | purge now => exact hnext
    | count key now => exact hnext

theorem after_reordered [Timer] {w : Windows} {now : Int} {as as' : List Arrival} (h : p.Burst w now as)
    (hp : as.Perm as') :
    (p.after Windows.store w (requests as)).Reordered (p.after Windows.store w (requests as')) := by
  have hops : ∀ bs : List Arrival, (requests bs).map (Step.op p) = (bs.map (Arrival.hit p)).map .hit := by
    intro bs
    rw [requests, List.map_map, List.map_map]
    rfl
  rw [p.after_eq, p.after_eq, hops, hops]
  refine Windows.after_perm (hp.map _) (fun x hx y hy => ?_) w
  obtain ⟨a, ha, rfl⟩ := List.mem_map.1 hx
  obtain ⟨b, hb, rfl⟩ := List.mem_map.1 hy
  exact h.simultaneous ha hb

/-! ### What a burst lets pass -/

theorem countP_mapIdx_lt {α β : Type} {p : β → Bool} {f : Nat → α → β} {m : Nat} (l : List α)
    (hp : ∀ i a, p (f i a) = decide (i < m)) : (l.mapIdx f).countP p = min l.length m := by
  induction l generalizing f m with
  | nil => simp
  | cons a l ih =>
    have hshift : ∀ i b, p (f (i + 1) b) = decide (i < m - 1) := by
      intro i b
      rw [hp]
      exact decide_eq_decide.2 (by omega)
    rw [List.mapIdx_cons, List.countP_cons, ih hshift, hp]
    simp only [decide_eq_true_eq, List.length_cons]
    split <;> omega

/-- On top of `n` requests, the next ones are allowed that the quota leaves. -/
theorem ofStatus_ofCount_add (quota n i : Nat) (now resetAt : Int) :
    Decision.ofStatus (.ofCount quota (n + (i + 1)) now resetAt)
      = if i < quota - n then .allowed (.ofCount quota (n + (i + 1)) now resetAt)
        else .rejected (.ofCount quota (n + (i + 1)) now resetAt) := by
  have hlimit : (Status.ofCount quota (n + (i + 1)) now resetAt).limit < (Status.ofCount quota (n + (i + 1)) now resetAt).count
      ↔ ¬i < quota - n := by
    simp only [Status.ofCount]
    omega
  by_cases hi : i < quota - n
  · rw [Decision.ofStatus, if_neg fun h => hlimit.1 h hi, if_pos hi]
  · rw [Decision.ofStatus, if_pos (hlimit.2 hi), if_neg hi]

/-- **A burst admits exactly what is left, in any order.**  From any state, of the requests
that a client has in a burst the first are allowed, as many as the quota leaves beside what
is live in the client's window, and the others are rejected; the counts go up from there
one by one.  The same requests in another order leave every key with the same entries and
the same end, and so decide all that comes later alike. -/
theorem burst_admits [Timer] {w : Windows} {now : Int} {as : List Arrival} (h : p.Burst w now as) :
    (∀ c : Client,
      let live := (w.set (c.key p.space)).inWindow (now - p.span) now
      let own := as.filter fun a => a.client = c
      let status := fun i : Nat => Status.ofCount p.quota (live + (i + 1)) now (now + p.span)
      let decided := (p.decisions Windows.store w (requests as)).filter fun d => d.1.client = c
      decided = own.mapIdx (fun i a =>
          (a, .ok (if i < p.quota - live then .allowed (status i) else .rejected (status i))))
        ∧ decided.countP (fun d => passed d.2) = min own.length (p.quota - live))
      ∧ ∀ as' : List Arrival, as.Perm as' →
        (p.after Windows.store w (requests as)).Reordered (p.after Windows.store w (requests as'))
          ∧ ∀ later : List Step,
            p.decisions Windows.store (p.after Windows.store w (requests as)) later
              = p.decisions Windows.store (p.after Windows.store w (requests as')) later := by
  refine ⟨fun c => ?_, fun as' hp => ⟨p.after_reordered h hp, p.decisions_congr (p.after_reordered h hp)⟩⟩
  intro live own status decided
  have hdecided : decided = own.mapIdx fun i a =>
      (a, .ok (if i < p.quota - live then .allowed (status i) else .rejected (status i))) := by
    refine (p.filter_decisions_burst h c).trans (List.mapIdx_eq_mapIdx_iff.2 fun i _ => ?_)
    rw [ofStatus_ofCount_add]
  refine ⟨hdecided, ?_⟩
  rw [hdecided]
  refine countP_mapIdx_lt own fun i a => ?_
  by_cases hi : i < p.quota - live
  · simp [hi, passed, Except.toOption, Decision.isAllowed]
  · simp [hi, passed, Except.toOption, Decision.isAllowed]

/-- What requests out of order have left: the set of user 42 ends at second 100, though one
of its entries is of second 104. -/
def unsettled [Timer] : Windows :=
  twiceAMinute.after Windows.store .empty
    [.enforce ⟨.user "42", 104, "a"⟩, .enforce ⟨.address "42", 60, "a"⟩, .enforce ⟨.user "42", 40, "b"⟩]

/-- Five requests of two clients at second 101, of which one begins afresh and the other has
one request left. -/
def rush : List Arrival :=
  [⟨.user "42", 101, "c"⟩, ⟨.address "42", 101, "c"⟩, ⟨.user "42", 101, "d"⟩, ⟨.address "42", 101, "d"⟩,
    ⟨.user "42", 101, "e"⟩]

theorem rush_admits :
    twiceAMinute.Burst unsettled 101 rush
      ∧ ((twiceAMinute.decisions Windows.store unsettled (requests rush)).filter fun d => d.1.client = .user "42").countP
        (fun d => passed d.2) = 2
      ∧ ((twiceAMinute.decisions Windows.store unsettled (requests rush)).filter fun d => d.1.client = .address "42").countP
        (fun d => passed d.2) = 1
      ∧ (twiceAMinute.after Windows.store unsettled (requests rush)).Reordered
        (twiceAMinute.after Windows.store unsettled (requests rush.reverse)) := by
  have hburst : twiceAMinute.Burst unsettled 101 rush := ⟨by decide, by decide, by decide, by decide⟩
  obtain ⟨hadmits, horder⟩ := twiceAMinute.burst_admits hburst
  exact ⟨hburst, (hadmits (.user "42")).2.trans (by decide), (hadmits (.address "42")).2.trans (by decide),
    (horder _ rush.reverse_perm.symm).1⟩

end Policy

end QuotaGate
