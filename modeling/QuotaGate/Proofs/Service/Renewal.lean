/-
The end of a window, as it is announced and as it comes.

An answer of the limited endpoint tells its client at which second the window will have
ended, and a rejection how long that is.  Both hold good: from that second on nothing of the
client is live any more, whatever the others do until then and however often the sets are
purged.  So the client's next request, if it comes then, is the first of a new window.

* `Windows.Rests` — nothing of a key is live from some second on; hits on other keys and
  purges leave it so;
* `Service.served` — the answers of a run of requests and purges;
* `Service.rests_react` — what happens between two requests of a client leaves it at rest;
* `Service.announcements_kept` — a request that comes when it was told to is the first of a
  new window.

Design notes: the seconds of a run are in no order, so that a set may be past its end at one
request and not yet at the next.  The run starts in any state, with sets that any other run
may have left.
-/
import Mathlib.Data.List.Chain
import QuotaGate.Proofs.Service.Advice
import QuotaGate.Proofs.Service.Conservation
import QuotaGate.Proofs.Store.Purge

namespace QuotaGate

/-! ### Keys at rest -/

namespace Windows

/-- Nothing of a key is live from the second `t` on. -/
def Rests (w : Windows) (k : String) (t : Int) : Prop :=
  ∀ u, t ≤ u → (w.set k).live u = []

namespace Rests

variable {w : Windows} {k : String} {t : Int}

/-- After a hit, its key rests from the end of the window on, whatever was there before. -/
theorem hit_self (w : Windows) {h : Hit} (hh : h.Fits) : Rests (w.hit h).1 h.key (h.now + h.span) := by
  intro u hu
  rw [set_hit_self w hh]
  exact WindowSet.live_of_le hu

theorem hit_of_ne (hw : w.Rests k t) {h : Hit} (hk : k ≠ h.key) : Rests (w.hit h).1 k t := by
  intro u hu
  rw [set_hit_of_ne w hk]
  exact hw u hu

theorem purge (hw : w.Rests k t) (now : Int) : Rests (w.purge now).1 k t := by
  intro u hu
  rw [set_purge]
  split
  · exact WindowSet.live_fresh u
  · exact hw u hu

/-- A hit on a key at rest counts one. -/
theorem length_record {h : Hit} (hw : w.Rests h.key t) (hnow : t ≤ h.now) :
    ((w.set h.key).record h).entries.length = 1 := by
  rw [WindowSet.entries_record, hw h.now hnow]
  rfl

end Rests

end Windows

/-! ### Runs of requests and purges -/

namespace Service

/-- What happens to a service whose window sets are held in the process. -/
inductive Event
  | visit (v : Visit)
  | purge (now : Int)

variable (svc : Service) {r : Running Windows} {c : Client}

/-- The state that an event leaves. -/
def react [Timer] (r : Running Windows) : Event → Running Windows
  | .visit v => (svc.visit Windows.store r v).2
  | .purge now => { r with store := (r.store.purge now).1 }

/-- The requests of a run, each with its answer. -/
def served [Timer] (r : Running Windows) : List Event → List Served
  | [] => []
  | .visit v :: rest => (v, (svc.visit Windows.store r v).1) :: served (svc.react r (.visit v)) rest
  | .purge now :: rest => served (svc.react r (.purge now)) rest

/-- Whether a request is one of the client `c` to the limited endpoint. -/
def isFrom (c : Client) (v : Visit) : Bool :=
  v.isPing && decide (Attribution.client svc.gateway svc.trust v.request = c)

/-- An event is no such request. -/
def spares (c : Client) : Event → Prop
  | .visit v => ¬svc.isFrom c v
  | .purge _ => True

variable {svc}

theorem isFrom_iff {v : Visit} : svc.isFrom c v ↔
    v.request.path = "/api/ping" ∧ Attribution.client svc.gateway svc.trust v.request = c := by
  rw [isFrom, Bool.and_eq_true, Visit.isPing_iff, decide_eq_true_eq]

variable [Timer]

/-- A request of a client is answered with the size that the client's set then has. -/
theorem visit_of_isFrom (r : Running Windows) {v : Visit} (hv : svc.isFrom c v) {now : Int}
    (hm : v.moment.read = .ok now) :
    let hit := svc.policy.hitFor c now v.nonce
    (svc.visit Windows.store r v).2.store = (r.store.hit hit).1
      ∧ ∃ res, (svc.visit Windows.store r v).1 = .ok res
        ∧ Counted svc.policy v.request.method now ((r.store.set hit.key).record hit).entries.length res := by
  intro hit
  obtain ⟨hpath, hclient⟩ := isFrom_iff.1 hv
  let a : Arrival := ⟨c, now, v.nonce⟩
  have hfit : a.Fits svc.policy := svc.policy.hitFor_fits (Clock.Moment.roomy hm) c v.nonce
  obtain ⟨hanswer, hstore⟩ := svc.respond_ping_eq Windows.store r v.nonce v.elapsed hm hpath
  rw [hclient] at hanswer hstore
  have hstate := hstore.trans (svc.policy.enforce_eq r.store a).2
  have houtcome := svc.policy.outcome_eq r.store hfit
  have hres := hanswer _ houtcome
  have hcounted := counted_afterDecision svc.policy v.request.method now
    ((r.store.set hit.key).record hit).entries.length
  exact ⟨hstate, _, hres, hcounted⟩

/-- What is no request of a client leaves it at rest. -/
theorem rests_react {t : Int} (hr : r.store.Rests (c.key svc.policy.space) t) {e : Event} (he : svc.spares c e) :
    (svc.react r e).store.Rests (c.key svc.policy.space) t := by
  cases e with
  | purge now => exact hr.purge now
  | visit v =>
    by_cases hv : v.isPing
    · have hpath := Visit.isPing_iff.1 hv
      cases hm : v.moment.read with
      | error x =>
        rw [react, visit, svc.respond_of_unreadable Windows.store r _ _ hm hpath]
        exact hr
      | ok now =>
        -- The request of somebody else, and so a hit on another key.
        have hother : svc.isFrom (Attribution.client svc.gateway svc.trust v.request) v := isFrom_iff.2 ⟨hpath, rfl⟩
        have hne : c ≠ Attribution.client svc.gateway svc.trust v.request := fun h => he (h ▸ hother)
        rw [react, (visit_of_isFrom r hother hm).1]
        exact hr.hit_of_ne fun h => hne (Client.key_inj.1 h)
    · have hsame : (svc.visit Windows.store r v).2.store = r.store :=
        (svc.visit_other Windows.store r hv).2.2.1 id Windows.pingsKeep
      rw [react, hsame]
      exact hr

end Service

/-! ### Announcements -/

/-- An answer at the second `t` announces the end of the window, and if it is a rejection,
also how long that is. -/
structure Response.Announces (res : Response) (t reset : Int) : Prop where
  ending : res.headers.all Advice.resetName = [Advice.value reset]
  retry : res.status = 429 → ∃ wait, res.headers.all Advice.retryName = [Advice.value wait] ∧ t + wait = reset

/-- A request was answered as the first of a window with a quota of `quota`: it was let
through, and all but one of the quota is left. -/
def Served.Renewed (quota : Nat) (x : Served) : Prop :=
  ∃ res, x.2 = .ok res
    ∧ res.status = (if x.1.request.method = "GET" ∨ x.1.request.method = "HEAD" then 200 else 405)
    ∧ res.headers.all Advice.remainingName = [Advice.value (quota - 1)]
    ∧ res.headers.all Advice.retryName = []

/-- If `y` comes no earlier than the end that was announced to `x`, it is the first of a new
window. -/
def Served.RenewedFrom (quota : Nat) (x y : Served) : Prop :=
  ∀ res reset u, x.2 = .ok res → res.headers.all Advice.resetName = [Advice.value reset] →
    y.1.moment.read = .ok u → reset ≤ u → y.Renewed quota

/-- A request was rejected. -/
def Served.Rejected (x : Served) : Prop :=
  ∃ res, x.2 = .ok res ∧ res.status = 429

/-- The request `y` comes no earlier than `x` was told to. -/
def Served.Awaits (x y : Served) : Prop :=
  ∀ res t wait u, x.2 = .ok res → x.1.moment.read = .ok t → res.headers.all Advice.retryName = [Advice.value wait] →
    y.1.moment.read = .ok u → t + wait ≤ u

namespace Service

variable {svc : Service} {r : Running Windows} {c : Client}

theorem Counted.announces {p : Policy} {method : String} {now : Int} {count : Nat} {res : Response}
    (h : Counted p method now count res) : res.Announces now (now + p.span) where
  ending := h.reset
  retry h429 := ⟨p.span, (h.rejected (h.status.1 h429)).1, rfl⟩

/-- A count of one is within any quota. -/
theorem Counted.renewed {p : Policy} {v : Visit} {now : Int} {res : Response}
    (h : Counted p v.request.method now 1 res) : Served.Renewed p.quota (v, .ok res) := by
  have hquota := p.quota_pos
  obtain ⟨hstatus, -, hown⟩ := h.passed (by omega)
  refine ⟨res, rfl, hstatus.trans (status_ownAnswer _), h.remaining.trans ?_, ?_⟩
  · rw [Int.max_eq_right (by omega)]
    rfl
  · rw [hown _ (by decide)]
    exact all_ownAnswer _ (by decide)

section

variable [Timer]

/-- If a client is at rest, the first of its requests that comes from then on is the first
of a new window. -/
theorem renewed_of_rests {events : List Event} {t : Int} (hr : r.store.Rests (c.key svc.policy.space) t)
    {y : Served} (hy : y ∈ ((svc.served r events).filter fun x => svc.isFrom c x.1).head?) {u : Int}
    (hm : y.1.moment.read = .ok u) (hu : t ≤ u) : y.Renewed svc.policy.quota := by
  induction events generalizing r with
  | nil => cases hy
  | cons e events ih =>
    cases e with
    | purge now => exact ih (rests_react hr (e := .purge now) trivial) hy
    | visit v =>
      rw [served] at hy
      by_cases hv : svc.isFrom c v
      · rw [List.filter_cons, if_pos hv, List.head?_cons, Option.mem_some_iff] at hy
        subst hy
        obtain ⟨-, res, hres, hcounted⟩ := visit_of_isFrom r hv hm
        have hone := Windows.Rests.length_record (h := svc.policy.hitFor c u v.nonce) hr hu
        rw [hone] at hcounted
        rw [hres]
        exact hcounted.renewed
      · rw [List.filter_cons, if_neg hv] at hy
        exact ih (rests_react hr (e := .visit v) hv) hy

/-- Every request of a client whose moment can be told is answered with an announcement,
from which on the client is at rest. -/
theorem announces_visit (r : Running Windows) {v : Visit} (hv : svc.isFrom c v) {t : Int} (hm : v.moment.read = .ok t) :
    ∃ res reset, (svc.visit Windows.store r v).1 = .ok res ∧ res.Announces t reset
      ∧ (svc.react r (.visit v)).store.Rests (c.key svc.policy.space) reset := by
  obtain ⟨hstore, res, hres, hcounted⟩ := visit_of_isFrom r hv hm
  refine ⟨res, t + svc.policy.span, hres, hcounted.announces, ?_⟩
  rw [react, hstore]
  exact Windows.Rests.hit_self r.store (svc.policy.hitFor_fits (Clock.Moment.roomy hm) c v.nonce)

/-- Only a moment that can be told gets an answer. -/
theorem exists_read_of_visit {v : Visit} (hv : svc.isFrom c v) {res : Response}
    (h : (svc.visit Windows.store r v).1 = .ok res) : ∃ t, v.moment.read = .ok t := by
  cases hm : v.moment.read with
  | ok t => exact ⟨t, rfl⟩
  | error x =>
    rw [visit, svc.respond_of_unreadable Windows.store r _ _ hm (isFrom_iff.1 hv).1] at h
    cases h

/-- A property of the requests of a client holds in a run if it does of each of them, from any
state. -/
theorem served_induction (svc : Service) (c : Client) {P : Served → Prop}
    (h : ∀ r v, svc.isFrom c v → P (v, (svc.visit Windows.store r v).1)) (r : Running Windows) (events : List Event) :
    ∀ x ∈ (svc.served r events).filter (fun x => svc.isFrom c x.1), P x := by
  induction events generalizing r with
  | nil => nofun
  | cons e events ih =>
    cases e with
    | purge now => exact ih _
    | visit v =>
      rw [served, List.filter_cons]
      split
      · exact List.forall_mem_cons.2 ⟨h r v ‹_›, ih _⟩
      · exact ih _

theorem isChain_served (svc : Service) (c : Client) (r : Running Windows) (events : List Event) :
    ((svc.served r events).filter fun x => svc.isFrom c x.1).IsChain (Served.RenewedFrom svc.policy.quota) := by
  induction events generalizing r with
  | nil => exact .nil
  | cons e events ih =>
    cases e with
    | purge now => exact ih _
    | visit v =>
      rw [served]
      by_cases hv : svc.isFrom c v
      · rw [List.filter_cons, if_pos hv, List.isChain_cons]
        refine ⟨fun y hy res reset u hres hreset hm hu => ?_, ih _⟩
        obtain ⟨t, ht⟩ := exists_read_of_visit hv hres
        obtain ⟨res', reset', hres', hannounced, hrests⟩ := announces_visit r hv ht
        obtain rfl := Except.ok.inj (hres.symm.trans hres')
        obtain rfl := Advice.value_inj.1 (List.cons.inj (hreset.symm.trans hannounced.ending)).1
        exact renewed_of_rests hrests hy hm hu
      · rw [List.filter_cons, if_neg hv]
        exact ih _

/-- **What is announced holds good.**  In any run of requests and purges, at seconds in any
order, every request of a client that is answered is told when its window will have ended.
If the client's next request comes no earlier, it is let through as the first of a new
window, whatever happened in between.  So no client that waits for as long as it is told to is
rejected twice in a row. -/
theorem announcements_kept (svc : Service) (r : Running Windows) (events : List Event) (c : Client) :
    let mine := (svc.served r events).filter fun x => svc.isFrom c x.1
    (∀ x ∈ mine, ∀ t, x.1.moment.read = .ok t → ∃ res reset, x.2 = .ok res ∧ res.Announces t reset)
      ∧ mine.IsChain (Served.RenewedFrom svc.policy.quota)
      ∧ mine.IsChain fun x y => x.Rejected → x.Awaits y → ¬y.Rejected := by
  intro mine
  have hannounced : ∀ x ∈ mine, ∀ t, x.1.moment.read = .ok t → ∃ res reset, x.2 = .ok res ∧ res.Announces t reset := by
    refine svc.served_induction c (fun r v hv t ht => ?_) r events
    obtain ⟨res, reset, hres, h, -⟩ := announces_visit r hv ht
    exact ⟨res, reset, hres, h⟩
  have hreadable : ∀ x ∈ mine, ∀ res, x.2 = .ok res → ∃ t, x.1.moment.read = .ok t :=
    svc.served_induction c (fun r v hv res h => exists_read_of_visit hv h) r events
  have hchain := svc.isChain_served c r events
  refine ⟨hannounced, hchain, List.IsChain.imp_of_mem_imp (fun x y hx hy hxy => ?_) hchain⟩
  rintro ⟨res, hres, h429⟩ hawaits ⟨res', hres', h429'⟩
  obtain ⟨t, ht⟩ := hreadable x hx res hres
  obtain ⟨u, hu⟩ := hreadable y hy res' hres'
  obtain ⟨res₂, reset, hres₂, h⟩ := hannounced x hx t ht
  obtain rfl := Except.ok.inj (hres.symm.trans hres₂)
  obtain ⟨wait, hwait, rfl⟩ := h.retry h429
  obtain ⟨res₃, hres₃, hstatus, -⟩ := hxy res _ u hres h.ending hu (hawaits res t wait u hres ht hwait hu)
  obtain rfl := Except.ok.inj (hres'.symm.trans hres₃)
  rw [h429'] at hstatus
  split at hstatus <;> cases hstatus

end

/-- A request of a user to the limited endpoint. -/
def pingAt (second : Int) (user : String) : Event :=
  .visit ⟨⟨second, 0⟩, Numeral.ofInt second, .zero, { pingOf "GET" with user := some user }⟩

/-- Five requests of user 42, a sixth that is stamped earlier, and a seventh just when that one
was told to come again. -/
def impatientRun : List Event :=
  [pingAt 100 "42", pingAt 101 "42", pingAt 102 "42", pingAt 103 "42", pingAt 104 "42", pingAt 90 "42",
    pingAt 9000 "43", .purge 3689, pingAt 20 "43", pingAt 3690 "42"]

theorem impatientRun_kept :
    ∃ y z, (((fivePerHour (.ofMillis 250)).served ⟨.empty, .fresh⟩ impatientRun).filter
        fun x => (fivePerHour (.ofMillis 250)).isFrom (.user "42") x.1).drop 5 = [y, z]
      ∧ y.2.map (fun res => (res.status, res.headers.all Advice.retryName, res.headers.all Advice.resetName))
        = .ok (429, [Advice.value 3600], [Advice.value 3690])
      ∧ (y.1.moment.read = .ok 90 ∧ z.1.moment.read = .ok 3690) ∧ z.Renewed 5 := by
  obtain ⟨-, hchain, -⟩ := (fivePerHour (.ofMillis 250)).announcements_kept ⟨.empty, .fresh⟩ impatientRun (.user "42")
  refine ⟨_, _, rfl, by decide, ⟨rfl, rfl⟩, ?_⟩
  exact (List.isChain_cons_cons.1 (hchain.drop 5)).1 _ 3690 3690 rfl (by decide) rfl (by decide)

end Service

end QuotaGate
