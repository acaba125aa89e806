/-
The sliding window, seen from the requests.

In a run whose steps come at most `skew` seconds behind each other, and whose
identifiers tell the requests of a client in one second apart, the count of a request
lies between the number of the client's earlier requests in the window, and the number
of those in the window cut by twice the skew (`count_bounds`).  So

* `decision_eq_of_ordered` — on a clock that never steps back the count is exact;
* `passed_le_quota` — on any clock no interval, cut likewise, lets more requests of a
  client pass than the quota.

Design notes: rejected requests count like the others, so the reference needs no
decisions: it is a count over the requests alone.
-/
import Mathlib.Data.List.Nodup
import QuotaGate.Proofs.Enforcer.Run
import QuotaGate.Proofs.Naming
import QuotaGate.Proofs.Store.Skew

namespace QuotaGate.Policy

/-- What a run has to keep for its counts to be told from its requests. -/
structure Orderly (p : Policy) (skew : Nat) (steps : List Step) : Prop where
  /-- No step comes more than `skew` seconds behind an earlier one. -/
  ordered : steps.Pairwise fun s s' : Step => s.now ≤ s'.now + (skew : Int)
  fits : ∀ a ∈ arrivals steps, a.Fits p
  /-- The identifiers drawn for a client in one second do not repeat. -/
  fresh : (arrivals steps).Nodup

variable {p : Policy} {skew : Nat} {steps : List Step}

theorem Orderly.sublist {steps' : List Step} (h : p.Orderly skew steps) (hs : steps'.Sublist steps) :
    p.Orderly skew steps' :=
  ⟨h.ordered.sublist hs, fun a ha => h.fits a ((hs.filterMap _).mem ha), h.fresh.sublist (hs.filterMap _)⟩

/-! ### The requests of a client and the hits on its key -/

theorem Step.now_op (s : Step) : (s.op p).now = s.now := by
  cases s <;> rfl

/-- The history of a client's key is made of the client's requests. -/
theorem past_op (c : Client) (steps : List Step) :
    Windows.past (c.key p.space) (steps.map (Step.op p))
      = ((arrivals steps).filter fun a => a.client = c).map fun a => (a.hit p).entry := by
  induction steps with
  | nil => rfl
  | cons s steps ih =>
    cases s with
    | enforce a =>
      rw [arrivals_enforce, List.map_cons, ← List.singleton_append, Windows.past, List.filterMap_append]
      refine (congrArg _ ih).trans ?_
      by_cases hc : a.client = c
      · subst hc
        simp [Step.op, Arrival.hit, hitFor]
      · have hk : a.client.key p.space ≠ c.key p.space := fun e => hc (Client.key_inj.1 e)
        simp [Step.op, Arrival.hit, hitFor, hc, hk]
    | purge now => exact ih
    | count key now => exact ih

theorem countP_past_op (c : Client) (steps : List Step) (start : Int) :
    (Windows.past (c.key p.space) (steps.map (Step.op p))).countP (fun e => start < e.score)
      = (arrivals steps).countP fun b => b.client = c ∧ start < b.now := by
  rw [past_op, List.countP_map, List.countP_filter]
  refine List.countP_congr fun b _ => ?_
  simp [Arrival.hit, hitFor, Hit.entry, and_comm]

theorem Orderly.steady (h : p.Orderly skew steps) (c : Client) :
    Windows.Steady (c.key p.space) p.span skew (steps.map (Step.op p)) := by
  refine ⟨Int.natCast_nonneg _, fun x hx _ => ?_, ?_, ?_⟩
  · obtain ⟨s, hs, he⟩ := List.mem_map.1 hx
    cases s with
    | enforce a =>
      obtain rfl := Windows.Op.hit.inj he
      exact ⟨h.fits a (mem_arrivals.2 hs), rfl⟩
    | purge now => cases he
    | count key now => cases he
  · simpa only [List.pairwise_map, Step.now_op] using h.ordered
  · -- Members of one client differ because its requests do.
    rw [past_op, List.map_map]
    refine List.Nodup.map_on (fun a ha b hb hab => ?_) (h.fresh.filter _)
    have hca := of_decide_eq_true (List.mem_filter.1 ha).2
    have hcb := of_decide_eq_true (List.mem_filter.1 hb).2
    obtain ⟨hnow, hnonce⟩ := member_inj.1 hab
    cases a
    cases b
    simp_all

/-! ### The count of a request -/

/-- The count that a request gets after the steps of a run. -/
def countAfter (p : Policy) (steps : List Step) (a : Arrival) : Nat :=
  (((Windows.after .empty (steps.map (Step.op p))).set (a.client.key p.space)).record
    (a.hit p)).entries.length

theorem count_bounds {a : Arrival} (h : p.Orderly skew (steps ++ [.enforce a])) :
    1 + (arrivals steps).countP (fun b => b.client = a.client ∧ a.now - p.span + 2 * skew < b.now)
        ≤ p.countAfter steps a
      ∧ p.countAfter steps a
        ≤ 1 + (arrivals steps).countP fun b => b.client = a.client ∧ a.now - p.span < b.now := by
  have hs := h.steady a.client
  rw [List.map_append, List.map_singleton, Step.op] at hs
  have ht := Windows.tracks_after hs.init fun o ho => hs.now_le ho
  have hlow := ht.le_length_record (x := a.hit p) hs.skew_nonneg fun e he => hs.member_ne he
  have hhigh := ht.length_record_le (x := a.hit p)
  have hnow : (a.hit p).now = a.now := rfl
  have hspan : (a.hit p).span = p.span := rfl
  rw [hnow, hspan, countP_past_op] at hlow hhigh
  exact ⟨hlow, hhigh⟩

/-- A request within the clock's range is decided on the count that it gets after the steps
before it. -/
theorem getElem?_decisions_of_fits [Timer] {before rest : List Step} {i : Nat} {a : Arrival} (hfit : a.Fits p)
    (ha : (arrivals (before ++ .enforce a :: rest))[i]? = some a)
    (hb : arrivals before = (arrivals (before ++ .enforce a :: rest)).take i) :
    (p.decisions Windows.store .empty (before ++ .enforce a :: rest))[i]?
      = some (a, .ok (.ofStatus (.ofCount p.quota (p.countAfter before a) a.now (a.now + p.span)))) := by
  have hi : i = (arrivals before).length := by
    have := (List.getElem?_eq_some_iff.1 ha).1
    rw [hb, List.length_take]
    omega
  rw [hi, Policy.getElem?_decisions, outcome_eq p _ hfit, after_eq]
  rfl

theorem Orderly.getElem?_decisions [Timer] (h : p.Orderly skew steps) {i : Nat} {a : Arrival}
    (ha : (arrivals steps)[i]? = some a) :
    ∃ before, p.Orderly skew (before ++ [.enforce a]) ∧ arrivals before = (arrivals steps).take i
      ∧ (p.decisions Windows.store .empty steps)[i]?
        = some (a, .ok (.ofStatus (.ofCount p.quota (p.countAfter before a) a.now (a.now + p.span)))) := by
  obtain ⟨before, rest, rfl, hb⟩ := exists_split ha
  refine ⟨before, h.sublist ?_, hb, getElem?_decisions_of_fits (h.fits a (by simp)) ha hb⟩
  exact (List.Sublist.refl _).append (by simp)

/-! ### The exact window -/

/-- **The window is exact.**  If time never steps back, the count of a request is one
more than the number of the client's earlier requests in the window that ends with it,
let through or not, and decides on it. -/
theorem decision_eq_of_ordered [Timer] (h : p.Orderly 0 steps) {i : Nat} {a : Arrival}
    (ha : (arrivals steps)[i]? = some a) :
    let n := 1 + ((arrivals steps).take i).countP fun b =>
      b.client = a.client ∧ a.now - p.span < b.now ∧ b.now ≤ a.now
    let s : Status :=
      { limit := p.quota, count := n, remaining := p.quota - n, resetAt := a.now + p.span
        retryAfter := p.window.secs }
    (p.decisions Windows.store .empty steps)[i]?
      = some (a, .ok (if p.quota < n then .rejected s else .allowed s)) := by
  intro n s
  obtain ⟨before, hb, hbefore, hd⟩ := h.getElem?_decisions ha
  -- Nothing earlier lies beyond the second of the request.
  have hle : ∀ b ∈ arrivals before, b.now ≤ a.now := by
    intro b hmem
    have := (List.pairwise_append.1 hb.ordered).2.2 _ (mem_arrivals.1 hmem) _ (List.mem_singleton_self _)
    simpa [Step.now] using this
  have hcongr : (arrivals before).countP (fun b => b.client = a.client ∧ a.now - p.span < b.now)
      = (arrivals before).countP fun b =>
        b.client = a.client ∧ a.now - p.span < b.now ∧ b.now ≤ a.now := by
    refine List.countP_congr fun b hmem => ?_
    simp [hle b hmem]
  -- Without skew the two bounds on the count meet.
  have hn : p.countAfter before a = n := by
    obtain ⟨hlow, hhigh⟩ := count_bounds hb
    have hz : a.now - p.span + 2 * ((0 : Nat) : Int) = a.now - p.span := by omega
    rw [hz] at hlow
    rw [hcongr, hbefore] at hlow hhigh
    omega
  have hs : Status.ofCount p.quota n a.now (a.now + p.span) = s := by
    have hretry : (a.now + p.span - a.now).toNat = p.window.secs := by
      rw [span]
      omega
    rw [Status.ofCount, hretry]
  rw [hd, hn, hs]
  rfl

/-- Two requests a minute. -/
def twiceAMinute : Policy :=
  { space := "rl:", quota := 2, window := .ofSecs 60, patience := defaultPatience
    quota_pos := by decide, one_le_secs := by decide, window_le := by decide }

/-- A run whose last request comes a whole window after its first, and in the same
second as another. -/
def busyMinute : List Step :=
  [.enforce ⟨.user "42", 100, "a"⟩, .purge 105, .enforce ⟨.user "42", 130, "b"⟩, .count "rl:user:42" 140,
    .enforce ⟨.address "42", 150, "a"⟩, .enforce ⟨.user "42", 160, "a"⟩, .enforce ⟨.user "42", 160, "b"⟩]

theorem busyMinute_last_rejected :
    twiceAMinute.Orderly 0 busyMinute ∧ (arrivals busyMinute)[4]? = some ⟨.user "42", 160, "b"⟩
      ∧ (twiceAMinute.decisions Windows.store .empty busyMinute)[4]?
        = some (⟨.user "42", 160, "b"⟩, .ok (.rejected
          { limit := 2, count := 3, remaining := 0, resetAt := 220, retryAfter := 60 })) := by
  have h : twiceAMinute.Orderly 0 busyMinute := ⟨by decide, by decide, by decide⟩
  exact ⟨h, rfl, (decision_eq_of_ordered h rfl).trans (by decide)⟩

/-! ### Admission under skew -/

/-- Whether a request was let through. -/
def passed (d : Except Clock.Overflow Decision) : Bool :=
  d.toOption.any Decision.isAllowed

/-- A request that is let through has a count within the quota. -/
theorem countAfter_le_of_passed [Timer] {a : Arrival} (ha : a.Fits p)
    (h : passed (p.enforce Windows.store (p.after Windows.store .empty steps) a.client a.now a.nonce).outcome) :
    p.countAfter steps a ≤ p.quota := by
  rw [outcome_eq p _ ha, after_eq] at h
  by_contra hlt
  have hof : ∀ s : Status, s.limit < s.count → Decision.ofStatus s = .rejected s := fun s hs => if_pos hs
  rw [hof _ (by simpa [Status.ofCount, countAfter] using hlt)] at h
  exact Bool.false_ne_true h

theorem countP_passed_le [Timer] (p : Policy) (w : Windows) (steps : List Step) (c : Client) {start start' : Int}
    (stop : Int) (h : start' ≤ start) :
    (p.decisions Windows.store w steps).countP (fun x =>
        x.1.client = c ∧ start < x.1.now ∧ x.1.now ≤ stop ∧ passed x.2)
      ≤ (arrivals steps).countP fun b => b.client = c ∧ start' < b.now := by
  rw [← p.map_fst_decisions Windows.store w steps, List.countP_map]
  refine List.countP_mono_left fun x _ hx => ?_
  obtain ⟨hc, hx, -⟩ := of_decide_eq_true hx
  exact decide_eq_true ⟨hc, by omega⟩

/-- No interval of a window, cut by twice the skew, lets more requests of a client pass
than the quota. -/
theorem passed_le_quota [Timer] (h : p.Orderly skew steps) (c : Client) (t : Int) :
    (p.decisions Windows.store .empty steps).countP (fun x =>
      x.1.client = c ∧ t - p.span + 2 * skew < x.1.now ∧ x.1.now ≤ t ∧ passed x.2) ≤ p.quota := by
  -- Step by step from the start: a step that lets nothing pass leaves the number as it is.
  induction steps using List.reverseRecOn with
  | nil => simp [decisions]
  | append_singleton before s ih =>
    have hbefore := ih (h.sublist (List.sublist_append_left ..))
    rw [decisions_append, List.countP_append]
    cases s with
    | purge now => simpa [decisions] using hbefore
    | count key now => simpa [decisions] using hbefore
    | enforce a =>
      rw [decisions, decisions, List.countP_singleton]
      split
      · -- The last to pass: its own count covers all that passed before it in the interval.
        rename_i hlast
        obtain ⟨hc, hlow, hhigh, hpass⟩ : a.client = c ∧ t - p.span + 2 * skew < a.now ∧ a.now ≤ t
            ∧ passed (p.enforce Windows.store (p.after Windows.store .empty before) a.client a.now
              a.nonce).outcome := of_decide_eq_true hlast
        subst hc
        have hle := countAfter_le_of_passed (h.fits a (by simp)) hpass
        have hcount := (count_bounds h).1
        have hearlier := p.countP_passed_le .empty before a.client t
          (show a.now - p.span + 2 * skew ≤ t - p.span + 2 * skew by omega)
        omega
      · omega

/-- **Admission under a skewed clock.**  However far requests are read out of order, up
to `skew` seconds: an interval of a window less twice the skew lets at most the quota of
a client's requests pass, and a request's count misses none of the client's earlier
requests in that interval and has none from outside the window. -/
theorem admission_of_skew [Timer] (h : p.Orderly skew steps) :
    (∀ (c : Client) (t : Int),
      (p.decisions Windows.store .empty steps).countP (fun x =>
        x.1.client = c ∧ t - p.span + 2 * skew < x.1.now ∧ x.1.now ≤ t ∧ passed x.2) ≤ p.quota)
    ∧ ∀ (i : Nat) (a : Arrival), (arrivals steps)[i]? = some a →
      ∃ s : Status, (p.decisions Windows.store .empty steps)[i]? = some (a, .ok (.ofStatus s))
        ∧ 1 + ((arrivals steps).take i).countP (fun b =>
            b.client = a.client ∧ a.now - p.span + 2 * skew < b.now) ≤ s.count
        ∧ s.count ≤ 1 + ((arrivals steps).take i).countP fun b =>
            b.client = a.client ∧ a.now - p.span < b.now := by
  refine ⟨passed_le_quota h, fun i a ha => ?_⟩
  obtain ⟨before, hb, hbefore, hd⟩ := h.getElem?_decisions ha
  rw [← hbefore]
  exact ⟨_, hd, count_bounds hb⟩

/-- A run in which requests and a purge are up to five seconds late. -/
def lateRequests : List Step :=
  [.enforce ⟨.user "42", 104, "a"⟩, .enforce ⟨.user "42", 99, "b"⟩, .purge 103,
    .enforce ⟨.user "42", 160, "c"⟩, .enforce ⟨.user "42", 157, "d"⟩]

theorem lateRequests_admission :
    twiceAMinute.Orderly 5 lateRequests ∧ (arrivals lateRequests)[3]? = some ⟨.user "42", 157, "d"⟩
      ∧ (twiceAMinute.decisions Windows.store .empty lateRequests).countP (fun x =>
        x.1.client = .user "42" ∧ 110 < x.1.now ∧ x.1.now ≤ 160 ∧ passed x.2) ≤ 2
      ∧ ∃ s : Status, (twiceAMinute.decisions Windows.store .empty lateRequests)[3]?
          = some (⟨.user "42", 157, "d"⟩, .ok (.ofStatus s)) ∧ 2 ≤ s.count ∧ s.count ≤ 4 := by
  have h : twiceAMinute.Orderly 5 lateRequests := ⟨by decide, by decide, by decide⟩
  obtain ⟨hq, hc⟩ := admission_of_skew h
  exact ⟨h, rfl, hq (.user "42") 160, hc 3 _ rfl⟩

end QuotaGate.Policy
