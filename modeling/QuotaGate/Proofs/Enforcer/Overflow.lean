/-
Steps of the clock in an enforcement.

Four of them are made: the store steps back to the start of the window and forward to its
end, the enforcer steps forward to that end once more, and back from it for the time that
is left.  A window is at most a year, so that for a second with a year to spare on either
side none of them leaves the clock's range (`never_overflows`), whatever the store answers;
and what a status then says of the window is exact (`Status.Exact`).

* `exact_of_outcome` — every status is exact, at any second;
* `outcome_eq_error_iff` — over the window sets held in the process, an enforcement faults
  just where the window leaves the range.
-/
import QuotaGate.Proofs.Store.Conduct

namespace QuotaGate

/-- What a status says, of a policy that was enforced at `now`. -/
structure Status.Exact (p : Policy) (now : Int) (s : Status) : Prop where
  limit : s.limit = p.quota
  /-- The end of the window is a second that the clock holds. -/
  resetAt : Clock.after now p.span = .ok s.resetAt
  /-- The way back from there stays in the range, and is a number of seconds. -/
  retryAfter : Clock.before s.resetAt now = .ok s.retryAfter
  /-- That number is the window's, and never the nought that stands for a negative one. -/
  retryAfter_eq : s.resetAt - now = p.span ∧ (s.retryAfter : Int) = p.span
  remaining_le : s.remaining ≤ s.limit
  remaining_add : s.remaining + min s.count s.limit = s.limit

namespace Policy

variable (p : Policy)

theorem exact_ofCount {now resetAt : Int} (h : Clock.after now p.span = .ok resetAt) (count : Nat) :
    (Status.ofCount p.quota count now resetAt).Exact p now := by
  obtain ⟨-, hreset⟩ := Clock.after_eq_ok.1 h
  have hpos := p.span_pos
  have hle := p.span_le
  have hretry : ((resetAt - now).toNat : Int) = resetAt - now := Int.toNat_of_nonneg (by omega)
  refine ⟨rfl, h, Clock.before_eq_ok.2 ⟨?_, hretry⟩, ⟨?_, hretry.trans ?_⟩, Nat.sub_le _ _, ?_⟩
  · simp only [Status.ofCount, Clock.Holds]
    omega
  · simp only [Status.ofCount]
    omega
  · omega
  · simp only [Status.ofCount]
    omega

theorem exact_of_judge {now : Int} {r : Option (Except Fault Nat)} {d : Decision} {s : Status}
    (hd : p.judge now r = .ok d) (hs : d.status? = some s) : s.Exact p now := by
  -- Without a count the request is let through without a status, or is a fault.
  rcases r with _ | ((e | o) | count)
  · obtain rfl := Except.ok.inj hd
    cases hs
  · obtain rfl := Except.ok.inj hd
    cases hs
  · cases hd
  · -- A count: the enforcer's own step forward has come to a second.
    rw [judge, verdict] at hd
    cases hr : Clock.after now p.span with
    | error o =>
      rw [hr] at hd
      cases hd
    | ok resetAt =>
      rw [hr] at hd
      obtain rfl := Except.ok.inj hd
      rw [Decision.status?_ofStatus] at hs
      obtain rfl := Option.some.inj hs
      exact p.exact_ofCount hr count

theorem exact_of_outcome [Timer] {σ : Type} (store : CountingStore σ) (st : σ) {client : Client} {now : Int}
    {nonce : String} {d : Decision} {s : Status} (hd : (p.enforce store st client now nonce).outcome = .ok d)
    (hs : d.status? = some s) : s.Exact p now := by
  rw [(p.enforce_eq_judge store st client now nonce).1] at hd
  exact p.exact_of_judge hd hs

/-! ### Over the window sets held in the process -/

/-- The store faults first on the start of a window, then on its end. -/
theorem hit_eq_error_iff {w : Windows} {h : Hit} {o : Clock.Overflow} :
    (w.hit h).2 = .error o ↔ o = .back ∧ ¬Clock.Holds (h.now - h.span)
      ∨ o = .forward ∧ Clock.Holds (h.now - h.span) ∧ ¬Clock.Holds (h.now + h.span) := by
  rw [Windows.hit]
  cases hb : Clock.before h.now h.span with
  | error o' =>
    obtain ⟨hstart, rfl⟩ := Clock.before_eq_error.1 hb
    simp [hstart, eq_comm]
  | ok start =>
    have hstart := (Clock.before_eq_ok.1 hb).1
    cases ha : Clock.after h.now h.span with
    | error o' =>
      obtain ⟨hend, rfl⟩ := Clock.after_eq_error.1 ha
      simp [hstart, hend, eq_comm]
    | ok expiry =>
      have hend := (Clock.after_eq_ok.1 ha).1
      simp [hstart, hend]

theorem fits_of_hit_eq_ok {w : Windows} {h : Hit} {count : Nat} (hr : (w.hit h).2 = .ok count) : h.Fits := by
  have hfault : ∀ o, (w.hit h).2 ≠ .error o := by
    intro o he
    rw [hr] at he
    cases he
  have hstart : Clock.Holds (h.now - h.span) := by
    by_contra hn
    exact hfault .back (hit_eq_error_iff.2 (.inl ⟨rfl, hn⟩))
  refine ⟨hstart, ?_⟩
  by_contra hn
  exact hfault .forward (hit_eq_error_iff.2 (.inr ⟨rfl, hstart, hn⟩))

/-- The enforcer's own step adds no fault to those of the store. -/
theorem outcome_eq_error_iff [Timer] {w : Windows} {client : Client} {now : Int} {nonce : String} {o : Clock.Overflow} :
    (p.enforce Windows.store w client now nonce).outcome = .error o
      ↔ o = .back ∧ ¬Clock.Holds (now - p.span)
        ∨ o = .forward ∧ Clock.Holds (now - p.span) ∧ ¬Clock.Holds (now + p.span) := by
  have hhit := hit_eq_error_iff (w := w) (h := p.hitFor client now nonce) (o := o)
  refine Iff.trans ?_ hhit
  rw [(p.enforce_eq w ⟨client, now, nonce⟩).1, Arrival.hit]
  dsimp only
  cases hr : (w.hit (p.hitFor client now nonce)).2 with
  | error o' => simp [Except.bind]
  | ok count =>
    have hend : Clock.Holds (now + p.span) := (fits_of_hit_eq_ok hr).2
    change p.verdict now count = _ ↔ _
    rw [p.verdict_of_holds hend]
    simp

theorem exists_outcome_eq_error_iff [Timer] {w : Windows} {client : Client} {now : Int} {nonce : String} :
    (∃ o, (p.enforce Windows.store w client now nonce).outcome = .error o)
      ↔ ¬Clock.Holds (now - p.span) ∨ ¬Clock.Holds (now + p.span) := by
  simp only [outcome_eq_error_iff]
  constructor
  · rintro ⟨o, ⟨-, hb⟩ | ⟨-, -, ha⟩⟩
    · exact .inl hb
    · exact .inr ha
  · intro h
    by_cases hb : Clock.Holds (now - p.span)
    · exact ⟨.forward, .inr ⟨rfl, hb, h.resolve_left (not_not_intro hb)⟩⟩
    · exact ⟨.back, .inl ⟨rfl, hb⟩⟩

/-- **Nothing overflows.**  A policy is accepted just if it allows a request in a window of
a whole second at least and, any fraction counted, a year at most; the window is then that
number of whole seconds.  At every second with a year to spare on either side, as any
moment has that can be told, an enforcement comes to a decision over every store that
heeds the clock; the stores here do, and so does each that only counts, fails or is late.
Whatever the second, a status that is yielded is exact.  Over the window sets held in the
process an enforcement faults just where its window leaves the clock's range. -/
theorem never_overflows [Timer] [Redis.Decoding] :
    (∀ (space : String) (quota : Nat) (window : Duration),
        ((∃ p, make? space quota window = .ok p)
            ↔ 1 ≤ quota ∧ 1 ≤ window.secs ∧ window ≤ .ofSecs 31536000)
          ∧ ∀ p, make? space quota window = .ok p →
            p.quota = quota ∧ p.span = window.secs ∧ 1 ≤ p.span ∧ p.span ≤ 31536000)
      ∧ (∀ (p : Policy) {σ : Type} (store : CountingStore σ) (st : σ) (client : Client) (now : Int) (nonce : String),
        let e := p.enforce store st client now nonce
        (store.HeedsClock → Clock.Roomy now → ∃ d, e.outcome = .ok d)
          ∧ ∀ d s, e.outcome = .ok d → d.status? = some s → s.Exact p now)
      ∧ (∀ (m : Clock.Moment) (now : Int), m.read = .ok now → Clock.Roomy now)
      ∧ (Windows.store.HeedsClock ∧ (∀ delay, (Windows.slowStore delay).HeedsClock)
        ∧ (∀ detail, (outage detail).HeedsClock) ∧ Redis.Link.store.HeedsClock
        ∧ ∀ {σ : Type} (store : CountingStore σ),
          (∀ st h a, (store.hit st h).answer = some a → ∀ o, a.result ≠ .error (.clock o)) → store.HeedsClock)
      ∧ ∀ (p : Policy) (w : Windows) (client : Client) (now : Int) (nonce : String),
        (∃ o, (p.enforce Windows.store w client now nonce).outcome = .error o)
          ↔ ¬Clock.Holds (now - p.span) ∨ ¬Clock.Holds (now + p.span) := by
  refine ⟨fun space quota window => ⟨exists_make?_eq_ok, fun p hp => ?_⟩, fun p σ store st client now nonce => ⟨?_, ?_⟩,
    fun _ _ => Clock.Moment.roomy, ⟨Windows.heedsClock, Windows.heedsClock_slowStore, heedsClock_outage,
      Redis.Link.heedsClock, fun store h st x a _ ha => h st x a ha⟩, fun p w client now nonce => p.exists_outcome_eq_error_iff⟩
  · obtain ⟨-, hquota, hwindow, -⟩ := of_make?_eq_ok hp
    exact ⟨hquota, by rw [span, hwindow], p.span_pos, p.span_le⟩
  · intro hs hnow
    exact p.exists_decision hs st (p.hitFor_fits hnow client nonce)
  · intro d s hd hs
    exact p.exact_of_outcome store st hd hs

/-- Three requests a year. -/
def yearly : Policy :=
  { space := "y:", quota := 3, window := longest, patience := defaultPatience
    quota_pos := by decide, one_le_secs := by decide, window_le := by decide }

/-- The last second with room for a year after it, and the one that follows. -/
theorem yearly_at_the_edge :
    make? "y:" 3 longest = .ok yearly ∧ yearly.span = 31536000
      ∧ ¬(∃ p, make? "y:" 3 ⟨longest.nanos + 1⟩ = .ok p)
      ∧ Windows.store.HeedsClock ∧ Clock.Roomy 9223372036823239807
      ∧ (∃ d, (yearly.enforce Windows.store .empty (.user "42") 9223372036823239807 "a").outcome = .ok d)
      ∧ Status.Exact yearly 9223372036823239807
        { limit := 3, count := 1, remaining := 2, resetAt := 0x7fffffffffffffff, retryAfter := 31536000 }
      ∧ ∃ o, (yearly.enforce Windows.store .empty (.user "42") 9223372036823239808 "a").outcome = .error o := by
  obtain ⟨hmake, henforce, -, ⟨hheeds, -⟩, hfault⟩ := never_overflows
  obtain ⟨hdecided, hexact⟩ := henforce yearly Windows.store .empty (.user "42") 9223372036823239807 "a"
  have hroomy : Clock.Roomy 9223372036823239807 := ⟨by decide, by decide⟩
  refine ⟨rfl, ((hmake "y:" 3 longest).2 yearly rfl).2.1.trans (by decide), ?_, hheeds, hroomy, hdecided hheeds hroomy, ?_, ?_⟩
  · rw [(hmake _ _ _).1]
    decide
  · exact hexact (.allowed _) _ (by decide) rfl
  · exact (hfault _ _ _ _ _).2 (.inr (by decide))

end Policy

end QuotaGate
