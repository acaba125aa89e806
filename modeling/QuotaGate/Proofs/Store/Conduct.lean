/-
How a store conducts itself.

Two things can be asked of any store, whatever it answers otherwise: that it faults on the
clock only where a window leaves the clock's range (`HeedsClock`), and that signs of life
are no more than that, so that what a view tells of its states stays (`PingsKeep`).

* `Windows.heedsClock` and its like — every store here heeds the clock;
* `PingsKeep.pingWithin` — waiting for a sign of life keeps the view;
* `hits_hitWithin` — on an audited store, a hit is on the record once, in time or not.
-/
import QuotaGate.Proofs.Redis.Connection
import QuotaGate.Store.Outage
import QuotaGate.Store.Script
import QuotaGate.Store.Slow

namespace QuotaGate

variable {σ τ : Type}

/-! ### Heeding the clock -/

/-- A hit whose window lies within the clock's range is not faulted for it. -/
def CountingStore.HeedsClock (store : CountingStore σ) : Prop :=
  ∀ s h a, h.Fits → (store.hit s h).answer = some a → ∀ o, a.result ≠ .error (.clock o)

theorem CountingStore.HeedsClock.audited {store : CountingStore σ} (hs : store.HeedsClock) :
    store.audited.HeedsClock := by
  intro s h a hfit ha o
  obtain ⟨b, hb, rfl⟩ := Call.answer_mapState ha
  exact hs s.inner h b hfit hb o

namespace Windows

theorem hit_ne_error {w : Windows} {h : Hit} (hfit : h.Fits) (o : Clock.Overflow) :
    (w.hit h).2.mapError Fault.clock ≠ .error (.clock o) := by
  rw [hit_of_holds w hfit]
  nofun

theorem heedsClock : store.HeedsClock := by
  intro w h a hfit ha o
  obtain rfl := Option.some.inj ha
  exact hit_ne_error hfit o

theorem heedsClock_slowStore [Timer] (delay : Duration) : (slowStore delay).HeedsClock := by
  intro w h a hfit ha o
  obtain rfl := Option.some.inj ha
  exact hit_ne_error hfit o

end Windows

theorem heedsClock_outage (detail : String) : (outage detail).HeedsClock := by
  intro _ h a _ ha o
  obtain rfl := Option.some.inj ha
  nofun

theorem Script.heedsClock : Script.store.HeedsClock := by
  intro s h a _ ha o
  rcases s with _ | ⟨_ | _ | _, rest⟩
  · obtain rfl := Option.some.inj ha
    nofun
  · obtain rfl := Option.some.inj ha
    nofun
  · obtain rfl := Option.some.inj ha
    nofun
  · cases ha

theorem Redis.Link.heedsClock [Decoding] : Redis.Link.store.HeedsClock := by
  intro l h a hfit ha o ho
  obtain ⟨b, hb, hr, -⟩ := Redis.Link.hit_answer ha
  rw [hr] at ho
  rw [Redis.Session.hit] at hb
  cases hc : l.session.connect l.turn with
  | none =>
    simp only [hc, Redis.Session.unconnected] at hb
    split at hb
    · cases hb
    · obtain rfl := Option.some.inj hb
      cases ho
  | some r =>
    simp only [hc, Clock.before_eq_ok.2 ⟨hfit.1, rfl⟩] at hb
    obtain ⟨-, ⟨⟨v, hv⟩, -⟩ | ⟨⟨e, he⟩, -⟩⟩ := Redis.Session.exchange_answer hb
    · rw [hv] at ho
      cases ho
    · rw [he] at ho
      cases ho

theorem Policy.exists_decision [Timer] {σ : Type} {store : CountingStore σ} (hs : store.HeedsClock) (p : Policy) (s : σ)
    {client : Client} {now : Int} {nonce : String} (hfit : (p.hitFor client now nonce).Fits) :
    ∃ d, (p.enforce store s client now nonce).outcome = .ok d := by
  rcases p.enforce_cases store s client now nonce with ⟨-, ho, -⟩ | ⟨a, ha, -, ho, -⟩
  · exact ⟨_, ho⟩
  · rw [ho]
    -- The window fits, so that a store that heeds the clock does not fault on it.
    cases hr : a.result with
    | ok count => exact ⟨_, p.verdict_of_holds hfit.2 count⟩
    | error f =>
      cases f with
      | store e => exact ⟨_, rfl⟩
      | clock o => exact absurd hr (hs s _ a hfit ha o)

/-! ### Signs of life -/

namespace CountingStore

/-- A sign of life, awaited or given up, keeps what `view` tells of a state. -/
structure PingsKeep (store : CountingStore σ) (view : σ → τ) : Prop where
  answered : ∀ s a, (store.ping s).answer = some a → view a.state = view s
  abandoned : ∀ s, view (store.ping s).abandoned = view s
  onTimeout : ∀ s, view (store.onTimeout s) = view s

theorem pingsKeep_unit (store : CountingStore σ) : store.PingsKeep fun _ => () :=
  ⟨fun _ _ _ => rfl, fun _ => rfl, fun _ => rfl⟩

variable {store : CountingStore σ} {view : σ → τ}

theorem PingsKeep.pingWithin [Timer] (hk : store.PingsKeep view) (bound : Duration) (s : σ) :
    view (store.pingWithin bound s).state = view s := by
  rcases store.settle_cases bound (store.ping s) with ⟨-, -, hw⟩ | ⟨a, ha, -, -, hw⟩
  · exact (congrArg view hw).trans ((hk.onTimeout _).trans (hk.abandoned s))
  · exact (congrArg view hw).trans (hk.answered s a ha)

/-- No sign of life is a hit on the record. -/
theorem PingsKeep.audited (hk : store.PingsKeep view) : store.audited.PingsKeep fun a => (a.hits, view a.inner) where
  answered s a ha := by
    obtain ⟨b, hb, rfl⟩ := Call.answer_mapState ha
    simp [Audited.hits, Audited.note, hk.answered _ _ hb]
  abandoned s := by simp [CountingStore.audited, Call.mapState, Audited.hits, Audited.note, hk.abandoned]
  onTimeout s := by simp [CountingStore.audited, Audited.hits, Audited.note, hk.onTimeout]

theorem hits_hitWithin [Timer] (store : CountingStore σ) (bound : Duration) (s : Audited σ) (h : Hit) :
    (store.audited.hitWithin bound s h).state.hits = s.hits + 1 := by
  rcases store.audited.settle_cases bound (store.audited.hit s h) with ⟨-, -, hw⟩ | ⟨a, ha, -, -, hw⟩
  · refine (congrArg Audited.hits hw).trans ?_
    simp [audited, Call.mapState, Audited.hits, Audited.note, List.countP_append]
  · obtain ⟨b, -, rfl⟩ := Call.answer_mapState ha
    refine (congrArg Audited.hits hw).trans ?_
    simp [Audited.hits, Audited.note, List.countP_append]

end CountingStore

theorem Windows.pingsKeep : store.PingsKeep id where
  answered w a ha := by
    obtain rfl := Option.some.inj ha
    rfl
  abandoned _ := rfl
  onTimeout _ := rfl

end QuotaGate
