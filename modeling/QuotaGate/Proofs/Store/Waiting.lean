/-
Waiting for the answer of a call.

An answer is in time for a caller if it comes before the caller's timer ends, its last
instant included.  So the answers within the bound are in time if that is within the reach
of timers (`inTime_of_le`), and no others are where timers keep to the bound
(`inTime_iff_le`).

* `Call.time_within`, `runsOut_some_iff` — how long an answer is waited for, and on which of
  them the bound runs out;
* `settle_cases` — a call that is waited for comes to its answer, or to nothing;
* `audited_settle_of_inTime`, `audited_settle_of_late` — the same on an audited store: the
  record then has the call, once, and after it the word that time ran out, if it did.
-/
import QuotaGate.Store.Audit

namespace QuotaGate

section

variable [Timer]

/-- An answer after `delay` reaches a caller whose timer is set to `bound`. -/
def InTime (bound delay : Duration) : Prop :=
  delay ≤ Timer.runs bound

instance (bound delay : Duration) : Decidable (InTime bound delay) :=
  inferInstanceAs (Decidable (_ ≤ _))

/-- An answer that is given at once is in time, whatever the bound. -/
theorem inTime_zero (bound : Duration) : InTime bound .zero :=
  Nat.zero_le _

/-- Within the reach of timers, no answer within the bound is too late. -/
theorem inTime_of_le {bound delay : Duration} (h : bound ≤ Timer.reach) (hdelay : delay ≤ bound) : InTime bound delay :=
  Nat.le_trans hdelay (Timer.le_runs h)

theorem inTime_iff_le {bound delay : Duration} (h : Timer.Counts bound) : InTime bound delay ↔ delay ≤ bound := by
  rw [InTime, Timer.runs_of_counts h]

/-- No answer of the call reaches a caller that waits for at most `bound`. -/
def Call.Late {σ α : Type} (bound : Duration) (c : Call σ α) : Prop :=
  ∀ a, c.answer = some a → ¬InTime bound a.delay

end

variable {σ τ α : Type} {bound : Duration}

/-- An answer seen through `f` is an answer. -/
theorem Call.answer_mapState {f : σ → τ} {c : Call σ α} {a : Answer τ α} (ha : (c.mapState f).answer = some a) :
    ∃ b, c.answer = some b ∧ a = { delay := b.delay, result := b.result, state := f b.state } := by
  obtain ⟨b, hb, rfl⟩ := Option.map_eq_some_iff.1 ha
  exact ⟨b, hb, rfl⟩

/-- The delay of a call's answer, if one ever comes. -/
def Call.delay? (c : Call σ α) : Option Duration :=
  c.answer.map Answer.delay

/-- How long an answer after `delay?` is waited for: until it comes, but no longer than
`most`. -/
def waitFor (most : Duration) : Option Duration → Duration
  | none => most
  | some delay => if delay ≤ most then delay else most

@[simp] theorem CountingStore.time_settle (store : CountingStore σ) (w : Waited σ α) :
    (store.settle w).time = w.time := by
  unfold settle
  split <;> rfl

variable [Timer]

theorem Call.not_late {c : Call σ α} : ¬c.Late bound ↔ ∃ a, c.answer = some a ∧ InTime bound a.delay := by
  simp [Late]

theorem Call.within_of_inTime {c : Call σ α} {a : Answer σ α} (ha : c.answer = some a) (ht : InTime bound a.delay) :
    c.within bound = { time := a.delay, result := some a.result, state := a.state } := by
  rw [within, ha]
  exact if_pos ht

theorem Call.within_of_late {c : Call σ α} (h : c.Late bound) :
    c.within bound = { time := Timer.runs bound, result := none, state := c.abandoned } := by
  rw [within]
  cases ha : c.answer with
  | none => rfl
  | some a => exact if_neg (h a ha)

/-! ### How long, and whether in vain -/

theorem Call.time_within (bound : Duration) (c : Call σ α) :
    (c.within bound).time = waitFor (Timer.runs bound) c.delay? := by
  rw [within, delay?]
  cases c.answer with
  | none => rfl
  | some a =>
    simp only [Option.map_some, waitFor]
    split <;> rfl

/-- The bound runs out on an answer after `delay?`. -/
def RunsOut (bound : Duration) (delay? : Option Duration) : Prop :=
  ∀ delay, delay? = some delay → ¬InTime bound delay

theorem runsOut_none (bound : Duration) : RunsOut bound none := nofun

theorem runsOut_some {delay : Duration} : RunsOut bound (some delay) ↔ ¬InTime bound delay := by
  simp [RunsOut]

instance (bound : Duration) (delay? : Option Duration) : Decidable (RunsOut bound delay?) :=
  match delay? with
  | none => isTrue (runsOut_none bound)
  | some _ => decidable_of_iff _ runsOut_some.symm

theorem runsOut_delay? {c : Call σ α} : RunsOut bound c.delay? ↔ c.Late bound := by
  simp [RunsOut, Call.Late, Call.delay?]

/-- A bound runs out on what comes after its timer has ended. -/
theorem runsOut_some_iff {delay : Duration} : RunsOut bound (some delay) ↔ Timer.runs bound < delay :=
  runsOut_some.trans Duration.not_le

/-! ### Calls of a store -/

namespace CountingStore

theorem hitWithin_of_inTime (store : CountingStore σ) {s : σ} {h : Hit} {a : Answer σ Nat}
    (ha : (store.hit s h).answer = some a) (ht : InTime bound a.delay) :
    store.hitWithin bound s h = { time := a.delay, result := some a.result, state := a.state } := by
  rw [hitWithin, Call.within_of_inTime ha ht]
  rfl

/-- Whoever waits hears nothing in time, of which the store is told, or the answer. -/
theorem settle_cases (store : CountingStore σ) (bound : Duration) (c : Call σ α) :
    let w := store.settle (c.within bound)
    (c.Late bound ∧ w.result = none ∧ w.state = store.onTimeout c.abandoned)
      ∨ ∃ a, c.answer = some a ∧ InTime bound a.delay ∧ w.result = some a.result ∧ w.state = a.state := by
  intro w
  by_cases hl : c.Late bound
  · have hw : w = _ := congrArg store.settle (Call.within_of_late hl)
    rw [hw]
    exact .inl ⟨hl, rfl, rfl⟩
  · obtain ⟨a, ha, ht⟩ := Call.not_late.1 hl
    have hw : w = _ := congrArg store.settle (Call.within_of_inTime ha ht)
    rw [hw]
    exact .inr ⟨a, ha, ht, rfl, rfl⟩

/-! ### Audited stores -/

/-- A call of an audited store is noted, and waited for like one of the store itself. -/
theorem audited_settle_of_inTime (store : CountingStore σ) {s : Audited σ} (x : Contact) {c : Call σ α} {a : Answer σ α}
    (ha : c.answer = some a) (ht : InTime bound a.delay) :
    store.audited.settle ((c.mapState (⟨s.note x, ·⟩)).within bound)
      = { time := a.delay, result := some a.result, state := ⟨s.record ++ [x], a.state⟩ } := by
  rw [Call.within_of_inTime (a := ⟨a.delay, a.result, ⟨s.record ++ [x], a.state⟩⟩) ?_ ht]
  · rfl
  · simp only [Call.mapState, ha]
    rfl

theorem audited_settle_of_late (store : CountingStore σ) {s : Audited σ} (x : Contact) {c : Call σ α}
    (hl : c.Late bound) :
    store.audited.settle ((c.mapState (⟨s.note x, ·⟩)).within bound)
      = { time := Timer.runs bound
          result := none
          state := ⟨s.record ++ [x, .timeout], store.onTimeout c.abandoned⟩ } := by
  -- The record changes neither whether an answer comes nor when.
  have hl' : (c.mapState fun t => (⟨s.note x, t⟩ : Audited σ)).Late bound := by
    intro a ha
    obtain ⟨b, hb, rfl⟩ := Call.answer_mapState ha
    exact hl b hb
  rw [Call.within_of_late hl']
  simp [settle, audited, Call.mapState, Audited.note]

/-- A call that an audited store gets as `x`, and what waiting for it comes to. -/
theorem audited_settle_spec (store : CountingStore σ) (s : Audited σ) (x : Contact) (bound : Duration) (c : Call σ α) :
    let w := store.audited.settle ((c.mapState (⟨s.note x, ·⟩)).within bound)
    w.time = waitFor (Timer.runs bound) c.delay?
      ∧ w.state.record = s.record ++ (if RunsOut bound c.delay? then [x, .timeout] else [x])
      ∧ (RunsOut bound c.delay? → w.result = none)
      ∧ ∀ r, w.result = some r ↔ ∃ a, c.answer = some a ∧ InTime bound a.delay ∧ a.result = r := by
  intro w
  refine ⟨?_, ?_⟩
  · have hdelay : (c.mapState fun t => (⟨s.note x, t⟩ : Audited σ)).delay? = c.delay? := by
      rw [Call.delay?, Call.delay?, Call.mapState, Option.map_map]
      rfl
    rw [← hdelay, ← Call.time_within]
    exact time_settle _ _
  · by_cases hl : c.Late bound
    · have hw : w = _ := store.audited_settle_of_late x hl
      rw [hw, if_pos (runsOut_delay?.2 hl)]
      refine ⟨rfl, fun _ => rfl, fun r => iff_of_false nofun ?_⟩
      rintro ⟨a, ha, ht, -⟩
      exact hl a ha ht
    · have hruns : ¬RunsOut bound c.delay? := fun h => hl (runsOut_delay?.1 h)
      obtain ⟨b, hb, ht⟩ := Call.not_late.1 hl
      have hw : w = _ := store.audited_settle_of_inTime x hb ht
      rw [hw, if_neg hruns]
      refine ⟨rfl, fun h => absurd h hruns, fun r => ⟨fun h => ⟨b, hb, ht, Option.some.inj h⟩, ?_⟩⟩
      rintro ⟨a, ha, -, hr⟩
      obtain rfl := Option.some.inj (hb.symm.trans ha)
      exact congrArg some hr

theorem audited_hitWithin_of_inTime (store : CountingStore σ) {s : Audited σ} {h : Hit} {a : Answer σ Nat}
    (ha : (store.hit s.inner h).answer = some a) (ht : InTime bound a.delay) :
    store.audited.hitWithin bound s h
      = { time := a.delay, result := some a.result, state := ⟨s.record ++ [.hit h], a.state⟩ } :=
  store.audited_settle_of_inTime (.hit h) ha ht

theorem audited_hitWithin_of_late (store : CountingStore σ) {s : Audited σ} {h : Hit}
    (hl : (store.hit s.inner h).Late bound) :
    store.audited.hitWithin bound s h
      = { time := Timer.runs bound
          result := none
          state := ⟨s.record ++ [.hit h, .timeout], store.onTimeout (store.hit s.inner h).abandoned⟩ } :=
  store.audited_settle_of_late (.hit h) hl

end CountingStore

end QuotaGate
