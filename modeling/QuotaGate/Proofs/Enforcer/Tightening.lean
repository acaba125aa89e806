/-
Tighter limits.

The same requests are put to two enforcers, the second with the longer window.  At every
second the set of a client then has fewer members live under the first than under the
second (`WindowSet.Within`): a hit evicts more of them and lets the set end sooner, a
purge drops the set sooner, and none of this depends on the order of the seconds or on the
quotas.  Hence a request's count is no greater under the first, and with the smaller
quota on the longer window's side nothing passes there that does not pass here
(`count_le_of_tighter`).

Design notes: the ends of the two sets are not compared.  A purge may drop the one with the
sooner end alone, and the next hit makes it anew, for a while without any end.
-/
import QuotaGate.Proofs.Enforcer.Window
import QuotaGate.Proofs.Store.Purge

namespace QuotaGate

namespace WindowSet

/-- At every second the members live in one set are live in the other, in the same
order. -/
def Within (s s' : WindowSet) : Prop :=
  ∀ now, (s.live now).Sublist (s'.live now)

namespace Within

variable {s s' : WindowSet}

theorem refl (s : WindowSet) : s.Within s := fun _ => List.Sublist.refl _

theorem discard (h : s.Within s') (cut : Int) :
    (if s.isExpired cut then fresh else s).Within (if s'.isExpired cut then fresh else s') := fun now =>
  live_discard_sublist (t := min cut now) (fun u _ => h u) (Int.min_le_left _ _) (Int.min_le_right _ _)

variable {x x' : Hit}

theorem entries_record (h : s.Within s') (hentry : x.entry = x'.entry) (hspan : x.span ≤ x'.span) :
    (s.record x).entries.Sublist (s'.record x').entries := by
  obtain ⟨hnow, hmember⟩ : x.now = x'.now ∧ x.member = x'.member := Entry.mk.inj hentry
  have hkeeps : ∀ e, x.keeps e → x'.keeps e := by
    intro e he
    rw [Hit.keeps, Bool.and_eq_true, decide_eq_true_eq, decide_eq_true_eq] at he ⊢
    rw [← hnow, ← hmember]
    exact ⟨by omega, he.2⟩
  have hlive : ((s.live x.now).filter x.keeps).Sublist ((s'.live x'.now).filter x'.keeps) := by
    rw [← hnow]
    exact ((h x.now).filter _).trans (List.monotone_filter_right _ hkeeps)
  rw [WindowSet.entries_record, WindowSet.entries_record, hentry]
  exact hlive.append (List.Sublist.refl _)

theorem record (h : s.Within s') (hentry : x.entry = x'.entry) (hspan : x.span ≤ x'.span) :
    (s.record x).Within (s'.record x') := by
  intro now
  have hnow : x.now = x'.now := (Entry.mk.inj hentry).1
  by_cases hlt : now < (s.record x).expiresAt
  · -- The longer window ends no sooner.
    have hlt' : now < (s'.record x').expiresAt := by
      rw [expiresAt_record] at hlt ⊢
      omega
    rw [live_of_lt hlt, live_of_lt hlt']
    exact h.entries_record hentry hspan
  · rw [live_of_le (Int.not_lt.1 hlt)]
    exact List.nil_sublist _

end Within

end WindowSet

theorem Arrival.Fits.of_span_le {p p' : Policy} {a : Arrival} (h : a.Fits p') (hspan : p.span ≤ p'.span) : a.Fits p := by
  have hpos := p.span_pos
  obtain ⟨hb, ha⟩ := h
  simp only [Arrival.Fits, Hit.Fits, Arrival.hit, Policy.hitFor, Clock.Holds] at *
  omega

namespace Policy

variable {p p' : Policy} {steps : List Step}

theorem within_apply (hspan : p.span ≤ p'.span) {w w' : Windows} {s : Step} (hfit : ∀ a, s = .enforce a → a.Fits p')
    (h : ∀ c : Client, (w.set (c.key p.space)).Within (w'.set (c.key p'.space))) (c : Client) :
    (Windows.set (w.apply (s.op p)) (c.key p.space)).Within (Windows.set (w'.apply (s.op p')) (c.key p'.space)) := by
  cases s with
  | enforce a =>
    have hfit' := hfit a rfl
    change (Windows.set (w.hit (a.hit p)).1 _).Within (Windows.set (w'.hit (a.hit p')).1 _)
    -- A hit touches the set of its own client alone, whatever the name spaces are.
    by_cases hc : c = a.client
    · subst hc
      have hself := Windows.set_hit_self w (h := a.hit p) (hfit'.of_span_le hspan)
      have hself' := Windows.set_hit_self w' (h := a.hit p') hfit'
      exact hself ▸ hself' ▸ (h a.client).record rfl hspan
    · have hne : ∀ q : Policy, c.key q.space ≠ (a.hit q).key := fun q e => hc (Client.key_inj.1 e)
      rw [Windows.set_hit_of_ne w (hne p), Windows.set_hit_of_ne w' (hne p')]
      exact h c
  | purge now =>
    change (Windows.set (w.purge now).1 _).Within (Windows.set (w'.purge now).1 _)
    rw [Windows.set_purge, Windows.set_purge]
    exact (h c).discard now
  | count key now => exact h c

theorem within_after (hspan : p.span ≤ p'.span) (hfits : ∀ a ∈ arrivals steps, a.Fits p') (c : Client) :
    (Windows.set (Windows.after .empty (steps.map (Step.op p))) (c.key p.space)).Within
      (Windows.set (Windows.after .empty (steps.map (Step.op p'))) (c.key p'.space)) := by
  induction steps using List.reverseRecOn generalizing c with
  | nil => exact .refl _
  | append_singleton steps s ih =>
    rw [List.map_append, List.map_append, List.map_singleton, List.map_singleton, Windows.after_concat,
      Windows.after_concat]
    refine within_apply hspan (fun a ha => hfits a ?_) (fun c => ih (fun a ha => hfits a ?_) c) c
    · subst ha
      simp
    · rw [arrivals_append]
      exact List.mem_append_left _ ha

theorem countAfter_le (hspan : p.span ≤ p'.span) (hfits : ∀ a ∈ arrivals steps, a.Fits p') (a : Arrival) :
    p.countAfter steps a ≤ p'.countAfter steps a := by
  have hsets := within_after hspan hfits a.client
  have hentry : (a.hit p).entry = (a.hit p').entry := rfl
  exact (hsets.entries_record hentry hspan).length_le

/-- **Tightening never admits more.**  Under two policies of which the second has the longer
window, whatever the order of the seconds, each request of a run gets a count that is no
greater under the first.  If the second also has the smaller quota, what it allows the
first allows.  With equal windows the counts are equal whatever the quotas: rejected
requests count like all others. -/
theorem count_le_of_tighter [Timer] (hspan : p.span ≤ p'.span) (hfits : ∀ a ∈ arrivals steps, a.Fits p') {i : Nat}
    {a : Arrival}
    (ha : (arrivals steps)[i]? = some a) :
    ∃ s s' : Status, (p.decisions Windows.store .empty steps)[i]? = some (a, .ok (.ofStatus s))
      ∧ (p'.decisions Windows.store .empty steps)[i]? = some (a, .ok (.ofStatus s'))
      ∧ s.limit = p.quota ∧ s'.limit = p'.quota ∧ s.count ≤ s'.count
      ∧ (p'.quota ≤ p.quota → Decision.ofStatus s' = .allowed s' → Decision.ofStatus s = .allowed s)
      ∧ (p.span = p'.span → s.count = s'.count) := by
  obtain ⟨before, rest, rfl, hb⟩ := exists_split ha
  have hfit : a.Fits p' := hfits a (by simp)
  have hbefore : ∀ b ∈ arrivals before, b.Fits p' := fun b hmem => hfits b (by simp [hmem])
  have hle : p.countAfter before a ≤ p'.countAfter before a := countAfter_le hspan hbefore a
  refine ⟨_, _, getElem?_decisions_of_fits (hfit.of_span_le hspan) ha hb, getElem?_decisions_of_fits hfit ha hb, rfl, rfl,
    hle, fun hquota hallowed => ?_, fun heq => ?_⟩
  · rw [Decision.ofStatus_eq_allowed] at hallowed ⊢
    have hquota' : p'.countAfter before a ≤ p'.quota := hallowed
    exact (hle.trans hquota').trans hquota
  · -- The other way round the windows are no longer either.
    have hge : p'.countAfter before a ≤ p.countAfter before a :=
      countAfter_le (Int.le_of_eq heq.symm) (fun b hmem => (hbefore b hmem).of_span_le hspan) a
    exact Nat.le_antisymm hle hge

/-- One request in ninety seconds, which is tighter than `twiceAMinute` in both. -/
def onceInNinety : Policy :=
  { space := "rl:", quota := 1, window := .ofSecs 90, patience := defaultPatience
    quota_pos := by decide, one_le_secs := by decide, window_le := by decide }

/-- Requests out of order, with a member that repeats, and a purge that drops the set of
the shorter window alone. -/
def unruly : List Step :=
  [.enforce ⟨.user "42", 100, "a"⟩, .enforce ⟨.user "42", 70, "b"⟩, .purge 140, .enforce ⟨.user "42", 100, "a"⟩,
    .enforce ⟨.user "42", 150, "c"⟩]

theorem unruly_tighter :
    twiceAMinute.span ≤ onceInNinety.span ∧ (∀ a ∈ arrivals unruly, a.Fits onceInNinety)
      ∧ (arrivals unruly)[3]? = some ⟨.user "42", 150, "c"⟩
      ∧ ∃ s s' : Status, (twiceAMinute.decisions Windows.store .empty unruly)[3]?
          = some (⟨.user "42", 150, "c"⟩, .ok (.ofStatus s))
        ∧ (onceInNinety.decisions Windows.store .empty unruly)[3]?
          = some (⟨.user "42", 150, "c"⟩, .ok (.ofStatus s'))
        ∧ s.limit = 2 ∧ s'.limit = 1 ∧ s.count ≤ s'.count
        ∧ (Decision.ofStatus s' = .allowed s' → Decision.ofStatus s = .allowed s) := by
  have hspan : twiceAMinute.span ≤ onceInNinety.span := by decide
  have hfits : ∀ a ∈ arrivals unruly, a.Fits onceInNinety := by decide
  obtain ⟨s, s', hs, hs', hlimit, hlimit', hcount, hallowed, -⟩ := count_le_of_tighter hspan hfits (i := 3) rfl
  exact ⟨hspan, hfits, rfl, s, s', hs, hs', hlimit, hlimit', hcount, hallowed (by decide)⟩

end Policy

end QuotaGate
