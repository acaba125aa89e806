/-
What the window sets keep when the clock is read out of order.

Let every call come at most `skew` seconds behind any earlier one, and let all hits on a
key have one span.  Then a set keeps every entry that is younger than the span less the
skew, counted from the latest second seen so far: it is neither evicted nor does its set
expire (`tracks_after`).

Hence a hit's answer lies between the number of earlier hits in its window, and the
number of those in the window cut by twice the skew (`le_length_record`,
`length_record_le`).
-/
import Mathlib.Data.List.Basic
import QuotaGate.Proofs.Store.Run

namespace QuotaGate

open List

/-- The entries of a history that come after `start`. -/
def young (start : Int) (past : List Entry) : List Entry :=
  past.filter fun e => start < e.score

theorem length_young (start : Int) (past : List Entry) :
    (young start past).length = past.countP fun e => start < e.score :=
  countP_eq_length_filter.symm

/-- A hit keeps the entries after a start that lies in its window, if none of them has
its member. -/
theorem filter_keeps_young {x : Hit} {start : Int} {past : List Entry} (hstart : x.now - x.span ≤ start)
    (hnew : ∀ e ∈ past, e.member ≠ x.member) : (young start past).filter x.keeps = young start past := by
  refine filter_eq_self.2 fun e he => ?_
  obtain ⟨he, hy⟩ := mem_filter.1 he
  have := of_decide_eq_true hy
  rw [Hit.keeps, Bool.and_eq_true, decide_eq_true_eq, decide_eq_true_eq]
  exact ⟨by omega, hnew e he⟩

/-- The set holds no entry that is not in the history `past` of its key, keeps those
that are young at second `latest`, and will not expire before these are old. -/
structure WindowSet.Tracks (span skew latest : Int) (past : List Entry) (s : WindowSet) : Prop where
  sublist : s.entries <+ past
  kept : young (latest - span + skew) past <+ s.entries
  lasting : ∀ e ∈ past, latest - span + skew < e.score → e.score - skew + span ≤ s.expiresAt

namespace WindowSet.Tracks

variable {span skew latest : Int} {past : List Entry} {s : WindowSet}

theorem fresh : Tracks span skew latest [] .fresh :=
  ⟨Sublist.refl _, Sublist.refl _, fun _ he => absurd he not_mem_nil⟩

/-- A set that is past its end has nothing young in its history. -/
theorem young_eq_nil (h : Tracks span skew latest past s) {t : Int} (ht : t ≤ latest) (hs : s.expiresAt ≤ t) :
    young (latest - span + skew) past = [] := by
  refine filter_eq_nil_iff.2 fun e he hy => ?_
  have hy := of_decide_eq_true hy
  have := h.lasting e he hy
  omega

/-- What is young is still there at any second up to the latest. -/
theorem kept_live (h : Tracks span skew latest past s) {t : Int} (ht : t ≤ latest) :
    young (latest - span + skew) past <+ s.live t := by
  by_cases hs : t < s.expiresAt
  · rw [live_of_lt hs]
    exact h.kept
  · rw [h.young_eq_nil ht (Int.not_lt.1 hs)]
    exact nil_sublist _

theorem record (h : Tracks span skew latest past s) (hskew : 0 ≤ skew) {x : Hit} (hx : x.span = span)
    (hlatest : x.now ≤ latest) (hpast : ∀ e ∈ past, e.score ≤ x.now + skew)
    (hnew : ∀ e ∈ past, e.member ≠ x.member) :
    Tracks span skew latest (past ++ [x.entry]) (s.record x) := by
  constructor
  · rw [entries_record]
    exact (filter_sublist.trans ((live_sublist s _).trans h.sublist)).append (Sublist.refl _)
  · rw [entries_record, young, filter_append]
    have hkept := (h.kept_live hlatest).filter x.keeps
    rw [filter_keeps_young (by omega) hnew] at hkept
    exact hkept.append filter_sublist
  · -- The new end is `x.now + span`, and nothing in the history is more than `skew` beyond `x.now`.
    intro e he hy
    rw [expiresAt_record, hx]
    rcases mem_append.1 he with he | he
    · have := hpast e he
      omega
    · obtain rfl := mem_singleton.1 he
      simp only [Hit.entry]
      omega

theorem purge (h : Tracks span skew latest past s) {t : Int} (ht : t ≤ latest) :
    Tracks span skew latest past (if s.isExpired t then .fresh else s) := by
  split
  · rename_i hs
    have hnil := h.young_eq_nil ht (isExpired_iff.1 hs)
    refine ⟨nil_sublist _, ?_, fun e he hy => ?_⟩
    · rw [hnil]
      exact nil_sublist _
    · exact absurd (decide_eq_true hy) (filter_eq_nil_iff.1 hnil e he)
  · exact h

/-! ### The size after a hit -/

theorem le_length_record {x : Hit} (h : Tracks x.span skew (x.now + skew) past s) (hskew : 0 ≤ skew)
    (hnew : ∀ e ∈ past, e.member ≠ x.member) :
    1 + past.countP (fun e => x.now - x.span + 2 * skew < e.score) ≤ (s.record x).entries.length := by
  have hstart : x.now + skew - x.span + skew = x.now - x.span + 2 * skew := by omega
  have hkept := (h.kept_live (t := x.now) (by omega)).filter x.keeps
  rw [hstart, filter_keeps_young (by omega) hnew] at hkept
  have hle := hkept.length_le
  rw [length_young] at hle
  rw [entries_record, length_append, length_singleton]
  omega

theorem length_record_le {x : Hit} (h : Tracks span skew latest past s) :
    (s.record x).entries.length ≤ 1 + past.countP (fun e => x.now - x.span < e.score) := by
  have hsub : (s.live x.now).filter x.keeps <+ young (x.now - x.span) past :=
    (monotone_filter_right _ fun e he => (Bool.and_eq_true_iff.1 he).1).trans
      (((live_sublist s _).trans h.sublist).filter _)
  have hle := hsub.length_le
  rw [length_young] at hle
  rw [entries_record, length_append, length_singleton]
  omega

end WindowSet.Tracks

/-! ### Runs -/

namespace Windows

/-- What the hits on a key would leave if nothing were ever dropped. -/
def past (k : String) (ops : List Op) : List Entry :=
  ops.filterMap fun
    | .hit h => if h.key = k then some h.entry else none
    | _ => none

theorem past_concat (k : String) (ops : List Op) (o : Op) :
    past k (ops ++ [o]) = past k ops ++ past k [o] :=
  filterMap_append ..

theorem past_hit_self (h : Hit) : past h.key [.hit h] = [h.entry] := by
  simp [past]

theorem past_hit_of_ne {h : Hit} {k : String} (hk : k ≠ h.key) : past k [.hit h] = [] := by
  simp [past, Ne.symm hk]

@[simp] theorem past_purge (k : String) (now : Int) : past k [.purge now] = [] := rfl

@[simp] theorem past_count (k key : String) (now : Int) : past k [.count key now] = [] := rfl

theorem mem_past {k : String} {ops : List Op} {e : Entry} :
    e ∈ past k ops ↔ ∃ h, Op.hit h ∈ ops ∧ h.key = k ∧ h.entry = e := by
  simp only [past, mem_filterMap]
  constructor
  · rintro ⟨o, ho, he⟩
    cases o with
    | hit h =>
      obtain ⟨hk, he⟩ := Option.ite_none_right_eq_some.1 he
      exact ⟨h, ho, hk, Option.some.inj he⟩
    | purge now => cases he
    | count key now => cases he
  · rintro ⟨h, ho, rfl, rfl⟩
    exact ⟨_, ho, if_pos rfl⟩

/-- A run that tracks the history of `k`: all hits on it have one span and lie within
the clock's range, no call comes more than `skew` behind an earlier one, and no member
repeats. -/
structure Steady (k : String) (span skew : Int) (ops : List Op) : Prop where
  skew_nonneg : 0 ≤ skew
  fits : ∀ h, .hit h ∈ ops → h.key = k → h.Fits ∧ h.span = span
  ordered : ops.Pairwise fun o o' => o.now ≤ o'.now + skew
  nodup : ((past k ops).map Entry.member).Nodup

theorem Steady.init {k : String} {span skew : Int} {ops : List Op} {o : Op}
    (h : Steady k span skew (ops ++ [o])) : Steady k span skew ops := by
  refine ⟨h.skew_nonneg, fun x hx => h.fits x (mem_append_left _ hx),
    (pairwise_append.1 h.ordered).1, ?_⟩
  have hn := h.nodup
  rw [past_concat, map_append] at hn
  exact (nodup_append.1 hn).1

theorem Steady.now_le {k : String} {span skew : Int} {ops : List Op} {o : Op}
    (h : Steady k span skew (ops ++ [o])) {o' : Op} (ho : o' ∈ ops) : o'.now ≤ o.now + skew :=
  (pairwise_append.1 h.ordered).2.2 o' ho o (mem_singleton_self o)

theorem Steady.score_le {k : String} {span skew : Int} {ops : List Op} {o : Op}
    (h : Steady k span skew (ops ++ [o])) {e : Entry} (he : e ∈ past k ops) : e.score ≤ o.now + skew := by
  obtain ⟨x, hx, -, rfl⟩ := mem_past.1 he
  exact h.now_le hx

theorem Steady.member_ne {h : Hit} {span skew : Int} {ops : List Op}
    (hs : Steady h.key span skew (ops ++ [.hit h])) {e : Entry} (he : e ∈ past h.key ops) :
    e.member ≠ h.member := by
  have hn := hs.nodup
  rw [past_concat, past_hit_self, map_append] at hn
  exact (nodup_append.1 hn).2.2 _ (mem_map_of_mem he) _ (mem_singleton_self _)

/-- Whatever second bounds all calls so far, the set of `k` tracks its history up to
there. -/
theorem tracks_after {k : String} {span skew : Int} {ops : List Op} (h : Steady k span skew ops)
    {latest : Int} (hl : ∀ o ∈ ops, o.now ≤ latest) :
    WindowSet.Tracks span skew latest (past k ops) (set (after .empty ops) k) := by
  induction ops using reverseRecOn with
  | nil => exact .fresh
  | append_singleton ops o ih =>
    have ht := ih h.init fun o' ho => hl o' (mem_append_left _ ho)
    have ho : o.now ≤ latest := hl o (mem_append_right _ (mem_singleton_self o))
    rw [after_concat, past_concat]
    cases o with
    | hit x =>
      by_cases hk : k = x.key
      · subst hk
        obtain ⟨hfit, hspan⟩ := h.fits x (mem_append_right _ (mem_singleton_self _)) rfl
        rw [apply, set_hit_self _ hfit, past_hit_self]
        exact ht.record h.skew_nonneg hspan ho (fun e he => h.score_le he) fun e he => h.member_ne he
      · rw [apply, set_hit_of_ne _ hk, past_hit_of_ne hk, append_nil]
        exact ht
    | purge now =>
      rw [apply, set_purge, past_purge, append_nil]
      exact ht.purge ho
    | count key now =>
      rw [apply, past_count, append_nil]
      exact ht

end Windows

end QuotaGate
