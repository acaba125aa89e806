/-
Purging is not seen.

A set that is past its end is dead weight: the next hit on its key empties it, and a count
passes over it.  A purge only does so at once.  So no hit and no count from then on tells
whether a purge was made (`purge_unobservable`).

* `SameFrom` — two states in which every key has the same live members at every second
  from some second on;
* `SameFrom.apply`, `SameFrom.answer` — every call from then on is answered alike, and
  keeps the two states so;
* `purge_unobservable` — this of a purge, and what the purge itself does.

Design notes: the two states may differ in what they hold.  One may have a dead set where
the other has none; the next hit makes both anew, the one with the dead set's end and the
other with none, which is why the relation speaks of what is live, and not of the sets.
-/
import Mathlib.Data.List.Basic
import QuotaGate.Proofs.Store.Run

namespace QuotaGate

namespace WindowSet

/-- What a hit makes of a set is told by the members that are live then. -/
theorem record_congr {s s' : WindowSet} {h : Hit} (hs : s.live h.now = s'.live h.now) :
    s.record h = s'.record h := by
  rw [record, record, enter, enter, hs]

/-- If all that is live in one set from `t` on is live in the other, it stays so when both
are emptied in case they are past their end. -/
theorem live_discard_sublist {s s' : WindowSet} {t cut now : Int} (hs : ∀ u, t ≤ u → (s.live u).Sublist (s'.live u))
    (hcut : t ≤ cut) (hnow : t ≤ now) :
    ((if s.isExpired cut then fresh else s).live now).Sublist ((if s'.isExpired cut then fresh else s').live now) := by
  split
  · rw [live_fresh]
    exact List.nil_sublist _
  · rename_i hx
    split
    · -- Only the larger set is dropped: then the smaller one has no member at `cut`, nor later.
      rename_i hy
      have hlt : cut < s.expiresAt := Int.not_le.1 fun h => hx (isExpired_iff.2 h)
      have hnone := hs cut hcut
      rw [live_of_lt hlt, live_of_le (isExpired_iff.1 hy)] at hnone
      rw [live_fresh, ← List.sublist_nil.1 hnone]
      exact live_sublist s now
    · exact hs now hnow

/-- A set that is emptied once it is past its end has the members live at any second from
`t` on, for an end after `t` only if these are none. -/
theorem live_discard {s s' : WindowSet} {t cut now : Int} (hs : ∀ u, t ≤ u → s.live u = s'.live u)
    (hcut : t ≤ cut) (hnow : t ≤ now) :
    (if s.isExpired cut then fresh else s).live now = (if s'.isExpired cut then fresh else s').live now := by
  refine (live_discard_sublist (fun u hu => ?_) hcut hnow).antisymm (live_discard_sublist (fun u hu => ?_) hcut hnow)
  · rw [hs u hu]
  · rw [hs u hu]

end WindowSet

namespace Windows

/-- What a call tells its caller of the sets: a hit and a count answer with a size, and a
purge tells nothing of them. -/
def answer (w : Windows) : Op → Option (Except Clock.Overflow Nat)
  | .hit h => some (w.hit h).2
  | .count key now => some (.ok (w.count key now))
  | .purge _ => none

/-- What calls tell, one after the other. -/
def answers (w : Windows) : List Op → List (Option (Except Clock.Overflow Nat))
  | [] => []
  | o :: ops => w.answer o :: answers (w.apply o) ops

theorem count_eq (w : Windows) (key : String) (now : Int) :
    w.count key now = ((w.set key).live now).length := by
  rw [count, set]
  cases w.get? key with
  | none => rw [Option.getD_none, WindowSet.live_fresh, List.length_nil]
  | some s => rfl

/-! ### States that are the same from some second on -/

/-- Every key has the same live members at every second from `t` on. -/
def SameFrom (t : Int) (w w' : Windows) : Prop :=
  ∀ k now, t ≤ now → (w.set k).live now = (w'.set k).live now

namespace SameFrom

variable {t : Int} {w w' : Windows}

/-- A purge changes nothing that is live from then on. -/
theorem purge_left (w : Windows) (t : Int) : SameFrom t (w.purge t).1 w := by
  intro k now hnow
  rw [set_purge]
  split
  · rename_i hs
    have hend := WindowSet.isExpired_iff.1 hs
    rw [WindowSet.live_fresh, WindowSet.live_of_le (by omega)]
  · rfl

/-- A call may come from `t` on: it is not before, and its window lies within the clock's
range. -/
def Admissible (t : Int) (o : Op) : Prop :=
  t ≤ o.now ∧ ∀ h, o = .hit h → h.Fits

theorem apply (hw : SameFrom t w w') {o : Op} (ho : Admissible t o) : SameFrom t (w.apply o) (w'.apply o) := by
  intro k now hnow
  cases o with
  | hit h =>
    have hfit := ho.2 h rfl
    change (set (w.hit h).1 k).live now = (set (w'.hit h).1 k).live now
    by_cases hk : k = h.key
    · subst hk
      rw [set_hit_self w hfit, set_hit_self w' hfit, WindowSet.record_congr (hw h.key h.now ho.1)]
    · rw [set_hit_of_ne w hk, set_hit_of_ne w' hk]
      exact hw k now hnow
  | purge cut =>
    change (set (w.purge cut).1 k).live now = (set (w'.purge cut).1 k).live now
    rw [set_purge, set_purge]
    exact WindowSet.live_discard (hw k) ho.1 hnow
  | count key u => exact hw k now hnow

theorem answer (hw : SameFrom t w w') {o : Op} (ho : Admissible t o) : w.answer o = w'.answer o := by
  cases o with
  | hit h =>
    have hfit := ho.2 h rfl
    change some (w.hit h).2 = some (w'.hit h).2
    rw [hit_of_holds w hfit, hit_of_holds w' hfit, WindowSet.record_congr (hw h.key h.now ho.1)]
  | purge cut => rfl
  | count key now =>
    change some (Except.ok (w.count key now)) = some (Except.ok (w'.count key now))
    rw [count_eq, count_eq, hw key now ho.1]

theorem answers (hw : SameFrom t w w') {ops : List Op} (hops : ∀ o ∈ ops, Admissible t o) :
    w.answers ops = w'.answers ops := by
  induction ops generalizing w w' with
  | nil => rfl
  | cons o ops ih =>
    have ho := hops o List.mem_cons_self
    rw [Windows.answers, Windows.answers, hw.answer ho,
      ih (hw.apply ho) fun x hx => hops x (List.mem_cons_of_mem _ hx)]

end SameFrom

/-! ### The purge itself -/

theorem get?_purge (w : Windows) (t : Int) (k : String) :
    (w.purge t).1.get? k = (w.get? k).filter fun s => t < s.expiresAt := by
  have hkeep : (fun s : WindowSet => !s.isExpired t) = fun s => decide (t < s.expiresAt) := by
    funext s
    simp [WindowSet.isExpired, ← decide_not]
  rw [← hkeep]
  exact Table.get?_filter w _ k

theorem purge_snd (w : Windows) (t : Int) :
    (w.purge t).2 = w.rows.countP fun r => r.2.expiresAt ≤ t := by
  have hsize := Table.size_filter_add w fun s : WindowSet => !s.isExpired t
  have hgone : (w.filter fun s : WindowSet => !!s.isExpired t).size
      = w.rows.countP fun r => r.2.expiresAt ≤ t := by
    simp only [Bool.not_not]
    exact List.countP_eq_length_filter.symm
  change w.size - (w.filter fun s : WindowSet => !s.isExpired t).size = _
  omega

/-- Nothing is left for a purge at the same second or an earlier one. -/
theorem purge_purge (w : Windows) {t u : Int} (hu : u ≤ t) :
    (w.purge t).1.purge u = ((w.purge t).1, 0) := by
  have hrows : (w.purge t).1.rows.filter (fun r => !r.2.isExpired u) = (w.purge t).1.rows := by
    refine List.filter_eq_self.2 fun r hr => ?_
    have hlive : (!r.2.isExpired t) = true := (List.mem_filter.1 hr).2
    simp only [WindowSet.isExpired, Bool.not_eq_true', decide_eq_false_iff_not] at hlive ⊢
    omega
  have hkept : (w.purge t).1.filter (fun s => !s.isExpired u) = (w.purge t).1 := by
    rw [Table.filter]
    generalize (w.purge t).1 = v at hrows
    obtain ⟨rows, nodup⟩ := v
    simp only [hrows]
  rw [purge, hkept, Nat.sub_self]

/-- **Purging is not observed.**  From any state, hits and counts that come no earlier
than a purge, in any order among themselves and with further purges in between, are
answered as if it had not been made.  The purge removes just the sets that are past their
end, says how many they were, and leaves nothing to another one that is no later. -/
theorem purge_unobservable (w : Windows) (t : Int) :
    (∀ ops : List Op, (∀ o ∈ ops, t ≤ o.now) → (∀ h, .hit h ∈ ops → h.Fits) →
        answers (w.purge t).1 ops = w.answers ops)
      ∧ (∀ k, (w.purge t).1.get? k = (w.get? k).filter fun s => t < s.expiresAt)
      ∧ (w.purge t).2 = w.rows.countP (fun r => r.2.expiresAt ≤ t)
      ∧ ∀ u ≤ t, (w.purge t).1.purge u = ((w.purge t).1, 0) := by
  refine ⟨fun ops hnow hfit => ?_, w.get?_purge t, w.purge_snd t, fun u hu => w.purge_purge hu⟩
  refine (SameFrom.purge_left w t).answers fun o ho => ⟨hnow o ho, fun h he => hfit h ?_⟩
  exact he ▸ ho

/-- Three keys, of which one is past its end at second 170 and one just then. -/
def worn : Windows :=
  ⟨[("a", ⟨[⟨100, "x"⟩, ⟨101, "y"⟩], 161⟩), ("b", ⟨[⟨150, "x"⟩], 210⟩), ("c", ⟨[⟨110, "x"⟩], 170⟩)], by decide⟩

/-- Calls after a purge at second 170, out of order. -/
def lateCalls : List Op :=
  [.count "c" 170, .hit ⟨"b", "y", 209, 60⟩, .hit ⟨"a", "z", 171, 60⟩, .purge 231, .count "a" 180, .hit ⟨"c", "z", 175, 100⟩,
    .hit ⟨"b", "z", 170, 60⟩]

theorem worn_lateCalls :
    (∀ o ∈ lateCalls, 170 ≤ o.now) ∧ (∀ h, .hit h ∈ lateCalls → h.Fits)
      ∧ answers (worn.purge 170).1 lateCalls
        = [some (.ok 0), some (.ok 2), some (.ok 1), none, some (.ok 0), some (.ok 1), some (.ok 3)]
      ∧ (worn.purge 170).2 = 2 := by
  have hnow : ∀ o ∈ lateCalls, 170 ≤ o.now := by decide
  have hfit : ∀ h, .hit h ∈ lateCalls → h.Fits := by
    intro h hh
    simp only [lateCalls, List.mem_cons, Op.hit.injEq, reduceCtorEq, List.not_mem_nil, false_or, or_false] at hh
    rcases hh with rfl | rfl | rfl | rfl <;> decide
  obtain ⟨hsame, -, hgone, -⟩ := purge_unobservable worn 170
  exact ⟨hnow, hfit, (hsame lateCalls hnow hfit).trans (by decide), hgone.trans (by decide)⟩

end Windows

end QuotaGate
