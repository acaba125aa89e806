/-
The order within a set does not matter.

A call looks at the entries of a set one by one, and at how many they are, but never at
the order in which they were written.  So states that differ in this order alone are
answered alike for ever (`Reordered.hit`, `Reordered.purge`, `Reordered.count`).  Hits of
one second are told apart by nothing else once they are all written: whichever of two
comes first, neither drops the other (`hit_comm`).

* `after_perm` — hits of one second leave the same in whatever order they come, up to the
  order within the sets.
-/
import Mathlib.Data.List.Perm.Basic
import QuotaGate.Proofs.Store.Purge

namespace QuotaGate

open List

/-- The same entries in some order, with the same end. -/
structure WindowSet.Reordered (s s' : WindowSet) : Prop where
  entries : s.entries ~ s'.entries
  expiresAt : s.expiresAt = s'.expiresAt

namespace WindowSet.Reordered

variable {s s' s'' : WindowSet}

theorem refl (s : WindowSet) : s.Reordered s := ⟨.refl _, rfl⟩

theorem trans (h : s.Reordered s') (h' : s'.Reordered s'') : s.Reordered s'' :=
  ⟨h.entries.trans h'.entries, h.expiresAt.trans h'.expiresAt⟩

theorem isExpired (h : s.Reordered s') (now : Int) : s.isExpired now = s'.isExpired now := by
  rw [WindowSet.isExpired, WindowSet.isExpired, h.expiresAt]

theorem live (h : s.Reordered s') (now : Int) : s.live now ~ s'.live now := by
  rw [WindowSet.live, WindowSet.live, h.isExpired now]
  split
  · exact .refl _
  · exact h.entries

theorem enter (h : s.Reordered s') (start now : Int) (member : String) :
    (s.enter start now member).Reordered (s'.enter start now member) :=
  ⟨((h.live now).filter _).append_right _, h.expiresAt⟩

end WindowSet.Reordered

namespace Windows

/-- The same keys, each with the same entries in some order and the same end. -/
def Reordered (w w' : Windows) : Prop :=
  ∀ k, Option.Rel WindowSet.Reordered (w.get? k) (w'.get? k)

namespace Reordered

variable {w w' w'' : Windows}

theorem get? (h : Reordered w w') (k : String) :
    (w.get? k = none ∧ w'.get? k = none) ∨ ∃ s s', w.get? k = some s ∧ w'.get? k = some s' ∧ s.Reordered s' := by
  have hk := h k
  generalize w.get? k = a at hk
  generalize w'.get? k = b at hk
  cases hk with
  | none => exact .inl ⟨rfl, rfl⟩
  | some hs => exact .inr ⟨_, _, rfl, rfl, hs⟩

theorem set (h : Reordered w w') (k : String) : (w.set k).Reordered (w'.set k) := by
  rw [Windows.set, Windows.set]
  rcases h.get? k with ⟨hw, hw'⟩ | ⟨s, s', hw, hw', hs⟩
  · rw [hw, hw']
    exact .refl _
  · rw [hw, hw']
    exact hs

theorem refl (w : Windows) : Reordered w w := fun k => by
  cases w.get? k with
  | none => exact .none
  | some s => exact .some (.refl s)

theorem trans (h : Reordered w w') (h' : Reordered w' w'') : Reordered w w'' := by
  intro k
  rcases h.get? k with ⟨hw, hw'⟩ | ⟨s, s', hw, hw', hs⟩
  · have hk := h' k
    rw [hw'] at hk
    rw [hw]
    exact hk
  · rcases h'.get? k with ⟨hn, -⟩ | ⟨t, t', ht, ht', hts⟩
    · rw [hw'] at hn
      cases hn
    · obtain rfl : s' = t := Option.some.inj (hw'.symm.trans ht)
      rw [hw, ht']
      exact .some (hs.trans hts)

theorem insert (h : Reordered w w') (k : String) {s s' : WindowSet} (hs : s.Reordered s') :
    Reordered (w.insert k s) (w'.insert k s') := by
  intro x
  by_cases hx : x = k
  · subst hx
    rw [Table.get?_insert_self, Table.get?_insert_self]
    exact .some hs
  · rw [Table.get?_insert_of_ne _ _ hx, Table.get?_insert_of_ne _ _ hx]
    exact h x

/-! ### Calls -/

/-- A hit, whether or not it ends in a fault. -/
theorem hit (h : Reordered w w') (x : Hit) : (w.hit x).2 = (w'.hit x).2 ∧ Reordered (w.hit x).1 (w'.hit x).1 := by
  rw [Windows.hit, Windows.hit]
  cases Clock.before x.now x.span with
  | error o => exact ⟨rfl, h⟩
  | ok start =>
    have hs := (h.set x.key).enter start x.now x.member
    cases Clock.after x.now x.span with
    | error o => exact ⟨rfl, h.insert _ hs⟩
    | ok expiry => exact ⟨congrArg Except.ok hs.entries.length_eq, h.insert _ ⟨hs.entries, rfl⟩⟩

theorem purge (h : Reordered w w') (now : Int) : Reordered (w.purge now).1 (w'.purge now).1 := by
  intro k
  rw [get?_purge, get?_purge]
  rcases h.get? k with ⟨hw, hw'⟩ | ⟨s, s', hw, hw', hs⟩
  · rw [hw, hw']
    exact .none
  · rw [hw, hw', Option.filter_some, Option.filter_some, ← hs.expiresAt]
    split
    · exact .some hs
    · exact .none

theorem count (h : Reordered w w') (k : String) (now : Int) : w.count k now = w'.count k now := by
  rw [count_eq, count_eq]
  exact ((h.set k).live now).length_eq

theorem apply (h : Reordered w w') (o : Op) : Reordered (w.apply o) (w'.apply o) := by
  cases o with
  | hit x => exact (h.hit x).2
  | purge now => exact h.purge now
  | count k now => exact h

theorem after (h : Reordered w w') (ops : List Op) : Reordered (w.after ops) (w'.after ops) := by
  induction ops generalizing w w' with
  | nil => exact h
  | cons o ops ih => exact ih (h.apply o)

end Reordered

end Windows

/-! ### Hits of one second -/

/-- Two hits at one second whose windows are of one length, and within the clock's range. -/
structure Hit.Simultaneous (h h' : Hit) : Prop where
  now : h.now = h'.now
  span : h.span = h'.span
  span_pos : 0 < h.span
  fits : h.Fits

namespace Hit.Simultaneous

variable {h h' : Hit}

theorem fits' (hs : h.Simultaneous h') : h'.Fits := by
  have hf := hs.fits
  rw [Hit.Fits, hs.now, hs.span] at hf
  exact hf

theorem symm (hs : h.Simultaneous h') : h'.Simultaneous h :=
  ⟨hs.now.symm, hs.span.symm, hs.span ▸ hs.span_pos, hs.fits'⟩

theorem eq_of_key_of_member (hs : h.Simultaneous h') (hk : h.key = h'.key) (hm : h.member = h'.member) : h = h' := by
  obtain ⟨hnow, hspan, -, -⟩ := hs
  cases h
  cases h'
  simp_all

/-- The entry of the one is in the window of the other. -/
theorem keeps_entry (hs : h.Simultaneous h') (hm : h.member ≠ h'.member) : h'.keeps h.entry := by
  have := hs.span_pos
  have := hs.now
  have := hs.span
  rw [Hit.keeps, Bool.and_eq_true, decide_eq_true_eq, decide_eq_true_eq]
  refine ⟨?_, hm⟩
  simp only [Hit.entry]
  omega

end Hit.Simultaneous

namespace WindowSet

variable {h h' : Hit}

/-- A set that was just hit is not past its end. -/
theorem live_record (s : WindowSet) (hs : h.Simultaneous h') :
    (s.record h).live h'.now = (s.live h.now).filter h.keeps ++ [h.entry] := by
  have hend : h'.now < (s.record h).expiresAt := by
    have := hs.span_pos
    rw [expiresAt_record, ← hs.now]
    omega
  rw [live_of_lt hend, entries_record]

theorem record_comm (s : WindowSet) (hs : h.Simultaneous h') (hm : h.member ≠ h'.member) :
    ((s.record h).record h').Reordered ((s.record h').record h) := by
  refine ⟨?_, ?_⟩
  · -- Neither drops the entry of the other, and what both keep is told in either order.
    rw [entries_record, entries_record, s.live_record hs, s.live_record hs.symm, filter_append, filter_append,
      filter_cons_of_pos (hs.keeps_entry hm), filter_cons_of_pos (hs.symm.keeps_entry hm.symm), filter_filter,
      filter_filter, ← hs.now, append_assoc, append_assoc]
    simp only [Bool.and_comm (h.keeps _)]
    exact (Perm.swap h'.entry h.entry []).append_left _
  · rw [expiresAt_record, expiresAt_record, hs.now, hs.span]

end WindowSet

namespace Windows

theorem get?_hit_self (w : Windows) {h : Hit} (hh : h.Fits) :
    (w.hit h).1.get? h.key = some ((w.set h.key).record h) := by
  rw [hit_of_holds w hh, Table.get?_insert_self]

theorem hit_comm (w : Windows) {h h' : Hit} (hs : h.Simultaneous h') :
    Reordered ((w.hit h).1.hit h').1 ((w.hit h').1.hit h).1 := by
  -- Hits on two keys do not meet; on one key they are one hit, or have two members.
  have own : ∀ {x y : Hit}, x.Simultaneous y → x.key ≠ y.key →
      ((w.hit x).1.hit y).1.get? x.key = ((w.hit y).1.hit x).1.get? x.key := by
    intro x y hxy hk
    rw [get?_hit_of_ne _ hk, get?_hit_self _ hxy.fits, get?_hit_self _ hxy.fits, set_hit_of_ne _ hk]
  intro k
  by_cases hk : h.key = h'.key
  · by_cases hx : k = h'.key
    · subst hx
      by_cases hm : h.member = h'.member
      · obtain rfl := hs.eq_of_key_of_member hk hm
        exact Reordered.refl _ _
      · rw [get?_hit_self _ hs.fits', ← hk, get?_hit_self _ hs.fits, set_hit_self _ hs.fits, hk, set_hit_self _ hs.fits']
        exact .some ((w.set h'.key).record_comm hs hm)
    · have hx' : k ≠ h.key := fun e => hx (e.trans hk)
      rw [get?_hit_of_ne _ hx, get?_hit_of_ne _ hx', get?_hit_of_ne _ hx', get?_hit_of_ne _ hx]
      exact Reordered.refl _ _
  · by_cases hx : k = h.key
    · subst hx
      rw [own hs hk]
      exact Reordered.refl _ _
    · by_cases hx' : k = h'.key
      · subst hx'
        rw [own hs.symm (Ne.symm hk)]
        exact Reordered.refl _ _
      · rw [get?_hit_of_ne _ hx', get?_hit_of_ne _ hx, get?_hit_of_ne _ hx, get?_hit_of_ne _ hx']
        exact Reordered.refl _ _

theorem after_perm {hits hits' : List Hit} (hp : hits ~ hits') (hs : ∀ x ∈ hits, ∀ y ∈ hits, x.Simultaneous y)
    (w : Windows) : Reordered (w.after (hits.map .hit)) (w.after (hits'.map .hit)) := by
  induction hp generalizing w with
  | nil => exact .refl _
  | cons x _ ih => exact ih (fun y hy z hz => hs y (mem_cons_of_mem _ hy) z (mem_cons_of_mem _ hz)) _
  | swap x y l =>
    have hcomm := w.hit_comm (hs y mem_cons_self x (mem_cons_of_mem _ mem_cons_self))
    exact hcomm.after (l.map .hit)
  | trans hp _ ih ih' =>
    exact (ih hs w).trans (ih' (fun y hy z hz => hs y (hp.mem_iff.2 hy) z (hp.mem_iff.2 hz)) w)

end Windows

end QuotaGate
