/-
What a hit drops.

A hit is to drop what is older than its window, and an earlier entry of its own member, and
to count all the rest.  But a set that it finds past its end it empties.  The end lies a
window after the hit that was written last, and so moves back when this hit comes late;
the entries of hits that are stamped later stay behind, in the window and yet past the
end.

* `expiresAt_after_hits` — after any hits, the end of a set is that of the last hit on it;
* `keepsWindow_iff_of_set` — a hit keeps its window just if it comes before the end of the
  set, or nothing of the set is in the window;
* `keepsWindow_after_hits` — the same of every state that hits leave, with what is lost
  otherwise.
-/
import Mathlib.Data.List.Induction
import QuotaGate.Proofs.Store.Run

namespace QuotaGate

/-- The hit drops no entry of its window, unless it has the hit's own member, and counts
all that it keeps and itself. -/
structure Hit.KeepsWindow (h : Hit) (w : Windows) : Prop where
  stored : ∀ e ∈ (w.set h.key).entries, h.now - h.span < e.score → e.member ≠ h.member →
    e ∈ (Windows.set (w.hit h).1 h.key).entries
  counted : (w.hit h).2 = .ok ((w.set h.key).entries.countP h.keeps + 1)

theorem Hit.keeps_iff {h : Hit} {e : Entry} : h.keeps e ↔ h.now - h.span < e.score ∧ e.member ≠ h.member := by
  simp [Hit.keeps]

namespace Windows

/-! ### One hit -/

/-- A hit on a set that is past its end leaves its own entry alone. -/
theorem entries_hit_of_expired (w : Windows) {h : Hit} (hfit : h.Fits) (hend : (w.set h.key).expiresAt ≤ h.now) :
    (set (w.hit h).1 h.key).entries = [h.entry] ∧ (w.hit h).2 = .ok 1 := by
  rw [set_hit_self w hfit, hit_of_holds w hfit, WindowSet.entries_record, WindowSet.live_of_le hend]
  exact ⟨rfl, rfl⟩

/-- A hit on any other set keeps just its window. -/
theorem entries_hit_of_lt (w : Windows) {h : Hit} (hfit : h.Fits) (hend : h.now < (w.set h.key).expiresAt) :
    (set (w.hit h).1 h.key).entries = (w.set h.key).entries.filter h.keeps ++ [h.entry]
      ∧ (w.hit h).2 = .ok ((w.set h.key).entries.countP h.keeps + 1) := by
  rw [set_hit_self w hfit, hit_of_holds w hfit, WindowSet.entries_record, WindowSet.live_of_lt hend,
    List.length_append, ← List.countP_eq_length_filter]
  exact ⟨rfl, rfl⟩

theorem keepsWindow_iff_of_set (w : Windows) {h : Hit} (hfit : h.Fits) :
    h.KeepsWindow w ↔ h.now < (w.set h.key).expiresAt ∨ ∀ e ∈ (w.set h.key).entries, ¬h.keeps e := by
  by_cases hend : h.now < (w.set h.key).expiresAt
  · obtain ⟨hentries, hcount⟩ := w.entries_hit_of_lt hfit hend
    refine iff_of_true ⟨fun e he hscore hmember => ?_, hcount⟩ (.inl hend)
    rw [hentries]
    exact List.mem_append_left _ (List.mem_filter.2 ⟨he, Hit.keeps_iff.2 ⟨hscore, hmember⟩⟩)
  · obtain ⟨hentries, hcount⟩ := w.entries_hit_of_expired hfit (Int.not_lt.1 hend)
    constructor
    · -- Of what is in the window nothing is left but the hit's own entry.
      refine fun hk => .inr fun e he hkeeps => ?_
      obtain ⟨hscore, hmember⟩ := Hit.keeps_iff.1 hkeeps
      have hleft := hk.stored e he hscore hmember
      rw [hentries, List.mem_singleton] at hleft
      exact hmember (congrArg Entry.member hleft)
    · refine fun hnone => ⟨fun e he hscore hmember => ?_, ?_⟩
      · exact absurd (Hit.keeps_iff.2 ⟨hscore, hmember⟩) (hnone.resolve_left hend e he)
      · rw [hcount, List.countP_eq_zero.2 (hnone.resolve_left hend)]

/-! ### The end of a set -/

/-- The last of some hits on a key that came to an answer. -/
def lastOn (k : String) (hits : List Hit) : Option Hit :=
  (hits.filter fun x => x.key = k ∧ x.Fits).getLast?

/-- The end of the set of a key that some hits have written. -/
def endOn (k : String) (hits : List Hit) : Int :=
  match lastOn k hits with
  | none => 0
  | some x => x.now + x.span

theorem lastOn_concat (k : String) (hits : List Hit) (x : Hit) :
    lastOn k (hits ++ [x]) = if x.key = k ∧ x.Fits then some x else lastOn k hits := by
  by_cases hx : x.key = k ∧ x.Fits
  · simp [lastOn, hx]
  · rw [if_neg hx, lastOn, lastOn, List.filter_append]
    simp only [List.filter_cons, hx, decide_false, Bool.false_eq_true, if_false, List.filter_nil, List.append_nil]

theorem mem_of_lastOn {k : String} {hits : List Hit} {x : Hit} (h : lastOn k hits = some x) : x ∈ hits ∧ x.key = k ∧ x.Fits := by
  obtain ⟨hmem, hx⟩ := List.mem_filter.1 (List.mem_of_getLast? h)
  exact ⟨hmem, of_decide_eq_true hx⟩

/-- A hit that ends in a fault of the clock leaves the end of the set where it was. -/
theorem expiresAt_hit_of_not_fits (w : Windows) {h : Hit} (hh : ¬h.Fits) :
    (set (w.hit h).1 h.key).expiresAt = (w.set h.key).expiresAt := by
  rw [hit]
  cases hb : Clock.before h.now h.span with
  | error o => rfl
  | ok start =>
    cases ha : Clock.after h.now h.span with
    | error o => simp [set, WindowSet.enter]
    | ok expiry => exact absurd ⟨(Clock.before_eq_ok.1 hb).1, (Clock.after_eq_ok.1 ha).1⟩ hh

/-- All that hits leave under a key are entries of hits on it. -/
theorem mem_after_hits {k : String} {hits : List Hit} {e : Entry}
    (he : e ∈ (set (after .empty (hits.map .hit)) k).entries) : ∃ x ∈ hits, x.key = k ∧ x.entry = e := by
  induction hits using List.reverseRecOn with
  | nil => cases he
  | append_singleton hits x ih =>
    rw [List.map_append, List.map_singleton, after_concat, apply] at he
    rcases mem_entries_hit he with he | ⟨rfl, rfl⟩
    · obtain ⟨y, hy, hye⟩ := ih he
      exact ⟨y, List.mem_append_left _ hy, hye⟩
    · exact ⟨x, List.mem_append_right _ (List.mem_singleton_self x), rfl, rfl⟩

theorem expiresAt_after_hits (k : String) (hits : List Hit) :
    (set (after .empty (hits.map .hit)) k).expiresAt = endOn k hits := by
  induction hits using List.reverseRecOn with
  | nil => rfl
  | append_singleton hits x ih =>
    rw [List.map_append, List.map_singleton, after_concat, apply, endOn, lastOn_concat]
    by_cases hk : k = x.key
    · subst hk
      by_cases hx : x.Fits
      · rw [if_pos ⟨rfl, hx⟩, set_hit_self _ hx, WindowSet.expiresAt_record]
      · rw [if_neg fun h => hx h.2, expiresAt_hit_of_not_fits _ hx, ih, endOn]
    · rw [if_neg fun h => hk h.1.symm, set_hit_of_ne _ hk, ih, endOn]

/-! ### After hits in any order -/

/-- **A hit keeps its window, unless the hit before it was late.**  After hits of one span
in any order, a further hit keeps its window just if it comes before the end of the last
one, or nothing is in its window.  So it does if none of the hits on its key is stamped
later than the last of them; and whatever it loses is stamped later than that one. -/
theorem keepsWindow_after_hits {hits : List Hit} {h : Hit} (hspan : ∀ x ∈ hits, x.span = h.span) (hfit : h.Fits) :
    let w := after .empty (hits.map .hit)
    (h.KeepsWindow w ↔ h.now < endOn h.key hits ∨ ∀ e ∈ (w.set h.key).entries, ¬h.keeps e)
      ∧ ∀ x, lastOn h.key hits = some x →
        ((∀ y ∈ hits, y.key = h.key → y.now ≤ x.now) → h.KeepsWindow w)
          ∧ ∀ e ∈ (w.set h.key).entries, h.keeps e → e ∉ (set (w.hit h).1 h.key).entries →
            x.now ≤ h.now - h.span ∧ x.now < e.score := by
  intro w
  have hend : (w.set h.key).expiresAt = endOn h.key hits := expiresAt_after_hits h.key hits
  have hiff := keepsWindow_iff_of_set w hfit
  rw [hend] at hiff
  refine ⟨hiff, fun x hx => ?_⟩
  have hlast : endOn h.key hits = x.now + h.span := by
    rw [endOn, hx, ← hspan x (mem_of_lastOn hx).1]
  rw [hlast] at hiff
  refine ⟨fun horder => ?_, fun e he hkeeps hlost => ?_⟩
  · rw [hiff]
    refine or_iff_not_imp_left.2 fun hlate e he hkeeps => ?_
    -- Past the end, everything that is stamped no later than the last hit is out of the window.
    obtain ⟨y, hy, hkey, rfl⟩ := mem_after_hits he
    have hscore := (Hit.keeps_iff.1 hkeeps).1
    have hle := horder y hy hkey
    simp only [Hit.entry] at hscore
    omega
  · obtain ⟨hscore, hmember⟩ := Hit.keeps_iff.1 hkeeps
    have hlate : ¬h.now < x.now + h.span := fun hlt =>
      hlost ((hiff.2 (.inl hlt)).stored e he hscore hmember)
    omega

/-- Two hits, of which the second is four seconds late. -/
def lateHits : List Hit :=
  [⟨"k", "a", 104, 60⟩, ⟨"k", "b", 100, 60⟩]

/-- Up to the end that the late hit has set all is kept, and counted. -/
theorem lateHits_keepsWindow :
    (∀ x ∈ lateHits, x.span = 60) ∧ (⟨"k", "c", 159, 60⟩ : Hit).Fits
      ∧ (⟨"k", "c", 159, 60⟩ : Hit).KeepsWindow (after .empty (lateHits.map .hit))
      ∧ ((after .empty (lateHits.map .hit)).hit ⟨"k", "c", 159, 60⟩).2 = .ok 3 := by
  have hspan : ∀ x ∈ lateHits, x.span = 60 := by decide
  have hfit : (⟨"k", "c", 159, 60⟩ : Hit).Fits := by decide
  have hkeeps := (keepsWindow_after_hits (h := ⟨"k", "c", 159, 60⟩) hspan hfit).1.2 (.inl (by decide))
  exact ⟨hspan, hfit, hkeeps, hkeeps.counted.trans (by decide)⟩

/-- One second later the hit of second 104 is still in the window of a minute, but it is
gone, and not counted. -/
theorem lateHits_forgotten :
    let w := after .empty (lateHits.map .hit)
    let h : Hit := ⟨"k", "c", 160, 60⟩
    (∀ x ∈ lateHits, x.span = h.span) ∧ 0 < h.span ∧ h.Fits
      ∧ ⟨104, "a"⟩ ∈ (w.set "k").entries ∧ h.now - h.span < 104
      ∧ (set (w.hit h).1 "k").entries = [⟨160, "c"⟩] ∧ (w.hit h).2 = .ok 1 ∧ ¬h.KeepsWindow w := by
  refine ⟨by decide, by decide, by decide, by decide, by decide, by decide, by decide, fun hkeeps => ?_⟩
  exact absurd hkeeps.counted (by decide)

end Windows

end QuotaGate
