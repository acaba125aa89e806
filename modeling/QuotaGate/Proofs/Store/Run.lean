/-
Runs of calls on the window sets held in the process.

`Windows.after` is the state that a list of calls leaves.  A call touches the sets of
the store one by one, so that what becomes of a key can be told from its own set:

* `hit_of_holds` — a hit whose window lies within the clock's range, as one equation;
* `set_hit_self`, `set_hit_of_ne` — its own set has the hit entered, the others stay;
* `set_purge` — a purge leaves a set alone or empties it.
-/
import Mathlib.Data.List.Induction
import QuotaGate.Store.Memory

namespace QuotaGate

/-- The window of a hit lies within the clock's range. -/
def Hit.Fits (h : Hit) : Prop :=
  Clock.Holds (h.now - h.span) ∧ Clock.Holds (h.now + h.span)

instance (h : Hit) : Decidable h.Fits :=
  inferInstanceAs (Decidable (_ ∧ _))

/-- What a hit leaves in the set of its key. -/
def Hit.entry (h : Hit) : Entry :=
  ⟨h.now, h.member⟩

/-- The entries that a hit keeps: those in its window, unless they have its member. -/
def Hit.keeps (h : Hit) (e : Entry) : Bool :=
  decide (h.now - h.span < e.score) && decide (e.member ≠ h.member)

namespace WindowSet

/-- The set after a hit whose window lies within the clock's range. -/
def record (s : WindowSet) (h : Hit) : WindowSet :=
  { s.enter (h.now - h.span) h.now h.member with expiresAt := h.now + h.span }

theorem entries_record (s : WindowSet) (h : Hit) :
    (s.record h).entries = (s.live h.now).filter h.keeps ++ [h.entry] := rfl

@[simp] theorem expiresAt_record (s : WindowSet) (h : Hit) :
    (s.record h).expiresAt = h.now + h.span := rfl

theorem isExpired_iff {s : WindowSet} {now : Int} : s.isExpired now = true ↔ s.expiresAt ≤ now := by
  simp [isExpired]

theorem live_of_lt {s : WindowSet} {now : Int} (h : now < s.expiresAt) : s.live now = s.entries := by
  rw [live, if_neg]
  rw [isExpired_iff]
  omega

theorem live_of_le {s : WindowSet} {now : Int} (h : s.expiresAt ≤ now) : s.live now = [] := by
  rw [live, if_pos (isExpired_iff.2 h)]

@[simp] theorem live_fresh (now : Int) : fresh.live now = [] := by
  rw [live]
  split <;> rfl

theorem live_sublist (s : WindowSet) (now : Int) : (s.live now).Sublist s.entries := by
  rw [live]
  split
  · exact List.nil_sublist _
  · exact List.Sublist.refl _

end WindowSet

namespace Windows

/-- A call on the window sets. -/
inductive Op
  | hit (h : Hit)
  | purge (now : Int)
  | count (key : String) (now : Int)
  deriving DecidableEq, Repr

/-- The second that a call is made at. -/
def Op.now : Op → Int
  | .hit h => h.now
  | .purge now => now
  | .count _ now => now

/-- The state that a call leaves. -/
def apply (w : Windows) : Op → Windows
  | .hit h => (w.hit h).1
  | .purge now => (w.purge now).1
  | .count _ _ => w

/-- The state that calls leave. -/
def after (w : Windows) (ops : List Op) : Windows :=
  ops.foldl apply w

@[simp] theorem after_concat (w : Windows) (ops : List Op) (o : Op) :
    w.after (ops ++ [o]) = (w.after ops).apply o := by
  simp [after]

/-! ### One set at a time -/

theorem hit_of_holds (w : Windows) {h : Hit} (hh : h.Fits) :
    w.hit h
      = (w.insert h.key ((w.set h.key).record h),
          .ok ((w.set h.key).record h).entries.length) := by
  have hb : Clock.before h.now h.span = .ok (h.now - h.span) := Clock.before_eq_ok.2 ⟨hh.1, rfl⟩
  have ha : Clock.after h.now h.span = .ok (h.now + h.span) := Clock.after_eq_ok.2 ⟨hh.2, rfl⟩
  simp only [hit, hb, ha]
  rfl

theorem set_hit_self (w : Windows) {h : Hit} (hh : h.Fits) :
    set (w.hit h).1 h.key = (w.set h.key).record h := by
  rw [hit_of_holds w hh]
  simp [set]

theorem get?_hit_of_ne (w : Windows) {h : Hit} {k : String} (hk : k ≠ h.key) :
    (w.hit h).1.get? k = w.get? k := by
  rw [hit]
  split
  · rfl
  · dsimp only
    split <;> exact Table.get?_insert_of_ne _ _ hk

theorem set_hit_of_ne (w : Windows) {h : Hit} {k : String} (hk : k ≠ h.key) :
    set (w.hit h).1 k = w.set k := by
  rw [set, set, get?_hit_of_ne w hk]

/-- A hit leaves nothing but what was there, and its own entry. -/
theorem mem_entries_hit {w : Windows} {h : Hit} {k : String} {e : Entry} (he : e ∈ (set (w.hit h).1 k).entries) :
    e ∈ (w.set k).entries ∨ k = h.key ∧ e = h.entry := by
  by_cases hk : k = h.key
  · subst hk
    have henter : ∀ start, e ∈ ((w.set h.key).enter start h.now h.member).entries →
        e ∈ (w.set h.key).entries ∨ h.key = h.key ∧ e = h.entry := by
      intro start he
      rcases List.mem_append.1 he with he | he
      · exact .inl ((WindowSet.live_sublist _ _).mem (List.mem_filter.1 he).1)
      · exact .inr ⟨rfl, List.mem_singleton.1 he⟩
    rw [hit] at he
    cases hb : Clock.before h.now h.span with
    | error o => exact .inl (by simpa [hb] using he)
    | ok start =>
      refine henter start ?_
      cases ha : Clock.after h.now h.span <;> simpa [hb, ha, set] using he
  · rw [set_hit_of_ne w hk] at he
    exact .inl he

theorem set_purge (w : Windows) (now : Int) (k : String) :
    set (w.purge now).1 k = if (w.set k).isExpired now then .fresh else w.set k := by
  have hg : (w.purge now).1.get? k = (w.get? k).filter fun s => !s.isExpired now :=
    Table.get?_filter w _ k
  rw [set, set, hg]
  rcases w.get? k with _ | s
  · simp
  · cases hs : s.isExpired now <;> simp [Option.filter, hs]

end Windows

end QuotaGate
