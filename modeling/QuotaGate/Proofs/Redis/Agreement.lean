/-
The window sets held in the process and those of a server answer alike.

A window set is a list in the order of writing, which is emptied only by the next hit or
by a purge; a sorted set maps members to scores, and is gone from its deadline on.
`Same` relates the two: the same members with the same scores, and the same end.  Every
call keeps the relation on every key (`Alike.hit`, `Alike.purge`), and so the sizes that
the two answer to hits are the same, one for one (`recorded_agree`).

Design notes: a hit removes the scores from 0 up to the start of its window on the
server, and all scores up to there in the process.  That is the same because no score is
negative, as long as no hit comes before 1970.
-/
import QuotaGate.Proofs.Redis.Server
import QuotaGate.Proofs.Store.Run

namespace QuotaGate

open List

/-- A hit as an enforcer makes it: not before 1970, with a span from one second to one
year, and with an end that the clock holds. -/
structure Hit.Regular (h : Hit) : Prop where
  now_nonneg : 0 ≤ h.now
  holds_end : Clock.Holds (h.now + h.span)
  span_pos : 0 < h.span
  span_le : h.span ≤ 31536000

theorem Hit.Regular.fits {h : Hit} (hr : h.Regular) : h.Fits := by
  have := hr.now_nonneg
  have := hr.span_pos
  have := hr.span_le
  have hend := hr.holds_end
  refine ⟨?_, hend⟩
  simp only [Clock.Holds] at hend ⊢
  omega

namespace Windows

/-- What the hits among some calls are answered, in order. -/
def recorded (w : Windows) : List Op → List (Except Clock.Overflow Nat)
  | [] => []
  | .hit h :: ops => (w.hit h).2 :: recorded (w.apply (.hit h)) ops
  | o :: ops => recorded (w.apply o) ops

end Windows

namespace Redis

namespace Server

/-- What a server does about a hit at the second of the hit: it gets the commands of the
transaction. -/
def hit (s : Server) (h : Hit) : Server × List Reply :=
  s.execute h.now none (Command.transaction h (h.now - h.span))

/-- What `ZCARD` answered within a transaction: the third of its results. -/
def size? : List Reply → Option Int
  | [_, _, _, _, _, .array [_, _, .integer n, _]] => some n
  | _ => none

/-- The server after the counterpart of a call on window sets. -/
def apply (s : Server) : Windows.Op → Server
  | .hit h => (s.hit h).1
  | .purge now => s.purge now
  | .count _ _ => s

/-- What `ZCARD` answers in the transactions of the hits among some calls, in order. -/
def recorded (s : Server) : List Windows.Op → List (Option Int)
  | [] => []
  | .hit h :: ops => size? (s.hit h).2 :: recorded (s.apply (.hit h)) ops
  | o :: ops => recorded (s.apply o) ops

end Server

/-! ### One key -/

/-- A row of a sorted set that stands for an entry. -/
def row (e : Entry) : String × Int :=
  (e.member, e.score)

/-- A window set and a sorted set that are the same. -/
structure Same (w : WindowSet) (s : SortedSet) : Prop where
  members : w.entries.map row ~ s.scores.rows
  deadline : s.deadline = some w.expiresAt
  nonneg : ∀ e ∈ w.entries, 0 ≤ e.score

theorem Same.isAlive {w : WindowSet} {s : SortedSet} (h : Same w s) (t : Int) :
    s.isAlive t = !w.isExpired t := by
  rw [SortedSet.isAlive, h.deadline]
  simp [WindowSet.isExpired, ← decide_not]

/-- Every key has the same set on both sides, or none. -/
def Alike (w : Windows) (s : Server) : Prop :=
  ∀ k, Option.Rel Same (w.get? k) (s.get? k)

variable {w : Windows} {s : Server}

theorem Alike.get? (h : Alike w s) (k : String) :
    (w.get? k = none ∧ s.get? k = none) ∨ ∃ x y, w.get? k = some x ∧ s.get? k = some y ∧ Same x y := by
  have hk := h k
  generalize w.get? k = a at hk
  generalize s.get? k = b at hk
  cases hk with
  | none => exact .inl ⟨rfl, rfl⟩
  | some hxy => exact .inr ⟨_, _, rfl, rfl, hxy⟩

theorem Alike.purge (h : Alike w s) (t : Int) : Alike (w.purge t).1 (s.purge t) := by
  intro k
  have hw : (w.purge t).1.get? k = (w.get? k).filter fun x => !x.isExpired t := Table.get?_filter w _ k
  have hs : (s.purge t).get? k = (s.get? k).filter (·.isAlive t) := Table.get?_filter s _ k
  rw [hw, hs]
  rcases h.get? k with ⟨hx, hy⟩ | ⟨x, y, hx, hy, hxy⟩
  · rw [hx, hy]
    exact .none
  · rw [hx, hy]
    rw [Option.filter_some, Option.filter_some, hxy.isAlive]
    by_cases hexp : x.isExpired t = true
    · simp only [hexp, Bool.not_true, Bool.false_eq_true, if_false]
      exact .none
    · simp only [hexp, Bool.not_false, if_true]
      exact .some hxy

/-- What a hit leaves of the members before it enters its own, on either side. -/
theorem Alike.survivors_perm (h : Alike w s) (t start : Int) (k : String) :
    (((w.set k).live t).filter fun e => start < e.score).map row ~ (s.survivors t k start).rows := by
  rw [Windows.set, Server.survivors, Server.set?]
  rcases h.get? k with ⟨hw, hs⟩ | ⟨x, y, hw, hs, hxy⟩
  · rw [hw, hs, Option.getD_none, WindowSet.live_fresh]
    exact .refl _
  · rw [hw, hs]
    simp only [Option.getD_some, Option.filter, hxy.isAlive, WindowSet.live]
    cases hx : x.isExpired t with
    | true => exact .refl _
    | false =>
      -- No score is negative, so that the range removes just what is not after the start.
      have hkeep : (x.entries.filter fun e => start < e.score).map row
          = (x.entries.map row).filter fun r => !(decide (0 ≤ r.2) && decide (r.2 ≤ start)) := by
        rw [filter_map]
        refine congrArg _ (filter_congr fun e he => ?_)
        have hn := hxy.nonneg e he
        by_cases hlt : start < e.score
        · simp [row, hlt, hn, Int.not_le.2 hlt]
        · simp [row, hlt, hn, Int.not_lt.1 hlt]
      simp only [Bool.false_eq_true, if_false, Bool.not_false, if_true]
      rw [hkeep]
      exact hxy.members.filter _

theorem Alike.nonneg (h : Alike w s) {k : String} {e : Entry} (he : e ∈ (w.set k).entries) : 0 ≤ e.score := by
  rw [Windows.set] at he
  rcases h.get? k with ⟨hw, -⟩ | ⟨x, y, hw, -, hxy⟩
  · rw [hw] at he
    exact absurd he not_mem_nil
  · rw [hw] at he
    exact hxy.nonneg e he

/-- The entries that a hit keeps, as rows: those in its window, less the row of its
member. -/
theorem map_row_filter_keeps (x : Hit) (es : List Entry) :
    (es.filter x.keeps).map row
      = ((es.filter fun e => x.now - x.span < e.score).map row).filter fun r => r.1 ≠ x.member := by
  rw [filter_map, filter_filter]
  refine congrArg _ (filter_congr fun e _ => ?_)
  rw [Hit.keeps, Bool.and_comm]
  rfl

/-- After a hit the set of its key is the same on both sides. -/
theorem Alike.same_record (h : Alike w s) {x : Hit} (hx : x.Regular) :
    Same ((w.set x.key).record x)
      ⟨(s.survivors x.now x.key (x.now - x.span)).insert x.member x.now, some (x.now + x.span)⟩ := by
  refine ⟨?_, rfl, fun e he => ?_⟩
  · -- Both sides drop an earlier entry of the member, and put the new one in.
    have hperm := h.survivors_perm x.now (x.now - x.span) x.key
    rw [WindowSet.entries_record, map_append, map_row_filter_keeps]
    exact ((hperm.filter _).append_right _).trans (Table.setRow_perm (Table.nodup _)).symm
  · rw [WindowSet.entries_record] at he
    rcases mem_append.1 he with he | he
    · exact h.nonneg ((WindowSet.live_sublist _ _).mem (mem_filter.1 he).1)
    · obtain rfl := mem_singleton.1 he
      exact hx.now_nonneg

/-- A hit that callers may make is answered alike, and leaves the two alike. -/
theorem Alike.hit (h : Alike w s) {x : Hit} (hx : x.Regular) :
    Alike (w.hit x).1 (s.hit x).1
      ∧ ∃ n : Nat, (w.hit x).2 = .ok n ∧ Server.size? (s.hit x).2 = some (n : Int) := by
  obtain ⟨hself, hother, removed, added, expiry, hreplies⟩ :=
    s.transact_steps hx.span_pos (x.now - x.span)
  have hsame := h.same_record hx
  rw [Windows.hit_of_holds w hx.fits, Server.hit, Server.execute_transaction]
  refine ⟨fun k => ?_, _, rfl, ?_⟩
  · by_cases hk : k = x.key
    · subst hk
      rw [Table.get?_insert_self, hself]
      exact .some hsame
    · rw [Table.get?_insert_of_ne _ _ hk, hother k hk]
      exact h k
  · -- The entries and the rows are as many.
    have hlen := hsame.members.length_eq
    rw [length_map] at hlen
    rw [hreplies, hlen]
    rfl

/-! ### Runs -/

theorem Alike.recorded {ops : List Windows.Op} (h : Alike w s) (hops : ∀ x, .hit x ∈ ops → x.Regular) :
    ∃ counts : List Nat, w.recorded ops = counts.map .ok
      ∧ s.recorded ops = counts.map fun n : Nat => some (n : Int) := by
  induction ops generalizing w s with
  | nil => exact ⟨[], rfl, rfl⟩
  | cons o ops ih =>
    have hrest : ∀ x, Windows.Op.hit x ∈ ops → x.Regular := fun x hx => hops x (mem_cons_of_mem _ hx)
    cases o with
    | hit x =>
      obtain ⟨hnext, n, hn, hm⟩ := h.hit (hops x mem_cons_self)
      obtain ⟨counts, hc, hs⟩ := ih hnext hrest
      exact ⟨n :: counts, congrArg₂ _ hn hc, congrArg₂ _ hm hs⟩
    | purge now => exact ih (h.purge now) hrest
    | count key now => exact ih h hrest

/-- **The two stores agree.**  Whatever the keys, the members, repeated ones included,
the order of the seconds and the spans from hit to hit, with purges in between: every
hit is answered the same count by the window sets in the process and by `ZCARD` on the
server. -/
theorem recorded_agree {ops : List Windows.Op} (hops : ∀ x, .hit x ∈ ops → x.Regular) :
    ∃ counts : List Nat, Windows.recorded .empty ops = counts.map .ok
      ∧ Server.recorded .empty ops = counts.map fun n : Nat => some (n : Int) :=
  Alike.recorded (fun _ => .none) hops

/-- Calls with a member that repeats, a hit that comes late and shortens its set's life,
a hit on a set past its end, and a purge. -/
def mixedCalls : List Windows.Op :=
  [.hit ⟨"k", "a", 100, 60⟩, .hit ⟨"k", "a", 110, 60⟩, .hit ⟨"k", "b", 90, 10⟩, .hit ⟨"k", "c", 105, 30⟩,
    .purge 140, .hit ⟨"k", "d", 120, 5⟩, .hit ⟨"j", "a", 0, 31536000⟩]

theorem mixedCalls_agree :
    (∀ x, .hit x ∈ mixedCalls → x.Regular)
      ∧ Server.recorded .empty mixedCalls = [some 1, some 1, some 2, some 1, some 1, some 1] := by
  have hops : ∀ x, .hit x ∈ mixedCalls → x.Regular := by
    intro x hx
    simp only [mixedCalls, mem_cons, Windows.Op.hit.injEq, reduceCtorEq, not_mem_nil, false_or, or_false] at hx
    rcases hx with rfl | rfl | rfl | rfl | rfl | rfl <;> exact ⟨by decide, by decide, by decide, by decide⟩
  obtain ⟨counts, hw, hs⟩ := recorded_agree hops
  have hcounts : Windows.recorded .empty mixedCalls = [1, 1, 2, 1, 1, 1].map Except.ok := by decide
  rw [hcounts] at hw
  have : [1, 1, 2, 1, 1, 1] = counts := map_injective_iff.2 (fun _ _ => Except.ok.inj) hw
  subst this
  exact ⟨hops, hs⟩

end Redis

end QuotaGate
