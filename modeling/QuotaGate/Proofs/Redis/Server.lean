/-
What a server of sorted sets makes of a hit.

`Server.execute` is the server's side of a session: between `MULTI` and `EXEC` commands
are queued, and then run together.

* `execute_transaction` — the six commands of a hit are one transaction;
* `transact_steps` — the transaction changes one set, and its third reply is the size
  that this set then has.
-/
import Mathlib.Data.List.Perm.Basic
import QuotaGate.Redis.SortedSet

namespace QuotaGate

open List

namespace Table

variable {κ α : Type} [DecidableEq κ]

/-- A row that is written stands for all earlier rows of its key. -/
theorem setRow_perm {k : κ} {v : α} {rows : List (κ × α)} (h : (rows.map Prod.fst).Nodup) :
    setRow k v rows ~ rows.filter (fun r => r.1 ≠ k) ++ [(k, v)] := by
  induction rows with
  | nil => exact .refl _
  | cons r rows ih =>
    obtain ⟨k', v'⟩ := r
    obtain ⟨hk, hr⟩ := nodup_cons.1 h
    rw [setRow]
    split
    · rename_i he
      subst he
      have hne : rows.filter (fun r => r.1 ≠ k') = rows := by
        refine filter_eq_self.2 fun r hmem => decide_eq_true fun e => hk ?_
        have hr : r.1 ∈ rows.map Prod.fst := mem_map_of_mem hmem
        exact e ▸ hr
      rw [filter_cons_of_neg (by simp), hne]
      exact (perm_append_singleton _ _).symm
    · rename_i he
      rw [filter_cons_of_pos (by simpa using he)]
      exact (ih hr).cons _

theorem size_insert_ne_zero (t : Table κ α) (k : κ) (v : α) : (t.insert k v).size ≠ 0 := by
  have h := (setRow_perm (k := k) (v := v) t.nodup).length_eq
  rw [length_append, length_singleton] at h
  change (setRow k v t.rows).length ≠ 0
  omega

omit [DecidableEq κ] in
theorem eq_empty_of_size {t : Table κ α} (h : t.size = 0) : t = .empty := by
  obtain ⟨rows, nodup⟩ := t
  obtain rfl := length_eq_zero_iff.1 h
  rfl

end Table

namespace Redis.Server

/-- Runs commands as they come in at second `t`; those after `MULTI` are queued up to
`EXEC`. -/
def execute (s : Server) (t : Int) : (queue : Option (List Command)) → List Command → Server × List Reply
  | _, [] => (s, [])
  | none, .multi :: rest =>
    let r := execute s t (some []) rest
    (r.1, .simple "OK" :: r.2)
  | some queue, .exec :: rest =>
    let done := s.transact t queue
    let r := execute done.1 t none rest
    (r.1, .array done.2 :: r.2)
  | some queue, c :: rest =>
    let r := execute s t (some (queue ++ [c])) rest
    (r.1, .simple "QUEUED" :: r.2)
  | none, c :: rest =>
    let done := s.run t c
    let r := execute done.1 t none rest
    (r.1, done.2 :: r.2)

theorem execute_transaction (s : Server) (t : Int) (h : Hit) (start : Int) :
    s.execute t none (Command.transaction h start)
      = ((s.transact t (Command.steps h start)).1,
          [.simple "OK", .simple "QUEUED", .simple "QUEUED", .simple "QUEUED", .simple "QUEUED",
            .array (s.transact t (Command.steps h start)).2]) := rfl

/-! ### One set at a time -/

@[simp] theorem get?_erase_self (s : Server) (key : String) : (s.erase key).get? key = none := by
  simp only [Table.get?, erase, lookup_eq_none_iff, mem_filter]
  rintro ⟨k, v⟩ ⟨-, hk⟩
  simpa using Ne.symm (of_decide_eq_true hk)

theorem get?_erase_of_ne (s : Server) {key k : String} (hk : k ≠ key) :
    (s.erase key).get? k = s.get? k := by
  simp only [Table.get?, erase]
  induction s.rows with
  | nil => rfl
  | cons r rows ih =>
    obtain ⟨k', v⟩ := r
    by_cases h : k' = key
    · have hne : (k == k') = false := by simpa [h] using hk
      rw [filter_cons_of_neg (by simpa using h), ih, lookup_cons, hne]
    · rw [filter_cons_of_pos (by simpa using h), lookup_cons, lookup_cons, ih]

@[simp] theorem get?_put_self (s : Server) (key : String) (set : SortedSet) :
    (s.put key set).get? key = if set.scores.size = 0 then none else some set := by
  rw [put]
  split
  · exact get?_erase_self s key
  · exact Table.get?_insert_self s key set

theorem get?_put_of_ne (s : Server) {key k : String} (set : SortedSet) (hk : k ≠ key) :
    (s.put key set).get? k = s.get? k := by
  rw [put]
  split
  · exact get?_erase_of_ne s hk
  · exact Table.get?_insert_of_ne s set hk

/-! ### The transaction of a hit -/

/-- The scores of a key at second `t` that a removal of those from 0 up to `start`
leaves. -/
def survivors (s : Server) (t : Int) (key : String) (start : Int) : Table String Int :=
  match s.set? t key with
  | none => .empty
  | some x => x.scores.filter fun score => !(decide (0 ≤ score) && decide (score ≤ start))

theorem set?_of_get? {s : Server} {t : Int} {key : String} {x : SortedSet} (h : s.get? key = some x)
    (ha : x.isAlive t) : s.set? t key = some x := by
  rw [set?, h]
  simp [Option.filter, ha]

theorem set?_eq_some {s : Server} {t : Int} {key : String} {x : SortedSet} (h : s.set? t key = some x) :
    s.get? key = some x ∧ x.isAlive t := by
  rw [set?] at h
  exact Option.filter_eq_some_iff.1 h

/-- After the removal there is a set of the survivors, or none at all. -/
theorem getD_set?_removeScores (s : Server) (t : Int) (key : String) (start : Int) :
    ∃ deadline, (((s.run t (.removeScores key 0 start)).1.set? t key).getD .fresh)
        = ⟨s.survivors t key start, deadline⟩ ∧ SortedSet.isAlive ⟨.empty, deadline⟩ t := by
  rw [run, survivors]
  cases hs : s.set? t key with
  | none =>
    refine ⟨none, ?_, rfl⟩
    simp [set?, SortedSet.fresh]
  | some x =>
    obtain ⟨-, ha⟩ := set?_eq_some hs
    dsimp only
    -- A set that is emptied is gone, and its deadline with it.
    by_cases hz : (x.scores.filter fun score => !(decide (0 ≤ score) && decide (score ≤ start))).size = 0
    · refine ⟨none, ?_, rfl⟩
      rw [set?, get?_put_self, if_pos hz, Table.eq_empty_of_size hz]
      rfl
    · refine ⟨x.deadline, ?_, ha⟩
      have hget := get?_put_self s key
        ⟨x.scores.filter fun score => !(decide (0 ≤ score) && decide (score ≤ start)), x.deadline⟩
      rw [if_neg hz] at hget
      rw [set?_of_get? hget ha]
      rfl

theorem get?_removeScores_of_ne (s : Server) (t : Int) {key k : String} (low high : Int) (hk : k ≠ key) :
    (s.run t (.removeScores key low high)).1.get? k = s.get? k := by
  rw [run]
  split
  · exact get?_erase_of_ne s hk
  · exact get?_put_of_ne s _ hk

theorem run_size {s : Server} {t : Int} {key : String} {x : SortedSet} (h : s.set? t key = some x) :
    s.run t (.size key) = (s, .integer x.scores.size) := by
  rw [run, h]

theorem run_expire {s : Server} {t span : Int} {key : String} {x : SortedSet} (h : s.set? t key = some x)
    (hspan : 0 < span) :
    s.run t (.expire key span) = (s.insert key ⟨x.scores, some (t + span)⟩, .integer 1) := by
  rw [run, h]
  exact if_neg (by omega)

/-- **The transaction of a hit**, command by command: the survivors get the new member,
the set its deadline, and the third result is the size of the set. -/
theorem transact_steps (s : Server) {h : Hit} (hspan : 0 < h.span) (start : Int) :
    let r := s.transact h.now (Command.steps h start)
    let scores := (s.survivors h.now h.key start).insert h.member h.now
    r.1.get? h.key = some ⟨scores, some (h.now + h.span)⟩ ∧ (∀ k, k ≠ h.key → r.1.get? k = s.get? k)
      ∧ ∃ removed added expiry, r.2 = [removed, added, .integer scores.size, expiry] := by
  intro r scores
  obtain ⟨deadline, hkept, halive⟩ := getD_set?_removeScores s h.now h.key start
  have hother : ∀ k, k ≠ h.key → (s.run h.now (.removeScores h.key 0 start)).1.get? k = s.get? k :=
    fun k => get?_removeScores_of_ne s h.now 0 start
  generalize hs₁ : (s.run h.now (.removeScores h.key 0 start)).1 = s₁ at hkept hother
  -- The set as it is between the writing of the member and that of the deadline.
  let x : SortedSet := ⟨scores, deadline⟩
  let s₂ : Server := s₁.insert h.key x
  have hadd : (s₁.run h.now (.add h.key h.now h.member)).1 = s₂ := by
    rw [run, hkept]
    exact if_neg (Table.size_insert_ne_zero _ h.member h.now)
  have hx : s₂.set? h.now h.key = some x := set?_of_get? (Table.get?_insert_self ..) halive
  have hr : r = (s₂.insert h.key ⟨scores, some (h.now + h.span)⟩,
      [(s.run h.now (.removeScores h.key 0 start)).2, (s₁.run h.now (.add h.key h.now h.member)).2,
        .integer scores.size, .integer 1]) := by
    simp only [r, Command.steps_eq, transact, hs₁, hadd, run_size hx, run_expire hx hspan, x]
  rw [hr]
  refine ⟨Table.get?_insert_self .., fun k hk => ?_, _, _, _, rfl⟩
  rw [Table.get?_insert_of_ne _ _ hk, Table.get?_insert_of_ne _ _ hk, hother k hk]

end Redis.Server

end QuotaGate
