/-
What the window sets show of their history.

A key is held by the last hit on it, until a purge comes at the end of this hit's window or
later.  That is all that the observers of the store tell: `size` counts the keys that are
held, `count` repeats what the last hit on a key was answered, up to the end of its window,
and a purge lets go of the keys whose windows have ended, and says how many they were
(`observed_after`).

* `HeldBy` — the hit that holds a key, told from the history alone;
* `get?_after` — what the store has under a key, told by the hit that holds it;
* `Table.encard_present`, `Table.encard_passing` — rows are counted by their keys.

Design notes: hits may come in any order of their seconds, so that a later hit may bring the
end of a window forward as well as move it on.  It is the last hit that counts, not the
latest.
-/
import Mathlib.Data.Set.Card
import QuotaGate.Proofs.Store.Purge

namespace QuotaGate

namespace Table

variable {κ α : Type} [DecidableEq κ]

theorem mem_rows_iff (t : Table κ α) {k : κ} {v : α} : (k, v) ∈ t.rows ↔ t.get? k = some v := by
  obtain ⟨rows, hnodup⟩ := t
  change (k, v) ∈ rows ↔ rows.lookup k = some v
  induction rows with
  | nil => simp
  | cons r rows ih =>
    obtain ⟨k', v'⟩ := r
    obtain ⟨hk', hrest⟩ := List.nodup_cons.1 hnodup
    by_cases hk : k = k'
    · -- The first row has the key, and no other has.
      subst hk
      have hnone : (k, v) ∉ rows := fun hmem => hk' (List.mem_map.2 ⟨_, hmem, rfl⟩)
      simp [hnone, eq_comm]
    · have hne : (k == k') = false := by simpa using hk
      simp [List.lookup_cons, hne, hk, ih hrest]

/-- The keys that have a value with `p` are as many as the rows with such a value. -/
theorem encard_passing (t : Table κ α) (p : α → Bool) :
    {k | ∃ v, t.get? k = some v ∧ p v}.encard = t.rows.countP fun r => p r.2 := by
  have hnodup : ((t.rows.filter fun r => p r.2).map Prod.fst).Nodup := (t.filter p).nodup
  have hset : {k | ∃ v, t.get? k = some v ∧ p v} = ((t.rows.filter fun r => p r.2).map Prod.fst).toFinset := by
    ext k
    simp [← t.mem_rows_iff]
  rw [hset, Set.encard_coe_eq_coe_finsetCard, List.toFinset_card_of_nodup hnodup, List.length_map,
    List.countP_eq_length_filter]

/-- A table has as many rows as there are keys with a value. -/
theorem encard_present (t : Table κ α) : {k | (t.get? k).isSome}.encard = t.size := by
  have hset : {k | (t.get? k).isSome} = {k | ∃ v, t.get? k = some v ∧ (fun _ => true) v} := by
    ext k
    simp [Option.isSome_iff_exists]
  rw [hset, t.encard_passing, size, List.countP_true]

end Table

/-- The second at which the window of a hit ends. -/
def Hit.ends (h : Hit) : Int :=
  h.now + h.span

namespace Windows

/-! ### Holding a key -/

/-- A call leaves a key to the hit that holds it: it is no hit on the key, and no purge at the
end of the hit's window or later. -/
def Op.Spares (h : Hit) : Op → Prop
  | .hit x => x.key ≠ h.key
  | .purge t => t < h.ends
  | .count _ _ => True

instance (h : Hit) (o : Op) : Decidable (o.Spares h) :=
  match o with
  | .hit x => inferInstanceAs (Decidable (x.key ≠ h.key))
  | .purge t => inferInstanceAs (Decidable (t < h.ends))
  | .count _ _ => inferInstanceAs (Decidable True)

/-- After the calls `ops`, the key of `h` is held by `h`, which was made after the calls
`before`. -/
def HeldBy (ops before : List Op) (h : Hit) : Prop :=
  ∃ rest, ops = before ++ .hit h :: rest ∧ ∀ o ∈ rest, o.Spares h

/-- After the calls `ops`, a hit holds the key. -/
def Held (ops : List Op) (k : String) : Prop :=
  ∃ before h, h.key = k ∧ HeldBy ops before h

/-- A hit holds the key whose window has ended by `t`. -/
def Ended (ops : List Op) (t : Int) (k : String) : Prop :=
  ∃ before h, h.key = k ∧ HeldBy ops before h ∧ h.ends ≤ t

variable {ops before : List Op} {h : Hit} {k : String}

theorem not_heldBy_nil : ¬HeldBy [] before h := by
  rintro ⟨rest, hsplit, -⟩
  simp at hsplit

/-- A call holds its key, or leaves a key to the hit that held it before. -/
theorem heldBy_concat {o : Op} :
    HeldBy (ops ++ [o]) before h ↔ before = ops ∧ o = .hit h ∨ HeldBy ops before h ∧ o.Spares h := by
  constructor
  · rintro ⟨rest, hsplit, hrest⟩
    rcases List.eq_nil_or_concat rest with rfl | ⟨init, last, rfl⟩
    · obtain ⟨rfl, ho⟩ := List.append_inj' hsplit rfl
      exact .inl ⟨rfl, (List.cons.inj ho).1⟩
    · rw [List.concat_eq_append, ← List.cons_append, ← List.append_assoc] at hsplit
      obtain ⟨hops, ho⟩ := List.append_inj' hsplit rfl
      obtain rfl := (List.cons.inj ho).1
      rw [List.concat_eq_append] at hrest
      refine .inr ⟨⟨init, hops, fun x hx => hrest x (List.mem_append_left _ hx)⟩, ?_⟩
      exact hrest o (List.mem_append_right _ (List.mem_singleton_self o))
  · rintro (⟨rfl, rfl⟩ | ⟨⟨rest, rfl, hrest⟩, ho⟩)
    · exact ⟨[], rfl, nofun⟩
    · refine ⟨rest ++ [o], by simp, fun x hx => ?_⟩
      rcases List.mem_append.1 hx with hx | hx
      · exact hrest x hx
      · exact List.mem_singleton.1 hx ▸ ho

/-- Under a key is what the hit that holds it has left there. -/
theorem get?_after (hfit : ∀ x, .hit x ∈ ops → x.Fits) {s : WindowSet} :
    (after .empty ops).get? k = some s
      ↔ ∃ before h, h.key = k ∧ HeldBy ops before h ∧ s = ((after .empty before).set k).record h := by
  induction ops using List.reverseRecOn generalizing s with
  | nil => exact iff_of_false nofun fun ⟨_, _, _, hheld, _⟩ => not_heldBy_nil hheld
  | append_singleton ops o ih =>
    have ih := fun {s} => ih (s := s) fun x hx => hfit x (List.mem_append_left _ hx)
    simp only [heldBy_concat]
    rw [after_concat]
    cases o with
    | hit x =>
      have hx := hfit x (List.mem_append_right _ (List.mem_singleton_self _))
      by_cases hk : k = x.key
      · -- The hit takes the key over.
        subst hk
        rw [apply, hit_of_holds _ hx, Table.get?_insert_self]
        constructor
        · intro hs
          exact ⟨ops, x, rfl, .inl ⟨rfl, rfl⟩, (Option.some.inj hs).symm⟩
        · rintro ⟨before, h, hkey, ⟨rfl, ho⟩ | ⟨-, hspares⟩, rfl⟩
          · obtain rfl := Op.hit.inj ho
            rfl
          · exact absurd hkey.symm hspares
      · rw [apply, get?_hit_of_ne _ hk, ih]
        constructor
        · rintro ⟨before, h, hkey, hheld, rfl⟩
          exact ⟨before, h, hkey, .inr ⟨hheld, fun e => hk (hkey.symm.trans e.symm)⟩, rfl⟩
        · rintro ⟨before, h, hkey, ⟨-, ho⟩ | ⟨hheld, -⟩, rfl⟩
          · obtain rfl := Op.hit.inj ho
            exact absurd hkey.symm hk
          · exact ⟨before, h, hkey, hheld, rfl⟩
    | purge t =>
      rw [apply, get?_purge, Option.filter_eq_some_iff, ih]
      constructor
      · rintro ⟨⟨before, h, hkey, hheld, rfl⟩, ht⟩
        exact ⟨before, h, hkey, .inr ⟨hheld, of_decide_eq_true ht⟩, rfl⟩
      · rintro ⟨before, h, hkey, ⟨-, ho⟩ | ⟨hheld, ht⟩, rfl⟩
        · cases ho
        · exact ⟨⟨before, h, hkey, hheld, rfl⟩, decide_eq_true ht⟩
    | count key t =>
      rw [apply, ih]
      constructor
      · rintro ⟨before, h, hkey, hheld, rfl⟩
        exact ⟨before, h, hkey, .inr ⟨hheld, trivial⟩, rfl⟩
      · rintro ⟨before, h, hkey, ⟨-, ho⟩ | ⟨hheld, -⟩, rfl⟩
        · cases ho
        · exact ⟨before, h, hkey, hheld, rfl⟩

/-! ### What the observers tell -/

theorem held_iff (hfit : ∀ x, .hit x ∈ ops → x.Fits) : Held ops k ↔ ((after .empty ops).get? k).isSome := by
  rw [Option.isSome_iff_exists]
  constructor
  · rintro ⟨before, h, hkey, hheld⟩
    exact ⟨_, (get?_after hfit).2 ⟨before, h, hkey, hheld, rfl⟩⟩
  · rintro ⟨s, hs⟩
    obtain ⟨before, h, hkey, hheld, -⟩ := (get?_after hfit).1 hs
    exact ⟨before, h, hkey, hheld⟩

theorem ended_iff (hfit : ∀ x, .hit x ∈ ops → x.Fits) {t : Int} :
    Ended ops t k ↔ ∃ s, (after .empty ops).get? k = some s ∧ s.expiresAt ≤ t := by
  constructor
  · rintro ⟨before, h, hkey, hheld, hends⟩
    exact ⟨_, (get?_after hfit).2 ⟨before, h, hkey, hheld, rfl⟩, hends⟩
  · rintro ⟨s, hs, hends⟩
    obtain ⟨before, h, hkey, hheld, rfl⟩ := (get?_after hfit).1 hs
    exact ⟨before, h, hkey, hheld, hends⟩

theorem HeldBy.fits (hheld : HeldBy ops before h) (hfit : ∀ x, .hit x ∈ ops → x.Fits) : h.Fits := by
  obtain ⟨rest, rfl, -⟩ := hheld
  exact hfit h (List.mem_append_right _ List.mem_cons_self)

/-- Up to the end of its window, the hit that holds a key is what a count of it tells. -/
theorem count_of_heldBy (hfit : ∀ x, .hit x ∈ ops → x.Fits) (hheld : HeldBy ops before h) {now : Int} :
    (now < h.ends → ((after .empty before).hit h).2 = .ok ((after .empty ops).count h.key now))
      ∧ (h.ends ≤ now → (after .empty ops).count h.key now = 0) := by
  have hget := (get?_after hfit).2 ⟨before, h, rfl, hheld, rfl⟩
  refine ⟨fun hnow => ?_, fun hnow => ?_⟩
  · rw [count, hget, hit_of_holds _ (hheld.fits hfit)]
    dsimp only
    rw [WindowSet.live_of_lt hnow]
  · rw [count, hget]
    dsimp only
    rw [WindowSet.live_of_le hnow, List.length_nil]

theorem count_of_not_held (hfit : ∀ x, .hit x ∈ ops → x.Fits) (hheld : ¬Held ops k) (now : Int) :
    (after .empty ops).count k now = 0 := by
  rw [held_iff hfit, Option.not_isSome_iff_eq_none] at hheld
  rw [count, hheld]

theorem held_purge_iff (hfit : ∀ x, .hit x ∈ ops → x.Fits) {t : Int} :
    Held (ops ++ [.purge t]) k ↔ (((after .empty ops).purge t).1.get? k).isSome := by
  have hfit' : ∀ x, .hit x ∈ ops ++ [.purge t] → x.Fits := by
    intro x hx
    rcases List.mem_append.1 hx with hx | hx
    · exact hfit x hx
    · cases List.mem_singleton.1 hx
  rw [held_iff hfit', after_concat, apply]

/-- After a purge a key is held by a hit whose window goes on. -/
theorem held_purge_iff_not_ended (hfit : ∀ x, .hit x ∈ ops → x.Fits) {t : Int} :
    Held (ops ++ [.purge t]) k ↔ Held ops k ∧ ¬Ended ops t k := by
  rw [held_purge_iff hfit, get?_purge, held_iff hfit, ended_iff hfit]
  cases (after .empty ops).get? k with
  | none => simp
  | some s => simp [Option.filter]

/-! ### Keys whose last hit is old -/

/-- The hit of a call, if it is a hit on `k`. -/
def Op.hitOn? (k : String) : Op → Option Hit
  | .hit x => if x.key = k then some x else none
  | _ => none

/-- A hit after which there is none on its key is the last one on it. -/
theorem getLast?_hitOn (xs : List Op) {ys : List Op} (hlast : ∀ x, .hit x ∈ ys → x.key ≠ h.key) :
    ((xs ++ .hit h :: ys).filterMap (Op.hitOn? h.key)).getLast? = some h := by
  have hnone : ys.filterMap (Op.hitOn? h.key) = [] := by
    refine List.filterMap_eq_nil_iff.2 fun o ho => ?_
    cases o with
    | hit x => exact if_neg (hlast x ho)
    | purge t => rfl
    | count key t => rfl
  have hself : Op.hitOn? h.key (.hit h) = some h := if_pos rfl
  rw [List.filterMap_append, List.filterMap_cons_some hself, hnone, List.getLast?_append, List.getLast?_singleton,
    Option.some_or]

/-- It is the last hit on a key that holds it, if one does. -/
theorem HeldBy.eq_of_last {before' rest : List Op} {h' : Hit} (hheld : HeldBy ops before' h')
    (hsplit : ops = before ++ .hit h :: rest) (hlast : ∀ x, .hit x ∈ rest → x.key ≠ h.key) (hkey : h'.key = h.key) :
    h' = h := by
  obtain ⟨rest', hsplit', hspares⟩ := hheld
  have hfirst := getLast?_hitOn before hlast
  have hsecond := getLast?_hitOn before' (h := h') fun x hx => hspares (.hit x) hx
  rw [← hsplit] at hfirst
  rw [← hsplit', hkey, hfirst] at hsecond
  exact (Option.some.inj hsecond).symm

/-! ### All that is seen -/

/-- What can be seen of the state `w`, told by the calls that led to it. -/
structure Observed (ops : List Op) (w : Windows) : Prop where
  size : w.size = {k | Held ops k}.encard
  isEmpty : w.isEmpty ↔ w.size = 0
  count : ∀ before h, HeldBy ops before h → ∀ now,
    (now < h.ends → ((after .empty before).hit h).2 = .ok (w.count h.key now))
      ∧ (h.ends ≤ now → w.count h.key now = 0)
  count_not_held : ∀ k, ¬Held ops k → ∀ now, w.count k now = 0
  purged : ∀ t, (w.purge t).2 = {k | Ended ops t k}.encard
  kept : ∀ t k, ((w.purge t).1.get? k).isSome ↔ Held (ops ++ [.purge t]) k
  /-- The keys that a purge lets go of are those whose windows have ended. -/
  released : ∀ t k, Held (ops ++ [.purge t]) k ↔ Held ops k ∧ ¬Ended ops t k
  /-- A key whose last hit is a window old or older is gone after a purge. -/
  idle : ∀ t before h rest, ops = before ++ .hit h :: rest → (∀ x, .hit x ∈ rest → x.key ≠ h.key) →
    h.now ≤ t - h.span → (w.purge t).1.get? h.key = none

/-- **The observers agree with the history.**  After any hits, purges and counts, in any order
of their seconds and with any windows within the clock's range, what is held is told by the
last hit on each key and the purges since. -/
theorem observed_after (hfit : ∀ x, .hit x ∈ ops → x.Fits) : Observed ops (after .empty ops) where
  size := by
    rw [← Table.encard_present]
    simp only [held_iff hfit]
  isEmpty := Table.isEmpty_iff _
  count before h hheld now := count_of_heldBy hfit hheld
  count_not_held k hheld now := count_of_not_held hfit hheld now
  purged t := by
    have hrows := Table.encard_passing (after .empty ops) fun s : WindowSet => decide (s.expiresAt ≤ t)
    simp only [decide_eq_true_eq] at hrows
    rw [purge_snd, ← hrows]
    simp only [ended_iff hfit]
  kept t k := (held_purge_iff hfit).symm
  released t k := held_purge_iff_not_ended hfit
  idle t before h rest hsplit hlast hidle := by
    by_contra hne
    have hleft := (held_purge_iff (k := h.key) hfit).2 (Option.isSome_iff_ne_none.2 hne)
    obtain ⟨⟨before', h', hkey, hheld⟩, hends⟩ := (held_purge_iff_not_ended hfit).1 hleft
    obtain rfl := hheld.eq_of_last hsplit hlast hkey
    refine hends ⟨before', h', rfl, hheld, ?_⟩
    rw [Hit.ends]
    omega

/-- Two keys, of which the one was purged and hit again, and the end of the other brought
forward by a late hit with a shorter window. -/
def shortened : List Op :=
  [.hit ⟨"a", "x", 100, 60⟩, .hit ⟨"b", "x", 150, 60⟩, .purge 160, .hit ⟨"a", "y", 140, 60⟩, .hit ⟨"b", "y", 130, 20⟩]

theorem shortened_observed :
    let w := after .empty shortened
    (∀ x, .hit x ∈ shortened → x.Fits)
      ∧ HeldBy shortened (shortened.take 4) ⟨"b", "y", 130, 20⟩ ∧ HeldBy shortened (shortened.take 3) ⟨"a", "y", 140, 60⟩
      ∧ (after .empty (shortened.take 4)).hit ⟨"b", "y", 130, 20⟩ = (w, .ok (w.count "b" 149)) ∧ w.count "b" 149 = 2
      ∧ w.count "b" 150 = 0
      ∧ (w.purge 150).1.get? "b" = none ∧ Held (shortened ++ [.purge 150]) "a" ∧ (w.purge 150).2 = 1 := by
  intro w
  have hfit : ∀ x, .hit x ∈ shortened → x.Fits := by
    intro x hx
    simp only [shortened, List.mem_cons, Op.hit.injEq, reduceCtorEq, List.not_mem_nil, false_or, or_false] at hx
    rcases hx with rfl | rfl | rfl | rfl <;> decide
  have hb : HeldBy shortened (shortened.take 4) ⟨"b", "y", 130, 20⟩ := ⟨[], rfl, nofun⟩
  have ha : HeldBy shortened (shortened.take 3) ⟨"a", "y", 140, 60⟩ := ⟨_, rfl, by decide⟩
  have hseen := observed_after hfit
  have hcount := (hseen.count _ _ hb 149).1 (by decide)
  refine ⟨hfit, hb, ha, Prod.ext rfl hcount, by decide, (hseen.count _ _ hb 150).2 (by decide), ?_, ?_, by decide⟩
  · exact hseen.idle 150 (shortened.take 4) ⟨"b", "y", 130, 20⟩ [] rfl nofun (by decide)
  · exact (hseen.kept 150 "a").1 (by decide)

end Windows

end QuotaGate
