/-
What a set that is stored looks like.

Whatever is called, and in whatever order of the seconds, what is stored under a key has a
member, and no member twice (`WindowSet.Sound`).  This goes for hits that end in a fault of the
clock too: of these one leaves all as it was, and another writes its entry but leaves the end of
the set alone.

* `hit_cases` — the three courses of a hit;
* `Hit.Leaves` — what a hit that is answered leaves under its key;
* `sound_after` — the invariant of a run;
* `exists_hit_of_mem`, `pairwise_score_after` — entries come from hits on their key, and in the
  order of these if the hits come in order.
-/
import QuotaGate.Proofs.Store.Holding
import QuotaGate.Proofs.Store.Retention

namespace QuotaGate

namespace WindowSet

/-- A set that has members, each of them once. -/
structure Sound (s : WindowSet) : Prop where
  ne_nil : s.entries ≠ []
  nodup : (s.entries.map Entry.member).Nodup

/-- The set with a hit entered and its end as it was. -/
def written (s : WindowSet) (h : Hit) : WindowSet :=
  s.enter (h.now - h.span) h.now h.member

theorem entries_written (s : WindowSet) (h : Hit) :
    (s.written h).entries = (s.live h.now).filter h.keeps ++ [h.entry] := rfl

@[simp] theorem expiresAt_written (s : WindowSet) (h : Hit) : (s.written h).expiresAt = s.expiresAt := rfl

theorem kept_sublist (s : WindowSet) (h : Hit) : ((s.live h.now).filter h.keeps).Sublist s.entries :=
  List.filter_sublist.trans (s.live_sublist h.now)

/-- Entering a hit makes a set sound, if only it had no member twice. -/
theorem sound_written {s : WindowSet} (hs : (s.entries.map Entry.member).Nodup) (h : Hit) : (s.written h).Sound := by
  have hkept : (((s.live h.now).filter h.keeps).map Entry.member).Nodup := hs.sublist ((s.kept_sublist h).map _)
  have hnew : h.member ∉ ((s.live h.now).filter h.keeps).map Entry.member := by
    intro hmem
    obtain ⟨e, he, hmember⟩ := List.mem_map.1 hmem
    exact (Hit.keeps_iff.1 (List.mem_filter.1 he).2).2 hmember
  constructor
  · rw [entries_written]
    simp
  · rw [entries_written, List.map_append, List.map_singleton, List.nodup_append']
    exact ⟨hkept, List.nodup_singleton _, List.disjoint_singleton.2 hnew⟩

/-- A member that is entered again makes the set no larger. -/
theorem length_written_le {s : WindowSet} {h : Hit} {e : Entry} (he : e ∈ s.entries) (hmember : e.member = h.member) :
    (s.written h).entries.length ≤ s.entries.length := by
  have hlost : ¬h.keeps e := fun hk => (Hit.keeps_iff.1 hk).2 hmember
  have hless : (s.entries.filter h.keeps).length < s.entries.length :=
    List.length_filter_lt_length_iff_exists.2 ⟨e, he, hlost⟩
  have hkept : ((s.live h.now).filter h.keeps).length ≤ (s.entries.filter h.keeps).length :=
    ((s.live_sublist h.now).filter _).length_le
  rw [entries_written, List.length_append, List.length_singleton]
  omega

end WindowSet

/-- What a hit that is answered with `c` leaves under its key: the set `after`, where `before`
was. -/
structure Hit.Leaves (h : Hit) (before : WindowSet) (c : Nat) (after : WindowSet) : Prop where
  length : after.entries.length = c
  inWindow : ∀ e ∈ after.entries, h.now - h.span < e.score
  last : after.entries.getLast? = some ⟨h.now, h.member⟩
  expiresAt : after.expiresAt = h.now + h.span
  /-- A hit that is repeated is not counted twice. -/
  repeated : (∃ e ∈ before.entries, e.member = h.member) → c ≤ before.entries.length

theorem WindowSet.leaves_record (s : WindowSet) {h : Hit} (hspan : 0 < h.span) :
    h.Leaves s (s.record h).entries.length (s.record h) where
  length := rfl
  inWindow := by
    intro e he
    rw [entries_record] at he
    rcases List.mem_append.1 he with he | he
    · exact (Hit.keeps_iff.1 (List.mem_filter.1 he).2).1
    · obtain rfl := List.mem_singleton.1 he
      show h.now - h.span < h.now
      omega
  last := by
    rw [entries_record]
    exact List.getLast?_concat
  expiresAt := rfl
  repeated := by
    rintro ⟨e, he, hmember⟩
    exact length_written_le he hmember

namespace Windows

variable {w : Windows} {k : String}

/-! ### One hit -/

/-- A hit whose window begins before the clock's range changes nothing; one whose window ends
beyond it leaves the end of its set as it was; any other is answered. -/
theorem hit_cases (w : Windows) (h : Hit) :
    (¬Clock.Holds (h.now - h.span) ∧ w.hit h = (w, .error .back))
      ∨ (Clock.Holds (h.now - h.span) ∧ ¬Clock.Holds (h.now + h.span)
          ∧ w.hit h = (w.insert h.key ((w.set h.key).written h), .error .forward))
      ∨ (h.Fits ∧ w.hit h = (w.insert h.key ((w.set h.key).record h), .ok ((w.set h.key).record h).entries.length)) := by
  by_cases hstart : Clock.Holds (h.now - h.span)
  · have hb : Clock.before h.now h.span = .ok (h.now - h.span) := Clock.before_eq_ok.2 ⟨hstart, rfl⟩
    by_cases hend : Clock.Holds (h.now + h.span)
    · exact .inr (.inr ⟨⟨hstart, hend⟩, hit_of_holds w ⟨hstart, hend⟩⟩)
    · have ha : Clock.after h.now h.span = .error .forward := Clock.after_eq_error.2 ⟨hend, rfl⟩
      refine .inr (.inl ⟨hstart, hend, ?_⟩)
      simp only [hit, hb, ha]
      rfl
  · have hb : Clock.before h.now h.span = .error .back := Clock.before_eq_error.2 ⟨hstart, rfl⟩
    refine .inl ⟨hstart, ?_⟩
    simp only [hit, hb]

/-- The set of a hit keeps some of its entries, and gets the hit's own as the last one; or it
stays as it was. -/
theorem entries_hit_self (w : Windows) (h : Hit) :
    (set (w.hit h).1 h.key).entries = (w.set h.key).entries
      ∨ ∃ kept, kept.Sublist (w.set h.key).entries ∧ (set (w.hit h).1 h.key).entries = kept ++ [h.entry] := by
  have hkept := (w.set h.key).kept_sublist h
  rcases w.hit_cases h with ⟨-, hhit⟩ | ⟨-, -, hhit⟩ | ⟨-, hhit⟩
  · rw [hhit]
    exact .inl rfl
  · rw [hhit, set, Table.get?_insert_self]
    exact .inr ⟨_, hkept, rfl⟩
  · rw [hhit, set, Table.get?_insert_self]
    exact .inr ⟨_, hkept, rfl⟩

theorem leaves_hit {h : Hit} {c : Nat} (hspan : 0 < h.span) (hc : (w.hit h).2 = .ok c) :
    ∃ s, (w.hit h).1.get? h.key = some s ∧ h.Leaves (w.set h.key) c s := by
  rcases w.hit_cases h with ⟨-, hhit⟩ | ⟨-, -, hhit⟩ | ⟨-, hhit⟩
  · rw [hhit] at hc
    cases hc
  · rw [hhit] at hc
    cases hc
  · rw [hhit] at hc ⊢
    obtain rfl := Except.ok.inj hc
    exact ⟨_, Table.get?_insert_self _ _ _, (w.set h.key).leaves_record hspan⟩

/-! ### Soundness -/

/-- All that is stored is sound. -/
def Sound (w : Windows) : Prop :=
  ∀ k s, w.get? k = some s → s.Sound

/-- A key that has nothing stored has no member twice either. -/
theorem Sound.nodup_set (hw : w.Sound) (k : String) : ((w.set k).entries.map Entry.member).Nodup := by
  rw [set]
  cases hk : w.get? k with
  | none => exact List.nodup_nil
  | some s => exact (hw k s hk).nodup

theorem Sound.insert (hw : w.Sound) {s : WindowSet} (hs : s.Sound) : Sound (Table.insert w k s) := by
  intro k' s' hs'
  by_cases hk : k' = k
  · subst hk
    rw [Table.get?_insert_self] at hs'
    obtain rfl := Option.some.inj hs'
    exact hs
  · rw [Table.get?_insert_of_ne _ _ hk] at hs'
    exact hw k' s' hs'

theorem Sound.hit (hw : w.Sound) (h : Hit) : Sound (w.hit h).1 := by
  have hs := WindowSet.sound_written (hw.nodup_set h.key) h
  rcases w.hit_cases h with ⟨-, hhit⟩ | ⟨-, -, hhit⟩ | ⟨-, hhit⟩
  · rw [hhit]
    exact hw
  · rw [hhit]
    exact hw.insert hs
  · rw [hhit]
    exact hw.insert ⟨hs.ne_nil, hs.nodup⟩

theorem Sound.apply (hw : w.Sound) (o : Op) : Sound (w.apply o) := by
  cases o with
  | hit h => exact hw.hit h
  | purge t =>
    intro k s hs
    rw [Windows.apply, get?_purge, Option.filter_eq_some_iff] at hs
    exact hw k s hs.1
  | count key t => exact hw

theorem sound_after (ops : List Op) : Sound (after .empty ops) := by
  induction ops using List.reverseRecOn with
  | nil => nofun
  | append_singleton ops o ih =>
    rw [after_concat]
    exact ih.apply o

/-! ### Order -/

/-- The hits on a key, in the order of the calls. -/
def hitsOn (k : String) (ops : List Op) : List Hit :=
  ops.filterMap (Op.hitOn? k)

/-- The hits on a key come in the order of their seconds. -/
def InOrder (k : String) (ops : List Op) : Prop :=
  (hitsOn k ops).Pairwise fun x y => x.now ≤ y.now

theorem hitsOn_concat (k : String) (ops : List Op) (o : Op) :
    hitsOn k (ops ++ [o]) = hitsOn k ops ++ (Op.hitOn? k o).toList := by
  rw [hitsOn, hitsOn, List.filterMap_append]
  cases h : Op.hitOn? k o with
  | none => simp [h]
  | some x => simp [h]

/-- A call leaves the set of a key alone, or empties it, or is a hit on the key. -/
theorem entries_apply (w : Windows) (k : String) (o : Op) :
    (set (w.apply o) k).entries.Sublist (w.set k).entries
      ∨ ∃ h kept, Op.hitOn? k o = some h ∧ kept.Sublist (w.set k).entries
        ∧ (set (w.apply o) k).entries = kept ++ [h.entry] := by
  cases o with
  | hit h =>
    by_cases hk : h.key = k
    · subst hk
      rcases w.entries_hit_self h with hsame | ⟨kept, hkept, hentries⟩
      · exact .inl (hsame ▸ List.Sublist.refl _)
      · exact .inr ⟨h, kept, if_pos rfl, hkept, hentries⟩
    · refine .inl ?_
      rw [apply, set_hit_of_ne w (Ne.symm hk)]
  | purge t =>
    refine .inl ?_
    rw [apply, set_purge]
    split
    · exact List.nil_sublist _
    · exact List.Sublist.refl _
  | count key t => exact .inl (List.Sublist.refl _)

/-- What is stored under a key are entries of hits on it. -/
theorem exists_hit_of_mem {ops : List Op} {e : Entry} (he : e ∈ (set (after .empty ops) k).entries) :
    ∃ x ∈ hitsOn k ops, x.entry = e := by
  induction ops using List.reverseRecOn generalizing e with
  | nil => cases he
  | append_singleton ops o ih =>
    rw [after_concat] at he
    rw [hitsOn_concat]
    have hearlier : ∀ {e}, e ∈ ((after .empty ops).set k).entries → ∃ x ∈ hitsOn k ops ++ (Op.hitOn? k o).toList, x.entry = e := by
      intro e he
      obtain ⟨x, hx, hxe⟩ := ih he
      exact ⟨x, List.mem_append_left _ hx, hxe⟩
    rcases entries_apply (after .empty ops) k o with hsub | ⟨h, kept, ho, hkept, hentries⟩
    · exact hearlier (hsub.mem he)
    · rw [hentries] at he
      rcases List.mem_append.1 he with he | he
      · exact hearlier (hkept.mem he)
      · refine ⟨h, List.mem_append_right _ ?_, (List.mem_singleton.1 he).symm⟩
        rw [ho]
        exact List.mem_singleton_self h

/-- If the hits on a key come in order, no entry of it is later than the last of them. -/
theorem score_le_of_inOrder {ops : List Op} (hops : InOrder k ops) {x : Hit} (hx : (hitsOn k ops).getLast? = some x) :
    ∀ e ∈ (set (after .empty ops) k).entries, e.score ≤ x.now := by
  intro e he
  obtain ⟨y, hy, rfl⟩ := exists_hit_of_mem he
  obtain ⟨init, hsplit⟩ := List.getLast?_eq_some_iff.1 hx
  show y.now ≤ x.now
  rw [InOrder, hsplit, List.pairwise_append] at hops
  rw [hsplit] at hy
  rcases List.mem_append.1 hy with hy | hy
  · exact hops.2.2 y hy x (List.mem_singleton_self x)
  · rw [List.mem_singleton.1 hy]

theorem pairwise_score_after {ops : List Op} (hops : InOrder k ops) :
    (set (after .empty ops) k).entries.Pairwise fun a b => a.score ≤ b.score := by
  induction ops using List.reverseRecOn with
  | nil => exact List.Pairwise.nil
  | append_singleton ops o ih =>
    rw [InOrder, hitsOn_concat, List.pairwise_append] at hops
    obtain ⟨hops, -, hlast⟩ := hops
    rw [after_concat]
    rcases entries_apply (after .empty ops) k o with hsub | ⟨h, kept, ho, hkept, hentries⟩
    · exact (ih hops).sublist hsub
    · rw [hentries, List.pairwise_append]
      refine ⟨(ih hops).sublist hkept, List.pairwise_singleton _ _, ?_⟩
      -- What was kept comes from earlier hits.
      intro a ha b hb
      obtain ⟨x, hx, rfl⟩ := exists_hit_of_mem (hkept.mem ha)
      rw [List.mem_singleton.1 hb]
      show x.now ≤ h.now
      refine hlast x hx h ?_
      rw [ho]
      exact List.mem_singleton_self h

/-! ### Faults of the clock -/

/-- What a hit whose window ends beyond the clock's range does. -/
structure Unfinished (w : Windows) (h : Hit) : Prop where
  fault : ∃ o, (w.hit h).2 = .error o
  others : ∀ k, k ≠ h.key → (w.hit h).1.get? k = w.get? k
  /-- The end of the set is as it was; that of a key without a set is 0. -/
  expiresAt : (set (w.hit h).1 h.key).expiresAt = match w.get? h.key with
    | some s => s.expiresAt
    | none => 0

theorem unfinished_hit {h : Hit} (hend : ¬Clock.Holds (h.now + h.span)) : Unfinished w h := by
  have hset : (w.set h.key).expiresAt = match w.get? h.key with
      | some s => s.expiresAt
      | none => 0 := by
    rw [set]
    cases w.get? h.key <;> rfl
  refine ⟨?_, fun k hk => get?_hit_of_ne w hk, ?_⟩
  · rcases w.hit_cases h with ⟨-, hhit⟩ | ⟨-, -, hhit⟩ | ⟨hfit, -⟩
    · rw [hhit]
      exact ⟨_, rfl⟩
    · rw [hhit]
      exact ⟨_, rfl⟩
    · exact absurd hfit.2 hend
  · rw [← hset]
    exact expiresAt_hit_of_not_fits w fun hfit => hend hfit.2

/-- **The representation invariant.**  After any hits, purges and counts, at seconds in any order
and with any windows, hits that end in a fault among them, every stored set is sound.  A hit
with a window that is answered leaves in its set what is in the window, with its own entry
last and its own end, and counts no member twice.  While the hits on a key come in the order
of their seconds, so do its entries, and none is later than the last hit.  A hit that ends in
a fault changes nothing if its window begins before the clock's range, and otherwise no other
set and no end. -/
theorem represented_after (ops : List Op) :
    let w := after .empty ops
    (∀ k s, w.get? k = some s → s.entries ≠ [] ∧ (s.entries.map Entry.member).Nodup)
      ∧ (∀ (h : Hit) (c : Nat), 0 < h.span → (w.hit h).2 = .ok c →
          ∃ s, (w.hit h).1.get? h.key = some s ∧ h.Leaves (w.set h.key) c s)
      ∧ (∀ k, InOrder k ops →
          ((w.set k).entries.Pairwise fun a b => a.score ≤ b.score)
            ∧ ∀ x, (hitsOn k ops).getLast? = some x → ∀ e ∈ (w.set k).entries, e.score ≤ x.now)
      ∧ (∀ h : Hit, ¬Clock.Holds (h.now - h.span) → w.hit h = (w, .error .back))
      ∧ ∀ h : Hit, ¬Clock.Holds (h.now + h.span) → Unfinished w h := by
  intro w
  refine ⟨?_, fun h c hspan hc => leaves_hit hspan hc, ?_, ?_, fun h hend => unfinished_hit hend⟩
  · intro k s hs
    have hsound := sound_after ops k s hs
    exact ⟨hsound.ne_nil, hsound.nodup⟩
  · intro k hops
    exact ⟨pairwise_score_after hops, fun x hx => score_le_of_inOrder hops hx⟩
  · intro h hstart
    rcases w.hit_cases h with ⟨-, hhit⟩ | ⟨hholds, -⟩ | ⟨hfit, -⟩
    · exact hhit
    · exact absurd hholds hstart
    · exact absurd hfit.1 hstart

/-- Two hits, and a third whose window ends beyond the clock's range. -/
def brokenOff : List Op :=
  [.hit ⟨"k", "x", 100, 60⟩, .hit ⟨"k", "y", 130, 60⟩, .hit ⟨"k", "z", 140, 0x7fffffffffffffff⟩]

/-- The third entry is there, but the end is still that of the second.  A hit that repeats the
second one then drops it along with the first, which is out of its window. -/
theorem brokenOff_represented :
    let w := after .empty brokenOff
    let again : Hit := ⟨"k", "y", 165, 60⟩
    let early : Hit := ⟨"k", "v", -0x8000000000000000, 1⟩
    let late : Hit := ⟨"n", "v", 0x7fffffffffffffff, 60⟩
    w.get? "k" = some ⟨[⟨100, "x"⟩, ⟨130, "y"⟩, ⟨140, "z"⟩], 190⟩
      ∧ (0 < again.span ∧ (w.hit again).2 = .ok 2 ∧ ∃ s, (w.hit again).1.get? "k" = some s ∧ again.Leaves (w.set "k") 2 s)
      ∧ (InOrder "k" brokenOff ∧ (w.set "k").entries.Pairwise fun a b => a.score ≤ b.score)
      ∧ (¬Clock.Holds (early.now - early.span) ∧ w.hit early = (w, .error .back))
      ∧ ¬Clock.Holds (late.now + late.span) ∧ Unfinished w late := by
  intro w again early late
  obtain ⟨-, hleaves, horder, hback, hforward⟩ := represented_after brokenOff
  have hspan : 0 < again.span := by decide
  have hcount : (w.hit again).2 = .ok 2 := by decide
  have hops : InOrder "k" brokenOff := by
    unfold InOrder
    decide
  have hearly : ¬Clock.Holds (early.now - early.span) := by decide
  have hlate : ¬Clock.Holds (late.now + late.span) := by decide
  refine ⟨by decide, ⟨hspan, hcount, hleaves again 2 hspan hcount⟩, ⟨hops, (horder "k" hops).1⟩, ⟨hearly, hback early hearly⟩,
    hlate, hforward late hlate⟩

end Windows

end QuotaGate
