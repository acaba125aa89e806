/-
Texts of addresses, and which peers share one.

An address of eight groups has one text (`V6.Written`): the old form behind `::ffff:` if it wraps an
address of four octets; else its groups in hexadecimal, the first of the longest runs of zeros left
out if it has two or more.  What is written is read back, so no two addresses have one text, and
requests by different addresses are never counted together.

* `V4.ofText?_text`, `V6.ofText?_text` — reading undoes writing;
* `V6.longestBefore_spec` — the search for the longest run, place by place;
* `V6.written_text`, `V6.Written.unique` — the text of an address is the one that is specified;
* `Ip.text_inj`, `Attribution.address_untrusted_eq_iff` — an address is told by its text, and the
  client behind a request by the address of its peer.
-/
import Mathlib.Data.List.TakeWhile
import QuotaGate.Proofs.Naming
import QuotaGate.Service.Attribution

namespace QuotaGate

/-! ### Digits -/

namespace Numeral

theorem exists_digit_of_mem_toDigits {b n : Nat} (hb : 1 < b) {c : Char} (hc : c ∈ Nat.toDigits b n) :
    ∃ d, d < b ∧ c = d.digitChar := by
  induction n using Nat.strongRecOn with
  | _ n ih =>
    rw [Nat.toDigits_eq_if hb] at hc
    split at hc
    · rename_i hn
      exact ⟨n, hn, List.mem_singleton.1 hc⟩
    · rename_i hn
      rcases List.mem_append.1 hc with hfront | hlast
      · exact ih (n / b) (Nat.div_lt_self (by omega) hb) hfront
      · exact ⟨n % b, Nat.mod_lt n (by omega), List.mem_singleton.1 hlast⟩

/-- No zero stands needlessly in front. -/
theorem head?_toDigits {b n : Nat} (hb : 1 < b) (hn : 0 < n) : (Nat.toDigits b n).head? ≠ some '0' := by
  induction n using Nat.strongRecOn with
  | _ n ih =>
    rw [Nat.toDigits_eq_if hb]
    split
    · intro h
      have hzero : n.digitChar = '0' := Option.some.inj h
      rw [Nat.digitChar_eq_zero] at hzero
      omega
    · rename_i hle
      have hq : 0 < n / b := Nat.div_pos (Nat.not_lt.1 hle) (by omega)
      have hfront := ih (n / b) (Nat.div_lt_self hn hb) hq
      obtain ⟨c, cs, hcs⟩ := List.exists_cons_of_ne_nil (Nat.toDigits_ne_nil (n := n / b) (b := b))
      rw [hcs] at hfront ⊢
      exact hfront

theorem hexDigit?_digitChar {d : Nat} (h : d < 16) : hexDigit? d.digitChar = some d := by
  revert d
  decide

/-- Hexadecimal digits are worth the number that they are written of. -/
theorem exists_mapM_hexDigit? (n : Nat) :
    ∃ ds, (Nat.toDigits 16 n).mapM hexDigit? = some ds ∧ ds.foldl (16 * · + ·) 0 = n := by
  induction n using Nat.strongRecOn with
  | _ n ih =>
    rw [Nat.toDigits_eq_if (by omega)]
    split
    · rename_i hn
      exact ⟨[n], by simp [hexDigit?_digitChar hn], by simp⟩
    · rename_i hn
      obtain ⟨ds, hds, hvalue⟩ := ih (n / 16) (by omega)
      have hlast : n % 16 < 16 := Nat.mod_lt n (by omega)
      refine ⟨ds ++ [n % 16], by simp [List.mapM_append, hds, hexDigit?_digitChar hlast], ?_⟩
      rw [List.foldl_append, hvalue]
      show 16 * (n / 16) + n % 16 = n
      omega

/-- A mark that is no digit stands in no number. -/
theorem notMem_toDigits {b n : Nat} (hb : 1 < b) (hle : b ≤ 16) {mark : Char} (h : ∀ d < 16, d.digitChar ≠ mark) :
    mark ∉ Nat.toDigits b n := by
  intro hc
  obtain ⟨d, hd, rfl⟩ := exists_digit_of_mem_toDigits hb hc
  exact h d (by omega) rfl

theorem colon_notMem_toDigits {b n : Nat} (hb : 1 < b) (hle : b ≤ 16) : ':' ∉ Nat.toDigits b n :=
  notMem_toDigits hb hle (by decide)

theorem point_notMem_toDigits {b n : Nat} (hb : 1 < b) (hle : b ≤ 16) : '.' ∉ Nat.toDigits b n :=
  notMem_toDigits hb hle (by decide)

end Numeral

theorem mapM_map_eq_some {α β : Type} {f : α → β} {g : β → Option α} {xs : List α} (h : ∀ x ∈ xs, g (f x) = some x) :
    (xs.map f).mapM g = some xs := by
  induction xs with
  | nil => rfl
  | cons x xs ih =>
    obtain ⟨hx, hxs⟩ := List.forall_mem_cons.1 h
    simp [hx, ih hxs]

/-! ### Addresses of four octets -/

namespace V4

open Numeral

theorem octet?_toDigits {n : Nat} (h : n < 256) : octet? (Nat.toDigits 10 n) = some n := by
  have hlength : (Nat.toDigits 10 n).length ≤ 3 := (Nat.length_toDigits_le_iff (by omega) (by omega)).2 (by omega)
  have hzero : 1 < (Nat.toDigits 10 n).length → (Nat.toDigits 10 n).head? ≠ some '0' := by
    intro hlong
    refine head?_toDigits (by omega) (Nat.pos_of_ne_zero ?_)
    rintro rfl
    exact absurd hlong (by decide)
  have hplus : (Nat.toDigits 10 n).head? ≠ some '+' := by
    intro hhead
    obtain ⟨rest, hrest⟩ := List.head?_eq_some_iff.1 hhead
    exact head_toDigits_ne_plus n hrest
  have hread : natUpTo 255 (Nat.toDigits 10 n) = .ok n := by
    have hread := natUpTo_ofNat (show n ≤ 255 by omega)
    rwa [ofNat, String.toList_ofList] at hread
  rw [octet?, if_neg, hread]
  · rfl
  · simp only [Bool.or_eq_true, Bool.and_eq_true, decide_eq_true_eq, beq_iff_eq]
    rintro ((hlong | ⟨hlong, hhead⟩) | hhead)
    · omega
    · exact hzero hlong hhead
    · exact hplus hhead

theorem octets?_write {os : List Nat} (hne : os ≠ []) (h : ∀ o ∈ os, o < 256) : octets? (write os) = some os := by
  rw [octets?, write, Text.splitAll_joinWith]
  · exact mapM_map_eq_some fun o ho => octet?_toDigits (h o ho)
  · exact fun hnil => hne (List.map_eq_nil_iff.1 hnil)
  · exact List.forall_mem_map.2 fun o _ => point_notMem_toDigits (by omega) (by omega)

theorem octets?_text (v : V4) : octets? v.text.toList = some v.octets := by
  have hne : v.octets ≠ [] := by
    intro hnil
    have hlength := v.length_octets
    rw [hnil] at hlength
    cases hlength
  rw [text, String.toList_ofList, octets?_write hne v.octet_lt]

/-- The text of an address is read as the address. -/
theorem ofText?_text (v : V4) : ofText? v.text.toList = some v := by
  rw [ofText?, octets?_text]
  exact dif_pos ⟨v.length_octets, v.octet_lt⟩

theorem colon_notMem_write (os : List Nat) : ':' ∉ write os := by
  refine Text.notMem_joinWith (by decide) (List.forall_mem_map.2 fun o _ => ?_)
  exact colon_notMem_toDigits (by omega) (by omega)

/-- The octets of an address, one by one. -/
theorem exists_octets (v : V4) :
    ∃ a b c d, v.octets = [a, b, c, d] ∧ a < 256 ∧ b < 256 ∧ c < 256 ∧ d < 256 := by
  obtain ⟨octets, hlength, hlt⟩ := v
  match octets, hlength with
  | [a, b, c, d], _ =>
    simp only [List.forall_mem_cons] at hlt
    exact ⟨a, b, c, d, rfl, hlt.1, hlt.2.1, hlt.2.2.1, hlt.2.2.2.1⟩

theorem colon_notMem_text (v : V4) : ':' ∉ v.text.toList := by
  rw [text, String.toList_ofList]
  exact colon_notMem_write v.octets

theorem point_mem_text (v : V4) : '.' ∈ v.text.toList := by
  obtain ⟨a, b, c, d, h, -⟩ := v.exists_octets
  simp [text, h, write, Text.joinWith]

/-- The address of eight groups that wraps an address of four octets. -/
def mapped (v : V4) : V6 where
  groups := [0, 0, 0, 0, 0, 0xffff, 256 * v.octets[0]! + v.octets[1]!, 256 * v.octets[2]! + v.octets[3]!]
  length_groups := rfl
  group_lt := by
    obtain ⟨a, b, c, d, h, ha, hb, hc, hd⟩ := v.exists_octets
    intro g hg
    simp [h] at hg
    omega

theorem groups_mapped {v : V4} {a b c d : Nat} (h : v.octets = [a, b, c, d]) :
    v.mapped.groups = [0, 0, 0, 0, 0, 0xffff, 256 * a + b, 256 * c + d] := by
  simp [mapped, h]

theorem wrapped?_mapped (v : V4) : V6.wrapped? v.mapped.groups = some v.octets := by
  obtain ⟨a, b, c, d, h, ha, hb, hc, hd⟩ := v.exists_octets
  have hhigh {x y : Nat} (hy : y < 256) : (256 * x + y) / 256 = x := by omega
  have hlow {x y : Nat} (hy : y < 256) : (256 * x + y) % 256 = y := by omega
  rw [groups_mapped h, h, V6.wrapped?, hhigh hb, hlow hb, hhigh hd, hlow hd]

theorem mapped_inj {v w : V4} (h : v.mapped = w.mapped) : v = w := by
  have hoctets : some v.octets = some w.octets := by
    rw [← wrapped?_mapped v, ← wrapped?_mapped w, h]
  cases v
  cases w
  obtain rfl := Option.some.inj hoctets
  rfl

end V4

/-! ### Addresses of eight groups -/

namespace V6

open Numeral

/-- Wrapped octets are those of an address. -/
theorem eq_mapped_of_wrapped? {a : V6} {os : List Nat} (h : wrapped? a.groups = some os) :
    ∃ v : V4, v.octets = os ∧ a = v.mapped := by
  obtain ⟨groups, hlength, hlt⟩ := a
  dsimp only at h
  unfold wrapped? at h
  split at h
  · rename_i g g'
    obtain rfl := Option.some.inj h
    have hg : g < 65536 := hlt g (by simp)
    have hg' : g' < 65536 := hlt g' (by simp)
    have hoctets : ∀ o ∈ [g / 256, g % 256, g' / 256, g' % 256], o < 256 := by
      intro o ho
      simp only [List.mem_cons, List.not_mem_nil, or_false] at ho
      omega
    refine ⟨⟨_, rfl, hoctets⟩, rfl, ?_⟩
    rw [V6.mk.injEq, V4.groups_mapped rfl, Nat.div_add_mod, Nat.div_add_mod]
  · cases h

theorem group?_toDigits {g : Nat} (h : g < 65536) : group? (Nat.toDigits 16 g) = some g := by
  have hlength : (Nat.toDigits 16 g).length ≤ 4 := (Nat.length_toDigits_le_iff (by omega) (by omega)).2 (by omega)
  obtain ⟨ds, hds, hvalue⟩ := exists_mapM_hexDigit? g
  rw [group?, if_neg, hds, Option.map_some, hvalue]
  simp only [Bool.or_eq_true, List.isEmpty_iff, decide_eq_true_eq]
  rintro (hnil | hlong)
  · exact Nat.toDigits_ne_nil hnil
  · omega

theorem pieces?_toDigits {gs : List Nat} (h : ∀ g ∈ gs, g < 65536) : pieces? (gs.map (Nat.toDigits 16)) = some gs := by
  induction gs with
  | nil => rfl
  | cons g gs ih =>
    obtain ⟨hg, hgs⟩ := List.forall_mem_cons.1 h
    cases gs with
    | nil =>
      show pieces? [Nat.toDigits 16 g] = some [g]
      rw [pieces?, if_neg (point_notMem_toDigits (by omega) (by omega)), group?_toDigits hg]
      rfl
    | cons g' gs =>
      have ih := ih hgs
      simp only [List.map_cons] at ih ⊢
      rw [pieces?, ih, group?_toDigits hg]
      · rfl
      · nofun

theorem writeGroups_cons (g : Nat) {gs : List Nat} (h : gs ≠ []) :
    writeGroups (g :: gs) = Nat.toDigits 16 g ++ ':' :: writeGroups gs := by
  obtain ⟨g', gs, rfl⟩ := List.exists_cons_of_ne_nil h
  simp [writeGroups, Text.joinWith]

/-- What is written of some groups begins with a digit. -/
theorem exists_writeGroups_eq_cons {gs : List Nat} (h : gs ≠ []) : ∃ c rest, writeGroups gs = c :: rest ∧ c ≠ ':' := by
  obtain ⟨g, gs, rfl⟩ := List.exists_cons_of_ne_nil h
  obtain ⟨c, cs, hcs⟩ := List.exists_cons_of_ne_nil (Nat.toDigits_ne_nil (n := g) (b := 16))
  have hc : c ≠ ':' := by
    rintro rfl
    refine colon_notMem_toDigits (b := 16) (n := g) (by omega) (by omega) ?_
    rw [hcs]
    exact List.mem_cons_self
  by_cases hnil : gs = []
  · rw [hnil]
    exact ⟨c, cs, hcs, hc⟩
  · rw [writeGroups_cons g hnil, hcs]
    exact ⟨c, _, rfl, hc⟩

theorem groups?_writeGroups {gs : List Nat} (h : ∀ g ∈ gs, g < 65536) : groups? (writeGroups gs) = some gs := by
  by_cases hnil : gs = []
  · rw [hnil]
    rfl
  · rw [groups?, if_neg, writeGroups, Text.splitAll_joinWith, pieces?_toDigits h]
    · exact fun hmap => hnil (List.map_eq_nil_iff.1 hmap)
    · exact List.forall_mem_map.2 fun g _ => colon_notMem_toDigits (by omega) (by omega)
    · obtain ⟨c, rest, hc, -⟩ := exists_writeGroups_eq_cons hnil
      rw [hc]
      nofun

theorem splitGap?_append_of_notMem {xs : List Char} (h : ':' ∉ xs) (ys : List Char) :
    splitGap? (xs ++ ys) = (splitGap? ys).map fun p => (xs ++ p.1, p.2) := by
  induction xs with
  | nil => simp
  | cons x xs ih =>
    obtain ⟨hx, hxs⟩ : ':' ≠ x ∧ ':' ∉ xs := by simpa using h
    rw [List.cons_append, splitGap?, ih hxs, Option.map_map]
    · rfl
    · rintro rest rfl -
      exact hx rfl

/-- A single colon is no gap. -/
theorem splitGap?_colon {c : Char} (h : c ≠ ':') (rest : List Char) :
    splitGap? (':' :: c :: rest) = (splitGap? (c :: rest)).map fun p => (':' :: p.1, p.2) := by
  rw [splitGap?]
  intro rest' _ heq
  exact h (List.cons.inj heq).1

/-- No gap begins among written groups or at their end. -/
theorem splitGap?_writeGroups_append (gs : List Nat) (ys : List Char) :
    splitGap? (writeGroups gs ++ ys) = (splitGap? ys).map fun p => (writeGroups gs ++ p.1, p.2) := by
  induction gs with
  | nil => simp [writeGroups, Text.joinWith]
  | cons g gs ih =>
    have hg : ':' ∉ Nat.toDigits 16 g := colon_notMem_toDigits (by omega) (by omega)
    by_cases hnil : gs = []
    · rw [hnil]
      exact splitGap?_append_of_notMem hg ys
    · -- Digits follow the colon.
      obtain ⟨c, rest, hc, hne⟩ := exists_writeGroups_eq_cons hnil
      rw [writeGroups_cons g hnil, List.append_assoc, splitGap?_append_of_notMem hg, List.cons_append]
      rw [hc] at ih ⊢
      rw [List.cons_append, splitGap?_colon hne, ← List.cons_append, ih, Option.map_map, Option.map_map]
      simp [Function.comp_def]

/-- The parts of a text with a gap. -/
theorem splitGap?_gap (front : List Nat) (tail : List Char) :
    splitGap? (writeGroups front ++ [':', ':'] ++ tail) = some (writeGroups front, tail) := by
  rw [List.append_assoc, splitGap?_writeGroups_append]
  show (splitGap? (':' :: ':' :: tail)).map _ = _
  rw [splitGap?, Option.map_some, List.append_nil]

theorem splitGap?_writeGroups (gs : List Nat) : splitGap? (writeGroups gs) = none := by
  have h := splitGap?_writeGroups_append gs []
  rwa [List.append_nil] at h

/-! ### The one way to write an address -/

/-- The canonical text of an address: the old form for one that wraps four octets; else its groups,
the first of the longest runs of two or more zeros being left out, if there are such runs. -/
inductive Written (a : V6) : List Char → Prop
  | wrapped (v : V4) (h : a = v.mapped) : Written a ("::ffff:".toList ++ v.text.toList)
  | gap {front back : List Nat} {n : Nat} (hm : ∀ v : V4, a ≠ v.mapped)
      (h : a.groups = front ++ List.replicate n 0 ++ back) (hn : 2 ≤ n)
      (longest : ∀ f m b, a.groups = f ++ List.replicate m 0 ++ b → m ≤ n)
      (first : ∀ f b, a.groups = f ++ List.replicate n 0 ++ b → front.length ≤ f.length) :
      Written a (writeGroups front ++ [':', ':'] ++ writeGroups back)
  | plain (hm : ∀ v : V4, a ≠ v.mapped) (h : ∀ f b, a.groups ≠ f ++ [0, 0] ++ b) : Written a (writeGroups a.groups)

theorem point_notMem_writeGroups (gs : List Nat) : '.' ∉ writeGroups gs := by
  refine Text.notMem_joinWith (by decide) (List.forall_mem_map.2 fun g _ => ?_)
  exact point_notMem_toDigits (by omega) (by omega)

/-- A gap stands for as many zeros as are missing. -/
theorem ofText?_of_splitGap? {cs head tail : List Char} {front back : List Nat} (h : splitGap? cs = some (head, tail))
    (hpoint : '.' ∉ head) (hfront : groups? head = some front) (hback : groups? tail = some back)
    (hlength : front.length + back.length ≤ 7) :
    ofText? cs = ofGroups? (front ++ List.replicate (8 - front.length - back.length) 0 ++ back) := by
  have hroom : ¬7 < front.length + back.length := Nat.not_lt.2 hlength
  simp only [ofText?, h, hpoint, hfront, hback, hroom, if_false, bind, Option.bind_some]

/-- A run that is left out has two zeros. -/
theorem exists_two_zeros {gs front back : List Nat} {n : Nat} (h : gs = front ++ List.replicate n 0 ++ back)
    (hn : 2 ≤ n) : ∃ f b, gs = f ++ [0, 0] ++ b := by
  obtain ⟨k, rfl⟩ := Nat.exists_eq_add_of_le hn
  refine ⟨front, List.replicate k 0 ++ back, ?_⟩
  rw [h, ← List.replicate_append_replicate]
  simp

theorem Written.unique {a : V6} {cs cs' : List Char} (h : Written a cs) (h' : Written a cs') : cs = cs' := by
  cases h with
  | wrapped v hv =>
    cases h' with
    | wrapped w hw => rw [V4.mapped_inj (hv.symm.trans hw)]
    | gap hm _ _ _ _ | plain hm _ => exact absurd hv (hm v)
  | @gap front back n hm h hn longest first =>
    cases h' with
    | wrapped w hw => exact absurd hw (hm w)
    | @gap front' back' n' _ h' _ longest' first' =>
      -- Each run is as long as the other and stands no later.
      obtain rfl : n = n' := Nat.le_antisymm (longest' _ _ _ h) (longest _ _ _ h')
      have hlength : front.length = front'.length := Nat.le_antisymm (first _ _ h') (first' _ _ h)
      have hgroups := h.symm.trans h'
      rw [List.append_assoc, List.append_assoc] at hgroups
      obtain ⟨rfl, hrest⟩ := List.append_inj hgroups hlength
      rw [List.append_cancel_left hrest]
    | plain _ hno =>
      obtain ⟨f, b, hzeros⟩ := exists_two_zeros h hn
      exact absurd hzeros (hno f b)
  | plain hm hno =>
    cases h' with
    | wrapped w hw => exact absurd hw (hm w)
    | gap _ h hn _ _ =>
      obtain ⟨f, b, hzeros⟩ := exists_two_zeros h hn
      exact absurd hzeros (hno f b)
    | plain _ _ => rfl

theorem ofGroups?_groups (a : V6) : ofGroups? a.groups = some a :=
  dif_pos ⟨a.length_groups, a.group_lt⟩

/-- A written address is read as the address. -/
theorem ofText?_of_written {a : V6} {cs : List Char} (h : Written a cs) : ofText? cs = some a := by
  cases h with
  | wrapped v h =>
    obtain ⟨a', b, c, d, hv, ha, hb, hc, hd⟩ := v.exists_octets
    have hsplit : splitGap? ("::ffff:".toList ++ v.text.toList) = some ([], "ffff".toList ++ ':' :: v.text.toList) := rfl
    have hback : groups? ("ffff".toList ++ ':' :: v.text.toList) = some [0xffff, 256 * a' + b, 256 * c + d] := by
      rw [groups?, Text.splitAll_append_mark (by decide), Text.splitAll_of_notMem v.colon_notMem_text]
      show pieces? ["ffff".toList, v.text.toList] = _
      rw [pieces?, pieces?, if_pos v.point_mem_text, V4.octets?_text, hv]
      · rfl
      · nofun
    rw [ofText?_of_splitGap? hsplit nofun rfl hback (Nat.le_of_ble_eq_true rfl), ← ofGroups?_groups, h, V4.groups_mapped hv]
    rfl
  | @gap front back n hm h hn longest first =>
    have hlength : front.length + n + back.length = 8 := by
      have hlength := a.length_groups
      rwa [h, List.length_append, List.length_append, List.length_replicate] at hlength
    have hlt := a.group_lt
    rw [h] at hlt
    have hfront : ∀ g ∈ front, g < 65536 := fun g hg => hlt g (by simp [hg])
    have hback : ∀ g ∈ back, g < 65536 := fun g hg => hlt g (by simp [hg])
    have hrun : 8 - front.length - back.length = n := by omega
    rw [ofText?_of_splitGap? (splitGap?_gap front _) (point_notMem_writeGroups front) (groups?_writeGroups hfront)
      (groups?_writeGroups hback) (by omega), hrun, ← h, ofGroups?_groups]
  | plain hm h =>
    have hne : a.groups ≠ [] := by
      intro hnil
      have := a.length_groups
      rw [hnil] at this
      cases this
    obtain ⟨c, rest, hc, -⟩ := exists_writeGroups_eq_cons hne
    rw [ofText?, splitGap?_writeGroups]
    dsimp only
    rw [if_neg, groups?_writeGroups a.group_lt, Option.bind_some, ofGroups?_groups]
    rw [hc]
    nofun

/-! ### The longest run of zeros -/

/-- A run of zeros is no longer than the one that is counted from its place on. -/
theorem le_zerosAt {gs f b : List Nat} {m : Nat} (h : gs = f ++ List.replicate m 0 ++ b) : m ≤ zerosAt gs f.length := by
  have hzeros : ∀ g ∈ List.replicate m 0, decide (g = 0) = true := by
    intro g hg
    exact decide_eq_true (List.mem_replicate.1 hg).2
  rw [zerosAt, h, List.append_assoc, List.drop_left, List.takeWhile_append_of_pos hzeros, List.length_append,
    List.length_replicate]
  omega

theorem drop_eq_zeros (gs : List Nat) (i : Nat) :
    gs.drop i = List.replicate (zerosAt gs i) 0 ++ gs.drop (i + zerosAt gs i) := by
  have hzeros : (gs.drop i).takeWhile (· = 0) = List.replicate (zerosAt gs i) 0 := by
    refine List.eq_replicate_iff.2 ⟨rfl, fun g hg => ?_⟩
    have hg : decide (g = 0) = true := List.mem_takeWhile_imp (p := fun x => decide (x = 0)) hg
    exact of_decide_eq_true hg
  have htake : (gs.drop i).takeWhile (· = 0) = (gs.drop i).take (zerosAt gs i) :=
    List.prefix_iff_eq_take.1 (List.takeWhile_prefix _)
  rw [← hzeros, htake, ← List.drop_drop, List.take_append_drop]

/-- The search for the longest run, over the places before `k`. -/
def longestBefore (gs : List Nat) (k : Nat) : Nat × Nat :=
  (List.range k).foldl (fun best i => if best.2 < zerosAt gs i then (i, zerosAt gs i) else best) (0, 0)

/-- No run before place `k` is longer than the best, and none before it is as long. -/
theorem longestBefore_spec (gs : List Nat) (k : Nat) :
    (∀ j < k, zerosAt gs j ≤ (longestBefore gs k).2)
      ∧ (0 < (longestBefore gs k).2 → zerosAt gs (longestBefore gs k).1 = (longestBefore gs k).2)
      ∧ ∀ j < (longestBefore gs k).1, zerosAt gs j < (longestBefore gs k).2 := by
  induction k with
  | zero => exact ⟨nofun, nofun, nofun⟩
  | succ k ih =>
    obtain ⟨hmax, hbest, hfirst⟩ := ih
    have hstep : longestBefore gs (k + 1)
        = if (longestBefore gs k).2 < zerosAt gs k then (k, zerosAt gs k) else longestBefore gs k := by
      rw [longestBefore, List.range_succ, List.foldl_append]
      rfl
    rw [hstep]
    split
    · rename_i hlt
      refine ⟨fun j hj => ?_, fun _ => rfl, fun j hj => ?_⟩
      · show zerosAt gs j ≤ zerosAt gs k
        rcases Nat.lt_succ_iff_lt_or_eq.1 hj with hj | rfl
        · have := hmax j hj
          omega
        · exact Nat.le_refl _
      · show zerosAt gs j < zerosAt gs k
        have := hmax j hj
        omega
    · rename_i hle
      refine ⟨fun j hj => ?_, hbest, hfirst⟩
      rcases Nat.lt_succ_iff_lt_or_eq.1 hj with hj | rfl
      · exact hmax j hj
      · exact Nat.not_lt.1 hle

/-- The longest run that is found stands among the groups. -/
theorem groups_eq_longestZeros {gs : List Nat} (h : 0 < (longestZeros gs).2) :
    gs = gs.take (longestZeros gs).1 ++ List.replicate (longestZeros gs).2 0
      ++ gs.drop ((longestZeros gs).1 + (longestZeros gs).2) := by
  have hbest : zerosAt gs (longestZeros gs).1 = (longestZeros gs).2 := (longestBefore_spec gs gs.length).2.1 h
  have hdrop := drop_eq_zeros gs (longestZeros gs).1
  rw [hbest] at hdrop
  rw [List.append_assoc, ← hdrop, List.take_append_drop]

/-- No run among the groups is longer than the one that is found, and none before it is as long. -/
theorem le_longestZeros {gs f b : List Nat} {m : Nat} (h : gs = f ++ List.replicate m 0 ++ b) :
    m ≤ (longestZeros gs).2 ∧ (0 < m → m = (longestZeros gs).2 → (longestZeros gs).1 ≤ f.length) := by
  obtain ⟨hmax, -, hfirst⟩ := longestBefore_spec gs gs.length
  change ∀ j < gs.length, zerosAt gs j ≤ (longestZeros gs).2 at hmax
  change ∀ j < (longestZeros gs).1, zerosAt gs j < (longestZeros gs).2 at hfirst
  have hle : m ≤ zerosAt gs f.length := le_zerosAt h
  have hlength : gs.length = f.length + m + b.length := by
    rw [h, List.length_append, List.length_append, List.length_replicate]
  constructor
  · by_cases hm : m = 0
    · omega
    · have := hmax f.length (by omega)
      omega
  · intro hm heq
    refine Nat.not_lt.1 fun hbefore => ?_
    have := hfirst f.length hbefore
    omega

/-- **The text of an address is written the one way.** -/
theorem written_text (a : V6) : Written a a.text.toList := by
  rw [text, String.toList_ofList]
  cases hw : wrapped? a.groups with
  | some os =>
    obtain ⟨v, rfl, hv⟩ := eq_mapped_of_wrapped? hw
    have htext : v.text.toList = V4.write v.octets := String.toList_ofList
    have hwrite : write a.groups = "::ffff:".toList ++ v.text.toList := by
      rw [write, hw, htext]
    rw [hwrite]
    exact .wrapped v hv
  | none =>
    have hm : ∀ v : V4, a ≠ v.mapped := by
      rintro v rfl
      rw [V4.wrapped?_mapped] at hw
      cases hw
    by_cases hlen : 1 < (longestZeros a.groups).2
    · have hwrite : write a.groups = writeGroups (a.groups.take (longestZeros a.groups).1) ++ [':', ':']
          ++ writeGroups (a.groups.drop ((longestZeros a.groups).1 + (longestZeros a.groups).2)) := by
        rw [write, hw]
        exact if_pos hlen
      rw [hwrite]
      refine .gap hm (groups_eq_longestZeros (by omega)) hlen ?_ ?_
      · intro f m b h
        exact (le_longestZeros h).1
      · intro f b h
        exact Nat.le_trans (List.length_take_le ..) ((le_longestZeros h).2 (by omega) rfl)
    · have hwrite : write a.groups = writeGroups a.groups := by
        rw [write, hw]
        exact if_neg hlen
      rw [hwrite]
      refine .plain hm fun f b h => ?_
      have := (le_longestZeros (m := 2) h).1
      omega

/-- Of two runs of one length, the first is left out. -/
example : write [0x2001, 0xdb8, 0, 0, 1, 0, 0, 1] = "2001:db8::1:0:0:1".toList := by
  decide

theorem written_iff {a : V6} {cs : List Char} : Written a cs ↔ cs = a.text.toList := by
  constructor
  · intro h
    exact h.unique a.written_text
  · rintro rfl
    exact a.written_text

/-- The text of an address is read as the address. -/
theorem ofText?_text (a : V6) : ofText? a.text.toList = some a :=
  ofText?_of_written (written_text a)

theorem Written.colon_mem {a : V6} {cs : List Char} (h : Written a cs) : ':' ∈ cs := by
  cases h with
  | wrapped v h => exact List.mem_append_left _ (by decide)
  | gap hm h hn longest first => simp
  | plain hm h =>
    obtain ⟨g, gs, hgs⟩ : ∃ g gs, a.groups = g :: gs :=
      List.exists_cons_of_length_pos (by rw [a.length_groups]; omega)
    have hne : gs ≠ [] := by
      rintro rfl
      have hlength := a.length_groups
      rw [hgs] at hlength
      cases hlength
    rw [hgs, writeGroups_cons g hne]
    simp

end V6

/-! ### Peers -/

namespace Ip

theorem text_v4_ne_v6 (v : V4) (a : V6) : v.text ≠ a.text := by
  intro h
  have hcolon := (V6.written_text a).colon_mem
  rw [← h] at hcolon
  exact v.colon_notMem_text hcolon

/-- **Two addresses of one text are the same.** -/
theorem text_inj {x y : Ip} : x.text = y.text ↔ x = y := by
  constructor
  · intro h
    cases x with
    | v4 v =>
      cases y with
      | v4 w =>
        have hread := v.ofText?_text
        rw [show v.text = w.text from h, w.ofText?_text] at hread
        rw [Option.some.inj hread]
      | v6 a => exact absurd h (text_v4_ne_v6 v a)
    | v6 a =>
      cases y with
      | v4 v => exact absurd h.symm (text_v4_ne_v6 v a)
      | v6 b =>
        have hread := a.ofText?_text
        rw [show a.text = b.text from h, b.ofText?_text] at hread
        rw [Option.some.inj hread]
  · rintro rfl
    rfl

theorem text_ne_unknown (x : Ip) : x.text ≠ "unknown" := by
  intro h
  cases x with
  | v4 v =>
    have hpoint := v.point_mem_text
    rw [show v.text = "unknown" from h] at hpoint
    exact absurd hpoint (by decide)
  | v6 a =>
    have hcolon := (V6.written_text a).colon_mem
    rw [show a.text = "unknown" from h] at hcolon
    exact absurd hcolon (by decide)

end Ip

namespace Attribution

/-- Where forwarding headers are not trusted, clients have one address just if their peers have. -/
theorem address_untrusted_eq_iff {peer peer' : Option SocketAddress} {hs hs' : Headers} :
    address false peer hs = address false peer' hs' ↔ peer.map SocketAddress.ip = peer'.map SocketAddress.ip := by
  cases peer with
  | none =>
    cases peer' with
    | none => exact iff_of_true rfl rfl
    | some p' => exact iff_of_false (Ip.text_ne_unknown p'.ip).symm nofun
  | some p =>
    cases peer' with
    | none => exact iff_of_false (Ip.text_ne_unknown p.ip) nofun
    | some p' =>
      show p.ip.text = p'.ip.text ↔ some p.ip = some p'.ip
      rw [Ip.text_inj, Option.some.injEq]

/-- The key of a request without a user is told by the address of its peer. -/
theorem key_client_untrusted_eq_iff {gateway : Option HeaderName} {space : String} {r r' : Request}
    (h : user? gateway r = none) (h' : user? gateway r' = none) :
    (client gateway false r).key space = (client gateway false r').key space
      ↔ r.peer.map SocketAddress.ip = r'.peer.map SocketAddress.ip := by
  have haddress : address false r.peer r.headers = address false r'.peer r'.headers
      ↔ r.peer.map SocketAddress.ip = r'.peer.map SocketAddress.ip := address_untrusted_eq_iff
  rw [Client.key_inj, client, client, h, h', ← haddress]
  exact ⟨Client.address.inj, congrArg Client.address⟩

/-- **Peers are told apart by their addresses and by nothing else**, where forwarding headers are not
trusted: whatever the ports, scopes and headers are.  An address of four octets and the longer one
that wraps it are two, and an address is never taken for a missing one. -/
theorem peers_told_apart :
    (∀ peer peer' hs hs', address false peer hs = address false peer' hs'
        ↔ peer.map SocketAddress.ip = peer'.map SocketAddress.ip)
      ∧ (∀ (v : V4) port port' flow scope hs hs',
        address false (some (.v4 v port)) hs ≠ address false (some (.v6 v.mapped port' flow scope)) hs')
      ∧ (∀ p hs, address false (some p) hs ≠ "unknown")
      ∧ (∀ (v : V4) port hs, V4.ofText? (address false (some (.v4 v port)) hs).toList = some v)
      ∧ (∀ (a : V6) port flow scope hs cs,
        a.Written cs ↔ cs = (address false (some (.v6 a port flow scope)) hs).toList)
      ∧ ∀ gateway space r r', user? gateway r = none → user? gateway r' = none →
        ((client gateway false r).key space = (client gateway false r').key space
          ↔ r.peer.map SocketAddress.ip = r'.peer.map SocketAddress.ip) := by
  refine ⟨fun peer peer' hs hs' => address_untrusted_eq_iff, ?_, fun p hs => Ip.text_ne_unknown p.ip,
    fun v port hs => v.ofText?_text, fun a port flow scope hs cs => V6.written_iff,
    fun gateway space r r' h h' => key_client_untrusted_eq_iff h h'⟩
  intro v port port' flow scope hs hs' heq
  have hip := address_untrusted_eq_iff.1 heq
  cases hip

/-- A request by a peer, without a user. -/
def requestBy (peer : SocketAddress) : Request where
  method := "POST"
  target := "/api/ping"
  headers := [(forwardedFor, .ofAscii "unknown")]
  peer := some peer
  user := none

def loopback : V4 := ⟨[127, 0, 0, 1], rfl, by decide⟩

/-- A host that comes from two ports, and by way of a wrapped address too. -/
theorem loopback_told_apart :
    user? none (requestBy (.v4 loopback 80)) = none
      ∧ (client none false (requestBy (.v4 loopback 80))).key "g:"
        = (client none false (requestBy (.v4 loopback 81))).key "g:"
      ∧ (client none false (requestBy (.v4 loopback 80))).key "g:"
        ≠ (client none false (requestBy (.v6 loopback.mapped 80 0 0))).key "g:" := by
  obtain ⟨-, -, -, -, -, hkey⟩ := peers_told_apart
  refine ⟨rfl, (hkey none "g:" _ _ rfl rfl).2 rfl, fun heq => ?_⟩
  have hip := (hkey none "g:" (requestBy (.v4 loopback 80)) (requestBy (.v6 loopback.mapped 80 0 0)) rfl rfl).1 heq
  cases hip

end Attribution

end QuotaGate
