/-
Names under which requests are counted.

A key names one client and a member one request of a second: neither two clients nor two
requests are ever taken for each other, whatever the texts they are made of.

* `Client.key_inj` — within a name space, a key has one client;
* `Policy.member_inj` — a member has one second and one nonce, also where the nonce has
  dashes of its own.
-/
import Mathlib.Data.List.TakeWhile
import QuotaGate.Enforcer

namespace QuotaGate

/-- What stands before the first mark, and what stands after it, are told by the
whole. -/
theorem Text.append_mark_inj {mark : Char} {xs ys us vs : List Char} (hx : mark ∉ xs) (hy : mark ∉ ys)
    (h : xs ++ mark :: us = ys ++ mark :: vs) : xs = ys ∧ us = vs := by
  have before : ∀ zs ws : List Char, mark ∉ zs →
      (zs ++ mark :: ws).takeWhile (· ≠ mark) = zs := by
    intro zs ws hz
    have hne : ∀ c ∈ zs, decide (c ≠ mark) = true := fun c hc =>
      decide_eq_true (ne_of_mem_of_not_mem hc hz)
    rw [List.takeWhile_append_of_pos hne]
    simp
  have hxy : xs = ys := by
    rw [← before xs us hx, h, before ys vs hy]
  subst hxy
  exact ⟨rfl, by simpa using h⟩

namespace Numeral

theorem toDigits_inj {n m : Nat} (h : Nat.toDigits 10 n = Nat.toDigits 10 m) : n = m := by
  have hn : readDigits (max n m) 0 (Nat.toDigits 10 n) = .ok n := readDigits_toDigits n (Nat.le_max_left ..)
  rw [h, readDigits_toDigits m (Nat.le_max_right ..)] at hn
  exact (Except.ok.inj hn).symm

theorem dash_notMem_toDigits (n : Nat) : '-' ∉ Nat.toDigits 10 n := by
  intro h
  have hd : '-'.isDigit := Nat.isDigit_of_mem_toDigits (by omega) (by omega) h
  exact absurd hd (by decide)

/-- A numeral with a dash behind it is no dash with something behind it. -/
theorem toDigits_append_ne_dash (n : Nat) {us vs : List Char} :
    Nat.toDigits 10 n ++ '-' :: us ≠ '-' :: vs := by
  cases hd : Nat.toDigits 10 n with
  | nil => exact absurd hd Nat.toDigits_ne_nil
  | cons c cs =>
    intro h
    have hc : c = '-' := (List.cons.inj h).1
    exact dash_notMem_toDigits n (by simp [hd, hc])

end Numeral

namespace Client

theorem key_inj {space : String} {c c' : Client} : c.key space = c'.key space ↔ c = c' := by
  refine ⟨fun h => ?_, fun h => h ▸ rfl⟩
  have hl := congrArg String.toList h
  cases c <;> cases c' <;>
    simp [key, kind, value, String.toList_append, String.toList_inj] at hl ⊢
  all_goals exact hl

end Client

namespace Policy

open Numeral

theorem toList_member (now : Int) (nonce : String) :
    (member now nonce).toList = (ofInt now).toList ++ '-' :: nonce.toList := by
  simp [member, String.toList_append]

theorem member_inj {now now' : Int} {nonce nonce' : String} :
    member now nonce = member now' nonce' ↔ now = now' ∧ nonce = nonce' := by
  refine ⟨fun h => ?_, fun ⟨h, h'⟩ => h ▸ h' ▸ rfl⟩
  have hl := congrArg String.toList h
  rw [toList_member, toList_member] at hl
  -- A dash in front tells the negative seconds; behind it, digits run up to the dash that
  -- ends them.
  cases now with
  | ofNat n =>
    cases now' with
    | ofNat n' =>
      simp only [ofInt, ofNat, String.toList_ofList] at hl
      obtain ⟨hd, hs⟩ := Text.append_mark_inj (dash_notMem_toDigits n) (dash_notMem_toDigits n') hl
      exact ⟨by rw [toDigits_inj hd], String.toList_inj.1 hs⟩
    | negSucc n' =>
      simp only [ofInt, ofNat, String.toList_ofList, String.toList_append] at hl
      exact absurd hl (toDigits_append_ne_dash n)
  | negSucc n =>
    cases now' with
    | ofNat n' =>
      simp only [ofInt, ofNat, String.toList_ofList, String.toList_append] at hl
      exact absurd hl.symm (toDigits_append_ne_dash n')
    | negSucc n' =>
      simp only [ofInt, ofNat, String.toList_ofList, String.toList_append, List.append_assoc,
        List.append_cancel_left_eq] at hl
      obtain ⟨hd, hs⟩ :=
        Text.append_mark_inj (dash_notMem_toDigits _) (dash_notMem_toDigits _) hl
      have := toDigits_inj hd
      exact ⟨by congr 1; omega, String.toList_inj.1 hs⟩

end Policy

end QuotaGate
