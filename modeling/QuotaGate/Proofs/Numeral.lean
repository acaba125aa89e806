/-
Which texts are numerals.

An unsigned numeral is one or more decimal digits, behind a plus sign or not; zeros in front
change nothing.  Reading one up to a bound comes to a number just if the text is a numeral of
that number and the number is within the bound (`natUpTo_eq_ok_iff`), so that a reader that
stops at the first digit beyond the bound misses none.

* `IsDigits`, `Denotes` — digits and numerals, with the number that they stand for;
* `readDigits_eq_ok_iff` — reading digits after a value that is within the bound;
* `Faulty` — what is wrong with any other text: nothing is there, or digits in front stand for a
  number beyond the bound, or else some character should not be there (`natUpTo_eq_error_iff`).
-/
import QuotaGate.Text.Numeral

namespace QuotaGate.Numeral

/-- One or more decimal digits that stand for `n`. -/
structure IsDigits (cs : List Char) (n : Nat) : Prop where
  ne_nil : cs ≠ []
  isDigit : ∀ c ∈ cs, c.isDigit
  value : Nat.ofDigitChars 10 cs 0 = n

/-- An unsigned numeral of `n`: digits, behind a plus sign or not. -/
def Denotes (cs : List Char) (n : Nat) : Prop :=
  ∃ ds, (cs = ds ∨ cs = '+' :: ds) ∧ IsDigits ds n

theorem digit?_eq_some_iff {c : Char} {d : Nat} : digit? c = some d ↔ c.isDigit ∧ d = c.toNat - '0'.toNat := by
  have hzero : '0'.toNat = 48 := rfl
  rw [digit?, hzero]
  split
  · rename_i hc
    simp only [Option.some.injEq, hc, true_and, eq_comm]
  · rename_i hc
    simp only [reduceCtorEq, hc, false_and]

/-- More digits do not make a number smaller. -/
theorem le_ofDigitChars (cs : List Char) (acc : Nat) : acc ≤ Nat.ofDigitChars 10 cs acc := by
  induction cs generalizing acc with
  | nil => exact Nat.le_refl _
  | cons c cs ih =>
    rw [Nat.ofDigitChars_cons]
    have := ih (10 * acc + (c.toNat - '0'.toNat))
    omega

theorem readDigits_eq_ok_iff {bound acc n : Nat} (h : acc ≤ bound) {cs : List Char} :
    readDigits bound acc cs = .ok n
      ↔ (∀ c ∈ cs, c.isDigit) ∧ Nat.ofDigitChars 10 cs acc = n ∧ n ≤ bound := by
  induction cs generalizing acc with
  | nil =>
    rw [readDigits]
    constructor
    · intro hn
      obtain rfl := Except.ok.inj hn
      exact ⟨fun c hc => absurd hc List.not_mem_nil, rfl, h⟩
    · rintro ⟨-, rfl, -⟩
      rfl
  | cons c cs ih =>
    rw [readDigits, Nat.ofDigitChars_cons, List.forall_mem_cons]
    cases hd : digit? c with
    | none =>
      -- The reader stops at `c`, which is no digit.
      have hc : ¬c.isDigit := fun hc => by simp [digit?, hc] at hd
      exact iff_of_false (by simp) fun h => hc h.1.1
    | some d =>
      obtain ⟨hc, rfl⟩ := digit?_eq_some_iff.1 hd
      dsimp only
      split
      · -- The value exceeds the bound with `c`, and so it does in the end.
        rename_i hlt
        refine iff_of_false (by simp) ?_
        rintro ⟨-, rfl, hle⟩
        exact Nat.not_lt.2 (Nat.le_trans (le_ofDigitChars cs _) hle) hlt
      · rename_i hle
        rw [ih (Nat.not_lt.1 hle)]
        simp [hc]

theorem plus_not_isDigit : ¬ '+'.isDigit := by
  decide

/-- **Numerals are read, and nothing else.** -/
theorem natUpTo_eq_ok_iff {bound n : Nat} {cs : List Char} :
    natUpTo bound cs = .ok n ↔ Denotes cs n ∧ n ≤ bound := by
  unfold natUpTo
  split
  · refine iff_of_false (by simp) ?_
    rintro ⟨⟨ds, rfl | h, hds⟩, -⟩
    · exact hds.ne_nil rfl
    · cases h
  · refine iff_of_false (by simp) ?_
    rintro ⟨⟨ds, rfl | h, hds⟩, -⟩
    · exact plus_not_isDigit (hds.isDigit _ List.mem_cons_self)
    · exact hds.ne_nil (List.cons.inj h).2.symm
  · rename_i rest hrest
    rw [readDigits_eq_ok_iff (Nat.zero_le bound)]
    constructor
    · rintro ⟨hdigits, hvalue, hle⟩
      exact ⟨⟨rest, .inr rfl, hrest, hdigits, hvalue⟩, hle⟩
    · rintro ⟨⟨ds, rfl | h, hds⟩, hle⟩
      · exact absurd (hds.isDigit _ List.mem_cons_self) plus_not_isDigit
      · obtain rfl := (List.cons.inj h).2
        exact ⟨hds.isDigit, hds.value, hle⟩
  · rename_i hnil _ hrest
    rw [readDigits_eq_ok_iff (Nat.zero_le bound)]
    constructor
    · rintro ⟨hdigits, hvalue, hle⟩
      exact ⟨⟨cs, .inl rfl, hnil, hdigits, hvalue⟩, hle⟩
    · rintro ⟨⟨ds, rfl | h, hds⟩, hle⟩
      · exact ⟨hds.isDigit, hds.value, hle⟩
      · exact absurd h (hrest ds)

/-- The numeral that is written of a number denotes it. -/
theorem denotes_ofNat (n : Nat) : Denotes (ofNat n).toList n := by
  rw [ofNat, String.toList_ofList]
  refine ⟨Nat.toDigits 10 n, .inl rfl, Nat.toDigits_ne_nil, ?_, Nat.ofDigitChars_ten_toDigits⟩
  intro c hc
  exact Nat.isDigit_of_mem_toDigits (by omega) (by omega) hc

/-! ### Faults -/

/-- Why a text is no numeral within the bound.  It is too large only if digits in front of it
stand for a number beyond the bound, whatever comes after these. -/
inductive Faulty (bound : Nat) : List Char → Fault → Prop
  | empty : Faulty bound [] .empty
  | tooLarge {cs ds rest : List Char} {n : Nat} (h : cs = ds ++ rest ∨ cs = '+' :: (ds ++ rest)) (hds : IsDigits ds n)
      (hn : bound < n) : Faulty bound cs .tooLarge
  | badDigit {cs : List Char} (hne : cs ≠ []) (hno : ∀ n, ¬Denotes cs n)
      (hfront : ∀ ds rest n, cs = ds ++ rest ∨ cs = '+' :: (ds ++ rest) → IsDigits ds n → n ≤ bound) :
      Faulty bound cs .badDigit

theorem readDigits_ne_empty {bound acc : Nat} (cs : List Char) : readDigits bound acc cs ≠ .error .empty := by
  induction cs generalizing acc with
  | nil =>
    intro h
    cases h
  | cons c cs ih =>
    rw [readDigits]
    cases digit? c with
    | none =>
      intro h
      cases h
    | some d =>
      dsimp only
      split
      · intro h
        cases h
      · exact ih

/-- Digits are read as too large just if some of them, from the first on, stand for a number beyond
the bound. -/
theorem readDigits_eq_tooLarge_iff {bound acc : Nat} (h : acc ≤ bound) {cs : List Char} :
    readDigits bound acc cs = .error .tooLarge
      ↔ ∃ ds rest, cs = ds ++ rest ∧ (∀ c ∈ ds, c.isDigit) ∧ bound < Nat.ofDigitChars 10 ds acc := by
  induction cs generalizing acc with
  | nil =>
    refine iff_of_false (by simp [readDigits]) ?_
    rintro ⟨ds, rest, hnil, -, hlt⟩
    obtain ⟨rfl, -⟩ := List.append_eq_nil_iff.1 hnil.symm
    rw [Nat.ofDigitChars_nil] at hlt
    omega
  | cons c cs ih =>
    -- Some digits beyond the bound are more than none, as the value before them is within it.
    have hfront : (∃ ds rest, c :: cs = ds ++ rest ∧ (∀ x ∈ ds, x.isDigit) ∧ bound < Nat.ofDigitChars 10 ds acc)
        ↔ c.isDigit ∧ ∃ ds rest, cs = ds ++ rest ∧ (∀ x ∈ ds, x.isDigit)
          ∧ bound < Nat.ofDigitChars 10 ds (10 * acc + (c.toNat - '0'.toNat)) := by
      constructor
      · rintro ⟨ds, rest, hsplit, hdigits, hlt⟩
        cases ds with
        | nil =>
          rw [Nat.ofDigitChars_nil] at hlt
          omega
        | cons d ds =>
          obtain ⟨rfl, rfl⟩ := List.cons.inj hsplit
          obtain ⟨hd, hdigits⟩ := List.forall_mem_cons.1 hdigits
          rw [Nat.ofDigitChars_cons] at hlt
          exact ⟨hd, ds, rest, rfl, hdigits, hlt⟩
      · rintro ⟨hc, ds, rest, rfl, hdigits, hlt⟩
        rw [← Nat.ofDigitChars_cons] at hlt
        exact ⟨c :: ds, rest, rfl, List.forall_mem_cons.2 ⟨hc, hdigits⟩, hlt⟩
    rw [readDigits, hfront]
    cases hd : digit? c with
    | none =>
      have hc : ¬c.isDigit := fun hc => by simp [digit?, hc] at hd
      exact iff_of_false (by simp) fun h => hc h.1
    | some d =>
      obtain ⟨hc, rfl⟩ := digit?_eq_some_iff.1 hd
      dsimp only
      split
      · -- The value exceeds the bound with `c` already.
        rename_i hlt
        exact iff_of_true rfl ⟨hc, [], cs, rfl, List.forall_mem_nil _, hlt⟩
      · rename_i hle
        rw [ih (Nat.not_lt.1 hle), and_iff_right hc]

/-- A text that begins with digits, or with digits behind a plus sign, is read from the first of
these on. -/
theorem natUpTo_of_isDigits {bound n : Nat} {cs ds rest : List Char} (h : cs = ds ++ rest ∨ cs = '+' :: (ds ++ rest))
    (hds : IsDigits ds n) : natUpTo bound cs = readDigits bound 0 (ds ++ rest) := by
  obtain ⟨d, ds, rfl⟩ := List.exists_cons_of_ne_nil hds.ne_nil
  have hd : d ≠ '+' := by
    rintro rfl
    exact plus_not_isDigit (hds.isDigit _ List.mem_cons_self)
  rcases h with rfl | rfl
  · simp [natUpTo, hd]
  · simp [natUpTo]

theorem natUpTo_eq_tooLarge_iff {bound : Nat} {cs : List Char} :
    natUpTo bound cs = .error .tooLarge
      ↔ ∃ ds rest n, (cs = ds ++ rest ∨ cs = '+' :: (ds ++ rest)) ∧ IsDigits ds n ∧ bound < n := by
  have hfound : ∀ ds rest, (∀ c ∈ ds, c.isDigit) → bound < Nat.ofDigitChars 10 ds 0 → (cs = ds ++ rest ∨ cs = '+' :: (ds ++ rest)) →
      ∃ ds rest n, (cs = ds ++ rest ∨ cs = '+' :: (ds ++ rest)) ∧ IsDigits ds n ∧ bound < n := by
    intro ds rest hdigits hlt hcs
    refine ⟨ds, rest, _, hcs, ⟨?_, hdigits, rfl⟩, hlt⟩
    rintro rfl
    rw [Nat.ofDigitChars_nil] at hlt
    omega
  constructor
  · intro h
    unfold natUpTo at h
    split at h
    · cases h
    · cases h
    · obtain ⟨ds, rest, hsplit, hdigits, hlt⟩ := (readDigits_eq_tooLarge_iff (Nat.zero_le bound)).1 h
      exact hfound ds rest hdigits hlt (.inr (by rw [hsplit]))
    · obtain ⟨ds, rest, hsplit, hdigits, hlt⟩ := (readDigits_eq_tooLarge_iff (Nat.zero_le bound)).1 h
      exact hfound ds rest hdigits hlt (.inl hsplit)
  · rintro ⟨ds, rest, n, hcs, hds, hlt⟩
    rw [natUpTo_of_isDigits hcs hds, readDigits_eq_tooLarge_iff (Nat.zero_le bound)]
    exact ⟨ds, rest, rfl, hds.isDigit, hds.value ▸ hlt⟩

theorem natUpTo_eq_empty_iff {bound : Nat} {cs : List Char} : natUpTo bound cs = .error .empty ↔ cs = [] := by
  unfold natUpTo
  split
  · exact iff_of_true rfl rfl
  · exact iff_of_false nofun nofun
  · exact iff_of_false (readDigits_ne_empty _) nofun
  · rename_i hnil _ _
    exact iff_of_false (readDigits_ne_empty _) hnil

/-- **Each text that is no numeral within the bound has its one fault.** -/
theorem natUpTo_eq_error_iff {bound : Nat} {cs : List Char} {f : Fault} :
    natUpTo bound cs = .error f ↔ Faulty bound cs f := by
  constructor
  · intro h
    cases f with
    | empty =>
      obtain rfl := natUpTo_eq_empty_iff.1 h
      exact .empty
    | tooLarge =>
      obtain ⟨ds, rest, n, hcs, hds, hlt⟩ := natUpTo_eq_tooLarge_iff.1 h
      exact .tooLarge hcs hds hlt
    | badDigit =>
      have hfront : ∀ ds rest n, cs = ds ++ rest ∨ cs = '+' :: (ds ++ rest) → IsDigits ds n → n ≤ bound := by
        intro ds rest n hcs hds
        refine Nat.not_lt.1 fun hlt => ?_
        rw [natUpTo_eq_tooLarge_iff.2 ⟨ds, rest, n, hcs, hds, hlt⟩] at h
        cases h
      refine .badDigit ?_ ?_ hfront
      · rintro rfl
        cases h
      · rintro n ⟨ds, hcs, hds⟩
        have hle : n ≤ bound := hfront ds [] n (by rwa [List.append_nil]) hds
        rw [natUpTo_eq_ok_iff.2 ⟨⟨ds, hcs, hds⟩, hle⟩] at h
        cases h
  · intro h
    cases h with
    | empty => rfl
    | tooLarge hcs hds hlt => exact natUpTo_eq_tooLarge_iff.2 ⟨_, _, _, hcs, hds, hlt⟩
    | badDigit hne hno hfront =>
      -- No other answer is left.
      cases hr : natUpTo bound cs with
      | ok n => exact absurd (natUpTo_eq_ok_iff.1 hr).1 (hno n)
      | error f =>
        cases f with
        | empty => exact absurd (natUpTo_eq_empty_iff.1 hr) hne
        | badDigit => rfl
        | tooLarge =>
          obtain ⟨ds, rest, n, hcs, hds, hlt⟩ := natUpTo_eq_tooLarge_iff.1 hr
          exact absurd (hfront ds rest n hcs hds) (Nat.not_le.2 hlt)

end QuotaGate.Numeral
