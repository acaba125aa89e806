/-
Decimal numerals.

`ofNat` and `ofInt` write a number; `natUpTo` reads an unsigned one no greater than a bound, `int64?` a
signed one of 64 bits.  `natUpTo_ofNat`: what is written within the bound is read back.

Design notes: a reader goes from left to right and stops at the first fault, so a bad digit is reported
only if the digits before it stay within the bound, and `tooLarge` only for a value that really exceeds
it (leading zeros never do).
-/
namespace QuotaGate.Numeral

/-- The decimal numeral of `n`. -/
def ofNat (n : Nat) : String :=
  String.ofList (Nat.toDigits 10 n)

/-- The decimal numeral of `i`, with a minus sign if it is negative. -/
def ofInt : Int → String
  | .ofNat n => ofNat n
  | .negSucc n => "-" ++ ofNat (n + 1)

/-- Why a text is no numeral of the wanted kind. -/
inductive Fault
  | empty
  | badDigit
  | tooLarge
  deriving DecidableEq, Repr

/-- The wording of a fault. -/
def Fault.message : Fault → String
  | .empty => "cannot parse integer from empty string"
  | .badDigit => "invalid digit found in string"
  | .tooLarge => "number too large to fit in target type"

/-- The value of a decimal digit. -/
def digit? (c : Char) : Option Nat :=
  if c.isDigit then some (c.toNat - 48) else none

/-- Reads digits after a value `acc`, up to the bound. -/
def readDigits (bound : Nat) : Nat → List Char → Except Fault Nat
  | acc, [] => .ok acc
  | acc, c :: rest =>
    match digit? c with
    | none => .error .badDigit
    | some d =>
      if bound < 10 * acc + d then .error .tooLarge else readDigits bound (10 * acc + d) rest

/-- Reads an unsigned numeral no greater than `bound`: an optional plus sign and at least one digit. -/
def natUpTo (bound : Nat) (cs : List Char) : Except Fault Nat :=
  match cs with
  | [] => .error .empty
  | ['+'] => .error .badDigit
  | '+' :: rest => readDigits bound 0 rest
  | cs => readDigits bound 0 cs

/-- Reads a signed numeral of 64 bits: an optional sign and at least one digit. -/
def int64? (cs : List Char) : Option Int :=
  match cs with
  | ['-'] => none
  | '-' :: rest => (readDigits 0x8000000000000000 0 rest).toOption.map fun n => -(n : Int)
  | cs => (natUpTo 0x7fffffffffffffff cs).toOption.map Int.ofNat

/-- The value of a hexadecimal digit. -/
def hexDigit? (c : Char) : Option Nat :=
  if '0' ≤ c ∧ c ≤ '9' then some (c.toNat - 48)
  else if 'a' ≤ c ∧ c ≤ 'f' then some (c.toNat - 87)
  else if 'A' ≤ c ∧ c ≤ 'F' then some (c.toNat - 55)
  else none

/-! ### Reading back what was written -/

theorem digit?_digitChar {d : Nat} (h : d < 10) : digit? d.digitChar = some d := by
  simp [digit?, Nat.isDigit_digitChar, h, Nat.toNat_digitChar_sub_48_of_lt_ten h]

theorem readDigits_append {bound : Nat} {xs ys : List Char} : ∀ {acc v : Nat},
    readDigits bound acc xs = .ok v →
      readDigits bound acc (xs ++ ys) = readDigits bound v ys := by
  induction xs with
  | nil =>
    intro acc v h
    cases h
    rfl
  | cons c xs ih =>
    intro acc v h
    rw [List.cons_append, readDigits]
    rw [readDigits] at h
    split at h
    · cases h
    · rename_i d hd
      split at h
      · cases h
      · rename_i hle
        simp only [hle, if_false]
        exact ih h

/-- The digits of a number within the bound are read as that number. -/
theorem readDigits_toDigits {bound : Nat} (n : Nat) (h : n ≤ bound) :
    readDigits bound 0 (Nat.toDigits 10 n) = .ok n := by
  induction n using Nat.strongRecOn with
  | _ n ih =>
    by_cases h10 : n < 10
    · rw [Nat.toDigits_of_lt_base h10]
      simp [readDigits, digit?_digitChar h10, Nat.not_lt.2 h]
    · have hq : n / 10 < n := Nat.div_lt_self (by omega) (by omega)
      rw [Nat.toDigits_of_base_le (by omega) (by omega)]
      rw [readDigits_append (ih (n / 10) hq (by omega))]
      have hd : n % 10 < 10 := Nat.mod_lt _ (by omega)
      have hn : 10 * (n / 10) + n % 10 = n := Nat.div_add_mod n 10
      simp [readDigits, digit?_digitChar hd, hn, Nat.not_lt.2 h]

theorem head_toDigits_ne_plus (n : Nat) {rest : List Char} : Nat.toDigits 10 n ≠ '+' :: rest := by
  intro h
  have hc : '+'.isDigit := Nat.isDigit_of_mem_toDigits (b := 10) (n := n) (by omega) (by omega)
    (by rw [h]; exact List.mem_cons_self)
  exact absurd hc (by decide)

theorem natUpTo_ofNat {bound n : Nat} (h : n ≤ bound) :
    natUpTo bound (ofNat n).toList = .ok n := by
  rw [ofNat, String.toList_ofList]
  unfold natUpTo
  split
  · rename_i h0
    exact absurd h0 Nat.toDigits_ne_nil
  · rename_i h0
    exact absurd h0 (head_toDigits_ne_plus n)
  · rename_i h0
    exact absurd h0 (head_toDigits_ne_plus n)
  · exact readDigits_toDigits n h

end QuotaGate.Numeral
