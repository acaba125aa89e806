/-
What a client can read off its advice.

A number stands in a field as its decimal numeral, in characters that may be read, so that it is
told by the field (`Advice.value_inj`) and whoever parses the field has the number again, at any
width that holds it (`Advice.Tells`).  Giving advice writes over all that stood under the three
names before, and touches no other (`advise_advise`, `all_advise_of_notMem`).

* `Numeral.int64?_ofInt` — signed numerals are read as what was written;
* `Headers.Shows` — the one value of a name, as a reader takes it;
* `Advice.headers_rejection_iff` — the fields of a rejection tell its status, but for the count.
-/
import QuotaGate.Proofs.Naming
import QuotaGate.Proofs.Service.Fields
import QuotaGate.Proofs.Service.Report

namespace QuotaGate

/-! ### Numerals -/

namespace Numeral

/-- A numeral is told by what is written of it. -/
theorem ofInt_inj {i j : Int} : ofInt i = ofInt j ↔ i = j := by
  refine ⟨fun h => ?_, congrArg _⟩
  have hm : Policy.member i "" = Policy.member j "" := by rw [Policy.member, Policy.member, h]
  exact (Policy.member_inj.1 hm).1

/-- Numerals are written in printable characters. -/
theorem printable_of_mem_ofInt {i : Int} : ∀ c ∈ (ofInt i).toList, 0x20 ≤ c.toNat ∧ c.toNat ≤ 0x7e := by
  have hdigits : ∀ n, ∀ c ∈ (ofNat n).toList, 0x20 ≤ c.toNat ∧ c.toNat ≤ 0x7e := by
    intro n c hc
    rw [ofNat, String.toList_ofList] at hc
    have hdigit := Char.isDigit_iff_toNat.1 (Report.isDigit_toDigits n c hc)
    have hbounds : '0'.toNat = 48 ∧ '9'.toNat = 57 := ⟨rfl, rfl⟩
    omega
  cases i with
  | ofNat n => exact hdigits n
  | negSucc n =>
    rw [ofInt, String.toList_append]
    refine List.forall_mem_append.2 ⟨fun c hc => ?_, hdigits _⟩
    obtain rfl : c = '-' := by simpa using hc
    have hdash : '-'.toNat = 45 := rfl
    omega

theorem int64?_ofInt {i : Int} (h : Clock.Holds i) : int64? (ofInt i).toList = some i := by
  obtain ⟨hlow, hhigh⟩ := h
  cases i with
  | ofNat n =>
    -- A numeral without a sign does not begin with a dash.
    have hdash : ∀ rest, (ofNat n).toList ≠ '-' :: rest := by
      intro rest hrest
      rw [ofNat, String.toList_ofList] at hrest
      refine dash_notMem_toDigits n ?_
      rw [hrest]
      exact List.mem_cons_self
    have hread : natUpTo 0x7fffffffffffffff (ofNat n).toList = .ok n := by
      refine natUpTo_ofNat ?_
      simp only [Int.ofNat_eq_natCast] at hhigh
      omega
    rw [ofInt, int64?]
    · rw [hread]
      rfl
    · exact hdash []
    · exact hdash
  | negSucc n =>
    have hread : readDigits 0x8000000000000000 0 (Nat.toDigits 10 (n + 1)) = .ok (n + 1) := by
      refine readDigits_toDigits _ ?_
      omega
    have htext : (ofInt (.negSucc n)).toList = '-' :: Nat.toDigits 10 (n + 1) := by
      rw [ofInt, String.toList_append, ofNat]
      show '-' :: (String.ofList (Nat.toDigits 10 (n + 1))).toList = _
      rw [String.toList_ofList]
    rw [htext, int64?]
    · rw [hread]
      rfl
    · exact fun hnil => absurd hnil Nat.toDigits_ne_nil

end Numeral

/-! ### Values -/

theorem HeaderValue.text?_ofAscii {s : String} (h : ∀ c ∈ s.toList, 0x20 ≤ c.toNat ∧ c.toNat ≤ 0x7e) :
    (ofAscii s).text? = some s := by
  have hbyte : ∀ c ∈ s.toList, c.toNat.toUInt8.toNat = c.toNat := by
    intro c hc
    have hle := (h c hc).2
    rw [Nat.toUInt8, UInt8.toNat_ofNat']
    omega
  have hreadable : (ofAscii s).all isReadable := by
    rw [ofAscii, List.all_map, List.all_eq_true]
    intro c hc
    have hb := hbyte c hc
    have hbounds := h c hc
    simp only [Function.comp_apply, isReadable, Bool.or_eq_true, Bool.and_eq_true, decide_eq_true_eq]
    refine .inl ⟨?_, ?_⟩
    · rw [UInt8.le_iff_toNat_le, hb]
      exact hbounds.1
    · rw [UInt8.le_iff_toNat_le, hb]
      exact hbounds.2
  have hchars : (ofAscii s).map (fun b => Char.ofNat b.toNat) = s.toList := by
    rw [ofAscii, List.map_map]
    refine (List.map_congr_left fun c hc => ?_).trans (List.map_id _)
    rw [Function.comp_apply, hbyte c hc, Char.ofNat_toNat]
    rfl
  rw [text?, if_pos hreadable, hchars, String.ofList_toList]

/-- Under the name `n` there is one value, and it reads as `x`. -/
def Headers.Shows {α : Type} (hs : Headers) (n : HeaderName) (read : List Char → Option α) (x : α) : Prop :=
  ∃ v t, hs.all n = [v] ∧ v.text? = some t ∧ read t.toList = some x

/-- Numbers within the width of their type: 32 bits, 64 bits, and 64 bits with a sign. -/
structure Status.Sized (s : Status) : Prop where
  limit : s.limit ≤ 0xffffffff
  remaining : s.remaining ≤ 0xffffffffffffffff
  resetAt : Clock.Holds s.resetAt
  retryAfter : s.retryAfter ≤ 0xffffffffffffffff

namespace Advice

variable {hs : Headers} {s : Status}

theorem text?_value (i : Int) : (value i).text? = some (Numeral.ofInt i) :=
  HeaderValue.text?_ofAscii Numeral.printable_of_mem_ofInt

theorem value_inj {i j : Int} : value i = value j ↔ i = j := by
  refine ⟨fun h => ?_, congrArg _⟩
  have ht := text?_value i
  rw [h, text?_value] at ht
  exact (Numeral.ofInt_inj.1 (Option.some.inj ht)).symm

/-! ### Reading the fields -/

/-- Reads an unsigned number of a width, by its greatest value. -/
def unsigned? (greatest : Nat) (cs : List Char) : Option Nat :=
  (Numeral.natUpTo greatest cs).toOption

/-- The three names tell the status, each at the width of its number. -/
structure Tells (hs : Headers) (s : Status) : Prop where
  limit : hs.Shows limitName (unsigned? 0xffffffff) s.limit
  remaining : hs.Shows remainingName (unsigned? 0xffffffffffffffff) s.remaining
  resetAt : hs.Shows resetName Numeral.int64? s.resetAt

theorem shows_unsigned {n : HeaderName} {greatest x : Nat} (h : hs.all n = [value x]) (hx : x ≤ greatest) :
    hs.Shows n (unsigned? greatest) x := by
  refine ⟨_, _, h, text?_value x, ?_⟩
  have hread : Numeral.natUpTo greatest (Numeral.ofInt x).toList = .ok x := Numeral.natUpTo_ofNat hx
  rw [unsigned?, hread]
  rfl

theorem tells_of_all (hlimit : hs.all limitName = [value s.limit]) (hremaining : hs.all remainingName = [value s.remaining])
    (hreset : hs.all resetName = [value s.resetAt]) (hs' : s.Sized) : Tells hs s where
  limit := shows_unsigned hlimit hs'.limit
  remaining := shows_unsigned hremaining hs'.remaining
  resetAt := ⟨_, _, hreset, text?_value _, Numeral.int64?_ofInt hs'.resetAt⟩

/-- Advice leaves the other names in their places, and puts its own after them. -/
theorem advise_eq (hs : Headers) (s : Status) :
    advise hs s = (hs.filter fun f => f.1 ∉ names)
      ++ [(limitName, value s.limit), (remainingName, value s.remaining), (resetName, value s.resetAt)] := by
  have hlr : limitName ≠ remainingName := by decide
  have hlt : limitName ≠ resetName := by decide
  have hrt : remainingName ≠ resetName := by decide
  simp only [advise, Headers.set, List.filter_append, List.filter_filter, List.append_assoc]
  simp only [List.filter_cons, List.filter_nil, ne_eq, hlr, hlt, hrt, not_false_eq_true, decide_true, if_true,
    List.cons_append, List.nil_append]
  congr 1
  refine List.filter_congr fun f _ => ?_
  simp only [names, List.mem_cons, List.not_mem_nil, or_false, not_or, Bool.decide_and, decide_not, Bool.and_comm,
    Bool.and_assoc]

/-- Only the last advice counts. -/
theorem advise_advise (hs : Headers) (s t : Status) : advise (advise hs s) t = advise hs t := by
  have hmem : limitName ∈ names ∧ remainingName ∈ names ∧ resetName ∈ names := by decide
  rw [advise_eq (advise hs s), advise_eq hs s, advise_eq hs t, List.filter_append, List.filter_filter]
  simp [hmem]

/-- The fields of a rejection are told by four numbers, and tell them. -/
theorem headers_rejection_iff {t : Status} :
    (rejection s).headers = (rejection t).headers
      ↔ s.limit = t.limit ∧ s.remaining = t.remaining ∧ s.resetAt = t.resetAt ∧ s.retryAfter = t.retryAfter := by
  constructor
  · intro h
    have hsame : ∀ n, (rejection s).headers.all n = (rejection t).headers.all n := fun n => by rw [h]
    have hlimit := hsame limitName
    have hremaining := hsame remainingName
    have hreset := hsame resetName
    have hretry := hsame retryName
    simp only [all_rejection_retry] at hretry
    simp only [rejection, all_advise_limit] at hlimit
    simp only [rejection, all_advise_remaining] at hremaining
    simp only [rejection, all_advise_reset] at hreset
    simp only [List.cons.injEq, and_true, value_inj, Int.natCast_inj] at hlimit hremaining hreset hretry
    exact ⟨hlimit, hremaining, hreset, hretry⟩
  · rintro ⟨hlimit, hremaining, hreset, hretry⟩
    simp only [rejection, advise, hlimit, hremaining, hreset, hretry]

/-- **Advice is read as it was given.**  Whatever stood in the fields before, each of the three
names has one value after a status was advised, which reads as its number; every other name
has its values in their order; and of two statuses the second alone is left.  The fields of
a rejection tell its status in the same way, with the time to wait, and two rejections have
the same fields just if they agree in these four numbers. -/
theorem advice_legible {s : Status} (hs : s.Sized) :
    (∀ fields : Headers, Tells (advise fields s) s ∧ ∀ n, n ∉ names → (advise fields s).all n = fields.all n)
      ∧ (∀ (fields : Headers) (earlier : Status), advise (advise fields earlier) s = advise fields s)
      ∧ (Tells (rejection s).headers s ∧ (rejection s).headers.Shows retryName (unsigned? 0xffffffffffffffff) s.retryAfter)
      ∧ ∀ t : Status, (rejection s).headers = (rejection t).headers
          ↔ s.limit = t.limit ∧ s.remaining = t.remaining ∧ s.resetAt = t.resetAt ∧ s.retryAfter = t.retryAfter := by
  have htells : ∀ fields : Headers, Tells (advise fields s) s := fun fields =>
    tells_of_all (all_advise_limit fields s) (all_advise_remaining fields s) (all_advise_reset fields s) hs
  refine ⟨fun fields => ⟨htells fields, fun n hn => all_advise_of_notMem fields s hn⟩,
    fun fields earlier => advise_advise fields earlier s, ⟨htells _, ?_⟩, fun t => headers_rejection_iff⟩
  exact shows_unsigned (all_rejection_retry s) hs.retryAfter

/-- The greatest numbers, and the least second. -/
def extreme : Status :=
  { limit := 0xffffffff, count := 0, remaining := 0xffffffffffffffff, resetAt := -0x8000000000000000
    retryAfter := 0xffffffffffffffff }

/-- Fields in which a limit stands twice already, once as a byte that is no text. -/
def crowded : Headers :=
  [(limitName, [0x31]), (contentType, [0x61]), (limitName, [0xff]), (contentType, [0x62]), (resetName, [])]

theorem extreme_legible :
    extreme.Sized ∧ Tells (advise crowded extreme) extreme
      ∧ (advise crowded extreme).all resetName = [.ofAscii "-9223372036854775808"]
      ∧ (contentType ∉ names ∧ (advise crowded extreme).all contentType = [[0x61], [0x62]])
      ∧ advise (advise crowded { extreme with limit := 1 }) extreme = advise crowded extreme
      ∧ Tells (rejection extreme).headers extreme
      ∧ ¬(rejection extreme).headers = (rejection { extreme with remaining := 0 }).headers := by
  have hsized : extreme.Sized := ⟨Nat.le_refl _, Nat.le_refl _, ⟨Int.le_refl _, by decide⟩, Nat.le_refl _⟩
  obtain ⟨hadvised, hlast, ⟨hrejected, -⟩, htold⟩ := advice_legible hsized
  have hother : contentType ∉ names := by decide
  refine ⟨hsized, (hadvised crowded).1, by decide, ⟨hother, (hadvised crowded).2 contentType hother⟩, hlast crowded _,
    hrejected, fun hsame => ?_⟩
  have hremaining := ((htold _).1 hsame).2.1
  exact absurd hremaining (by decide)

end Advice

end QuotaGate
