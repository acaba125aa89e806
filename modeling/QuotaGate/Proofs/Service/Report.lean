/-
What a collector reads in a report.

A collector goes line by line.  A line that starts with a hash is a comment; any other is
a sample, with its value after the last blank.  So read, the report of some metrics gives
the three totals, the sum and the number of the observations, and the buckets, one for
each bound and in their order (`samples_text`).

* `Reads` — lines and the samples that they come to;
* `Plain` — texts that may stand in a name or a value: numerals are, also those of
  floating-point numbers (`plain_float`);
* `Histogram.cumulate_spec`, `Histogram.getLast?_cumulate` — the buckets grow from bound to
  bound, and up to the number of values that were counted.
-/
import QuotaGate.Proofs.Naming
import QuotaGate.Service.Metrics
import QuotaGate.Text.Split

namespace QuotaGate

namespace Text

/-- Lines that are ended each are read one by one, and nothing after them. -/
theorem splitAll_lines {mark : Char} {lines : List (List Char)} (h : ∀ l ∈ lines, mark ∉ l) :
    splitAll mark (lines.flatMap (· ++ [mark])) = lines ++ [[]] := by
  induction lines with
  | nil => rfl
  | cons l lines ih =>
    rw [List.flatMap_cons, List.append_assoc, List.singleton_append,
      splitAll_append_mark (h l List.mem_cons_self), ih fun x hx => h x (List.mem_cons_of_mem _ hx),
      List.cons_append]

theorem splitLast?_append_mark {mark : Char} (xs : List Char) {ys : List Char} (hy : mark ∉ ys) :
    splitLast? mark (xs ++ mark :: ys) = some (xs, ys) := by
  have hafter : (xs ++ mark :: ys).reverse.takeWhile (· ≠ mark) = ys.reverse := by
    have hne : ∀ c ∈ ys.reverse, decide (c ≠ mark) = true := fun c hc =>
      decide_eq_true (ne_of_mem_of_not_mem (List.mem_reverse.1 hc) hy)
    rw [List.reverse_append, List.reverse_cons, List.append_assoc, List.takeWhile_append_of_pos hne]
    simp
  have hbefore : (xs ++ mark :: ys).length - ys.reverse.reverse.length - 1 = xs.length := by
    simp only [List.length_append, List.length_cons, List.length_reverse]
    omega
  rw [splitLast?, if_pos (by simp), hafter]
  dsimp only
  rw [hbefore, List.take_left, List.reverse_reverse]

end Text

namespace Report

/-- The sample on a line: its name and its value. -/
def sample? : List Char → Option (String × String)
  | '#' :: _ => none
  | line => (Text.splitLast? ' ' line).map fun p => (String.ofList p.1, String.ofList p.2)

/-- The name under which a bucket is reported. -/
def bucketName (name : String) (bound : Float) : String :=
  name ++ "_bucket\x7ble=\"" ++ Metrics.boundText bound ++ "\"\x7d"

/-- The samples of a report, in order. -/
def samples (body : String) : List (String × String) :=
  (Text.splitAll '\n' body.toList).filterMap sample?

/-! ### Plain texts -/

/-- A text without blanks, line ends and hashes. -/
def Plain (s : String) : Prop :=
  ∀ c ∈ s.toList, c ≠ ' ' ∧ c ≠ '\n' ∧ c ≠ '#'

instance (s : String) : Decidable (Plain s) :=
  List.decidableBAll _ s.toList

theorem plain_append {s t : String} : Plain (s ++ t) ↔ Plain s ∧ Plain t := by
  simp only [Plain, String.toList_append, List.forall_mem_append]

theorem plain_ofList {cs : List Char} (h : ∀ c ∈ cs, c.isDigit) : Plain (String.ofList cs) := by
  intro c hc
  have hd := h c (by simpa using hc)
  refine ⟨?_, ?_, ?_⟩ <;> rintro rfl <;> exact absurd hd (by decide)

theorem isDigit_toDigits (n : Nat) : ∀ c ∈ Nat.toDigits 10 n, c.isDigit :=
  fun _ hc => Nat.isDigit_of_mem_toDigits (by omega) (by omega) hc

theorem plain_ofNat (n : Nat) : Plain (Numeral.ofNat n) :=
  plain_ofList (isDigit_toDigits n)

theorem plain_ofInt (i : Int) : Plain (Numeral.ofInt i) := by
  cases i with
  | ofNat n => exact plain_ofNat n
  | negSucc n => exact plain_append.2 ⟨by decide, plain_ofNat _⟩

/-- A decimal is laid out in digits, with a sign, a point and an exponent at most. -/
theorem plain_write {l : Decimal.Layout} (hl : Plain l.whole) (n : Nat) (e : Int) : Plain (l.write n e) := by
  have hdigits := isDigit_toDigits n
  have hpad : ∀ k, ∀ c ∈ List.replicate k '0', c.isDigit := by
    intro k c hc
    rw [(List.mem_replicate.1 hc).2]
    rfl
  have htake : ∀ k, ∀ c ∈ (Nat.toDigits 10 n).take k, c.isDigit := fun k c hc => hdigits c (List.mem_of_mem_take hc)
  have hdrop : ∀ k, ∀ c ∈ (Nat.toDigits 10 n).drop k, c.isDigit := fun k c hc => hdigits c (List.mem_of_mem_drop hc)
  rw [Decimal.Layout.write]
  dsimp only
  -- A whole number, one with its point among the digits, one with zeros after the point,
  -- and one with an exponent.
  split
  · exact plain_append.2 ⟨plain_ofList (List.forall_mem_append.2 ⟨hdigits, hpad _⟩), hl⟩
  · split
    · exact plain_append.2 ⟨plain_append.2 ⟨plain_ofList (htake _), by decide⟩, plain_ofList (hdrop _)⟩
    · split
      · exact plain_append.2 ⟨by decide, plain_ofList (List.forall_mem_append.2 ⟨hpad _, hdigits⟩)⟩
      · refine plain_append.2 ⟨plain_append.2 ⟨plain_append.2 ⟨plain_ofList (htake _), ?_⟩, by decide⟩, plain_ofInt _⟩
        split
        · decide
        · exact plain_append.2 ⟨by decide, plain_ofList (hdrop _)⟩

theorem plain_float {l : Decimal.Layout} (hl : Plain l.whole) (x : Float) : Plain (l.float x) := by
  have hsign : ∀ p : Prop, [Decidable p] → Plain (if p then "-" else "") := by
    intro p _
    split <;> decide
  rw [Decimal.Layout.float]
  dsimp only
  split
  · split
    · exact plain_append.2 ⟨hsign _, by decide⟩
    · decide
  · split
    · exact plain_append.2 ⟨plain_append.2 ⟨hsign _, by decide⟩, hl⟩
    · exact plain_append.2 ⟨hsign _, plain_write hl _ _⟩

theorem plain_layout (x : Float) : Plain (Metrics.layout.float x) :=
  plain_float (by decide) x

theorem plain_boundText (x : Float) : Plain (Metrics.boundText x) := by
  rw [Metrics.boundText]
  split
  · decide
  · exact plain_layout x

/-! ### Lines -/

/-- The lines hold no line end, and come to the samples. -/
structure Reads (lines : List String) (found : List (String × String)) : Prop where
  unbroken : ∀ l ∈ lines, '\n' ∉ l.toList
  found : lines.filterMap (fun l => sample? l.toList) = found

theorem samples_join {lines : List String} {found : List (String × String)} (h : Reads lines found) :
    samples (String.join (lines.map (· ++ "\n"))) = found := by
  have hlist : (String.join (lines.map (· ++ "\n"))).toList = (lines.map String.toList).flatMap (· ++ ['\n']) := by
    simp [String.toList_join, List.flatMap_map]
  have hunbroken : ∀ cs ∈ lines.map String.toList, '\n' ∉ cs := by
    intro cs hcs
    obtain ⟨l, hl, rfl⟩ := List.mem_map.1 hcs
    exact h.unbroken l hl
  -- What follows the last line end is empty, and no sample.
  rw [samples, hlist, Text.splitAll_lines hunbroken, List.filterMap_append, List.filterMap_map,
    ← List.append_nil found]
  exact congrArg₂ _ h.found rfl

namespace Reads

variable {lines lines' : List String} {found found' : List (String × String)}

theorem append (h : Reads lines found) (h' : Reads lines' found') : Reads (lines ++ lines') (found ++ found') :=
  ⟨List.forall_mem_append.2 ⟨h.unbroken, h'.unbroken⟩, by rw [List.filterMap_append, h.found, h'.found]⟩

/-- A sample is read as it was written. -/
theorem sample {name value : String} (hn : Plain name) (hv : Plain value) :
    Reads [name ++ " " ++ value] [(name, value)] := by
  have hlist : (name ++ " " ++ value).toList = name.toList ++ ' ' :: value.toList := by
    simp [String.toList_append]
  refine ⟨fun l hl => ?_, ?_⟩
  · rw [List.mem_singleton.1 hl, hlist]
    intro hm
    rcases List.mem_append.1 hm with hm | hm
    · exact (hn _ hm).2.1 rfl
    · rcases List.mem_cons.1 hm with hm | hm
      · exact absurd hm (by decide)
      · exact (hv _ hm).2.1 rfl
  · have hblank : ' ' ∉ value.toList := fun hm => (hv _ hm).1 rfl
    have hlast := Text.splitLast?_append_mark name.toList hblank
    have hsample : sample? (name.toList ++ ' ' :: value.toList) = some (name, value) := by
      unfold sample?
      split
      · -- The line starts with a letter of the name, or with the blank.
        rename_i hhash
        have hm : '#' ∈ name.toList ∨ '#' = ' ' := by
          cases hname : name.toList with
          | nil =>
            rw [hname] at hhash
            exact .inr (List.cons.inj hhash).1.symm
          | cons c cs =>
            rw [hname] at hhash
            exact .inl (by rw [(List.cons.inj hhash).1]; exact List.mem_cons_self)
        rcases hm with hm | hm
        · exact absurd rfl (hn _ hm).2.2
        · exact absurd hm (by decide)
      · rw [hlast]
        simp
    rw [List.filterMap_cons, hlist, hsample]
    rfl

theorem heading {name help type : String} (hn : Plain name) (hh : '\n' ∉ help.toList) (ht : Plain type) :
    Reads (Metrics.heading name help type) [] := by
  have hname : '\n' ∉ name.toList := fun hm => (hn _ hm).2.1 rfl
  have htype : '\n' ∉ type.toList := fun hm => (ht _ hm).2.1 rfl
  constructor
  · simp [Metrics.heading, String.toList_append, hname, hh, htype]
  · simp [Metrics.heading, String.toList_append, sample?]

theorem suffixed {name value : String} (suffix : String) (hn : Plain name) (hs : Plain suffix) (hv : Plain value) :
    Reads [name ++ (suffix ++ " ") ++ value] [(name ++ suffix, value)] := by
  rw [← String.append_assoc]
  exact sample (plain_append.2 ⟨hn, hs⟩) hv

theorem counter (name help : String) (hn : Plain name) (hh : '\n' ∉ help.toList) (n : Nat) :
    Reads (Metrics.counterLines name help n) [(name ++ "_total", Numeral.ofNat n)] :=
  (heading hn hh (by decide)).append (suffixed "_total" hn (by decide) (plain_ofNat n))

theorem map {α : Type} {xs : List α} {line : α → String} {found : α → String × String}
    (h : ∀ x ∈ xs, Reads [line x] [found x]) : Reads (xs.map line) (xs.map found) := by
  induction xs with
  | nil => exact ⟨nofun, rfl⟩
  | cons x xs ih =>
    exact (h x List.mem_cons_self).append (ih fun y hy => h y (List.mem_cons_of_mem _ hy))

theorem histogram (name help : String) (hn : Plain name) (hh : '\n' ∉ help.toList) (h : Histogram) :
    Reads (Metrics.histogramLines name help h)
      ([(name ++ "_sum", Metrics.layout.float h.sum), (name ++ "_count", Numeral.ofNat h.observations)]
        ++ h.cumulative.map fun b => (bucketName name b.1, Numeral.ofNat b.2)) := by
  have hsum : Reads [name ++ "_sum " ++ Metrics.layout.float h.sum] [(name ++ "_sum", Metrics.layout.float h.sum)] :=
    suffixed "_sum" hn (by decide) (plain_layout _)
  have hcount : Reads [name ++ "_count " ++ Numeral.ofNat h.observations]
      [(name ++ "_count", Numeral.ofNat h.observations)] :=
    suffixed "_count" hn (by decide) (plain_ofNat _)
  have hbucket : ∀ b : Float × Nat, Reads
      [name ++ "_bucket\x7ble=\"" ++ Metrics.boundText b.1 ++ "\"\x7d " ++ Numeral.ofNat b.2]
      [(bucketName name b.1, Numeral.ofNat b.2)] := fun b =>
    suffixed "\"\x7d" (plain_append.2 ⟨plain_append.2 ⟨hn, by decide⟩, plain_boundText b.1⟩) (by decide)
      (plain_ofNat b.2)
  exact ((heading hn hh (by decide)).append (hsum.append hcount)).append (map fun b _ => hbucket b)

end Reads

/-- **What a report says**: the three totals, the sum and the number of the observations,
and how many of them lie below each bound. -/
theorem samples_text (m : Metrics) :
    samples m.text
      = [("rate_limit_allowed_total", Numeral.ofNat m.allowed),
          ("rate_limit_rejections_total", Numeral.ofNat m.rejected),
          ("rate_limit_fail_open_total", Numeral.ofNat m.failOpen),
          ("rate_limit_store_duration_seconds_sum", Metrics.layout.float m.times.sum),
          ("rate_limit_store_duration_seconds_count", Numeral.ofNat m.times.observations)]
        ++ m.times.cumulative.map fun b =>
          (bucketName "rate_limit_store_duration_seconds" b.1, Numeral.ofNat b.2) := by
  have hend : Reads ["# EOF"] [] := ⟨by decide, by decide⟩
  have hallowed := Reads.counter "rate_limit_allowed" "Requests allowed by the rate limiter"
    (by decide) (by decide) m.allowed
  have hrejected := Reads.counter "rate_limit_rejections" "Rate limit rejections" (by decide) (by decide) m.rejected
  have hfailOpen := Reads.counter "rate_limit_fail_open"
    "Requests allowed because the counting store was unavailable" (by decide) (by decide) m.failOpen
  have htimes := Reads.histogram "rate_limit_store_duration_seconds"
    "Rate limit store transaction duration in seconds" (by decide) (by decide) m.times
  have hlines := (((hallowed.append hrejected).append hfailOpen).append htimes).append hend
  rw [List.append_nil] at hlines
  exact samples_join hlines

end Report

/-! ### Buckets -/

namespace Histogram

/-- The number of values in some bucket. -/
def counted : List (Float × Nat) → Nat
  | [] => 0
  | (_, n) :: rest => n + counted rest

theorem counted_append (bs bs' : List (Float × Nat)) : counted (bs ++ bs') = counted bs + counted bs' := by
  induction bs with
  | nil => exact (Nat.zero_add _).symm
  | cons b bs ih =>
    rw [List.cons_append, counted, counted, ih]
    omega

theorem counted_ofBounds (bounds : List Float) : counted (ofBounds bounds).buckets = 0 := by
  simp only [ofBounds]
  induction bounds with
  | nil => rfl
  | cons bound bounds ih => rw [List.map_cons, counted, ih]

theorem map_fst_tally (v : Float) (bs : List (Float × Nat)) : (tally v bs).map Prod.fst = bs.map Prod.fst := by
  rcases tally_spec v bs with ⟨ht, -⟩ | ⟨below, bound, n, above, rfl, -, -, ht⟩
  · rw [ht]
  · simp [ht]

theorem counted_tally_le (v : Float) (bs : List (Float × Nat)) : counted (tally v bs) ≤ counted bs + 1 := by
  induction bs with
  | nil => exact Nat.zero_le _
  | cons b bs ih =>
    obtain ⟨bound, n⟩ := b
    rw [tally]
    split
    · simp only [counted]
      omega
    · simp only [counted]
      omega

/-- A value that some bound is not exceeded by is counted. -/
theorem counted_tally_of_le {v : Float} {bs : List (Float × Nat)} (h : ∃ b ∈ bs, v ≤ b.1) :
    counted (tally v bs) = counted bs + 1 := by
  rcases tally_spec v bs with ⟨-, hnone⟩ | ⟨below, bound, n, above, rfl, -, -, ht⟩
  · obtain ⟨b, hb, hv⟩ := h
    exact absurd hv (hnone b hb)
  · rw [ht, counted_append, counted_append, counted, counted]
    omega

theorem map_fst_cumulate (before : Nat) (bs : List (Float × Nat)) :
    (cumulate before bs).map Prod.fst = bs.map Prod.fst := by
  induction bs generalizing before with
  | nil => rfl
  | cons b bs ih => exact congrArg (b.1 :: ·) (ih (before + b.2))

/-- Up to the last bound all that is counted is. -/
theorem getLast?_cumulate (before : Nat) {bs : List (Float × Nat)} {bound : Float}
    (h : (bs.map Prod.fst).getLast? = some bound) :
    (cumulate before bs).getLast? = some (bound, before + counted bs) := by
  induction bs generalizing before with
  | nil => cases h
  | cons b bs ih =>
    cases bs with
    | nil =>
      obtain rfl := Option.some.inj h
      rfl
    | cons c bs =>
      have hlast := ih (before + b.2) h
      rw [Nat.add_assoc] at hlast
      exact hlast

/-- The counts up to the bounds grow from `before` up to all that is counted. -/
theorem cumulate_spec (before : Nat) (bs : List (Float × Nat)) :
    ((cumulate before bs).map Prod.snd).Pairwise (· ≤ ·)
      ∧ ∀ n ∈ (cumulate before bs).map Prod.snd, before ≤ n ∧ n ≤ before + counted bs := by
  induction bs generalizing before with
  | nil => exact ⟨.nil, nofun⟩
  | cons b bs ih =>
    obtain ⟨hsorted, hbetween⟩ := ih (before + b.2)
    simp only [cumulate, List.map_cons, counted]
    refine ⟨.cons (fun n hn => (hbetween n hn).1) hsorted, fun n hn => ?_⟩
    rcases List.mem_cons.1 hn with rfl | hn
    · omega
    · have := hbetween n hn
      omega

end Histogram

end QuotaGate
