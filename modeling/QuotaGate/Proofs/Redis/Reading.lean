/-
Reading a count off the replies to a transaction.

What a client's library makes of replies is its own affair (`Decoding`); what is relied on is
that it decodes as it says (`Decoding.Lawful`).  A transaction was executed if no reply to it is
an error, it has a result for each of its commands, those that are ignored are left out, and a
number is read from a number or a numeral.  So it follows from the marks of a hit's commands
which of its four results is the count: the third (`Granted`).

* `Reply.unsigned?_eq_some_iff` — the numbers that `Decoding.plain` reads;
* `Decoding.lawful_plain` — it decodes as it should;
* `Decoding.Lawful.results?_queue` — the result that is asked for in a hit;
* `Decoding.Lawful.count?_take` — the replies that give a count.

Design notes: a size that is given as a number is taken to be one that a server can give
(`Reply.Sized`); of a negative one nothing is said.
-/
import QuotaGate.Proofs.Numeral
import QuotaGate.Redis.Decoding

namespace QuotaGate.Redis

open Numeral (Denotes natUpTo natUpTo_eq_ok_iff)

/-- The greatest number of 64 bits without sign. -/
def greatestCount : Nat := 0xffffffffffffffff

namespace Reply

/-- The reply tells the count `c`: as a number, or by a text, simple or in bulk, that is a
numeral of it. -/
inductive Tells (c : Nat) : Reply → Prop
  | integer (hc : c ≤ greatestCount) : Tells c (.integer c)
  | simple {text : String} (ht : Denotes text.toList c) (hc : c ≤ greatestCount) : Tells c (.simple text)
  | bulk {bytes : List UInt8} {text : String} (hb : Text.ofUtf8? bytes = some text) (ht : Denotes text.toList c)
      (hc : c ≤ greatestCount) : Tells c (.bulk bytes)

/-- If it is a number, it is one that a set may have for its size: not negative, and of 64 bits
with its sign. -/
def Sized : Reply → Prop
  | .integer n => 0 ≤ n ∧ n < 0x8000000000000000
  | _ => True

theorem toOption_natUpTo_eq_some_iff {bound c : Nat} {cs : List Char} :
    (natUpTo bound cs).toOption = some c ↔ Denotes cs c ∧ c ≤ bound := by
  rw [← natUpTo_eq_ok_iff]
  cases natUpTo bound cs <;> simp [Except.toOption]

theorem unsigned?_eq_some_iff {r : Reply} {c : Nat} (hr : r.Sized) : Decoding.unsigned? r = some c ↔ r.Tells c := by
  cases r with
  | simple text =>
    rw [Decoding.unsigned?, toOption_natUpTo_eq_some_iff]
    constructor
    · rintro ⟨ht, hc⟩
      exact .simple ht hc
    · rintro ⟨⟩
      exact ⟨‹_›, ‹_›⟩
  | error text => exact iff_of_false nofun nofun
  | integer n =>
    obtain ⟨hlow, hhigh⟩ := hr
    have hn : (n % 0x10000000000000000).toNat = n.toNat := by omega
    rw [Decoding.unsigned?, hn, Option.some.injEq]
    constructor
    · rintro rfl
      have hcast : n = (n.toNat : Int) := by omega
      rw [hcast]
      exact .integer (by rw [greatestCount]; omega)
    · rintro ⟨⟩
      exact Int.toNat_natCast c
  | bulk bytes =>
    simp only [Decoding.unsigned?, Option.bind_eq_some_iff, toOption_natUpTo_eq_some_iff]
    constructor
    · rintro ⟨text, hb, ht, hc⟩
      exact .bulk hb ht hc
    · intro h
      cases h with
      | bulk hb ht hc => exact ⟨_, hb, ht, hc⟩
  | nil => exact iff_of_false nofun nofun
  | array items => exact iff_of_false nofun nofun

end Reply

/-! ### What a decoding is relied on for -/

namespace Decoding

/-- The library decodes as it says. -/
structure Lawful [Decoding] : Prop where
  /-- A transaction was executed if no reply to it is an error. -/
  executed_iff : ∀ {replies : List Reply} {last : Reply},
    executed? replies = some last ↔ replies.getLast? = some last ∧ ∀ r ∈ replies, ¬r.isError
  /-- It then has one result, no error, for each of its commands, and the ignored are left out. -/
  results_iff : ∀ {ignored : List Bool} {last : Reply} {results : List Reply},
    results? ignored last = some results ↔ ∃ items, last = .array items ∧ items.length = ignored.length
      ∧ (∀ r ∈ items, ¬r.isError) ∧ results = kept ignored items
  /-- A number is told by the one result there is. -/
  number_iff : ∀ {results : List Reply} {c : Nat}, (∀ r ∈ results, r.Sized) →
    (number? results = some c ↔ ∃ r, results = [r] ∧ r.Tells c)

theorem lawful_plain : @Lawful plain :=
  letI := plain
  { executed_iff := fun {replies last} => by
      change (if replies.any Reply.isError then none else replies.getLast?) = some last ↔ _
      rw [Option.ite_none_left_eq_some, Bool.not_eq_true, List.any_eq_false]
      exact and_comm
    results_iff := fun {ignored last results} => by
      cases last with
      | array items =>
        change (if items.length = ignored.length ∧ ¬items.any Reply.isError then some (kept ignored items) else none)
          = some results ↔ _
        rw [Option.ite_none_right_eq_some, Bool.not_eq_true, List.any_eq_false, Option.some.injEq]
        constructor
        · rintro ⟨⟨hlen, hnone⟩, rfl⟩
          exact ⟨items, rfl, hlen, hnone, rfl⟩
        · rintro ⟨items', hitems, hlen, hnone, rfl⟩
          obtain rfl := Reply.array.inj hitems
          exact ⟨⟨hlen, hnone⟩, rfl⟩
      | _ => exact iff_of_false nofun (by rintro ⟨items, hitems, -⟩; cases hitems)
    number_iff := fun {results c} hs => by
      match results with
      | [] => exact iff_of_false nofun (by rintro ⟨r, hr, -⟩; cases hr)
      | [r] =>
        refine (Reply.unsigned?_eq_some_iff (hs r (List.mem_singleton_self r))).trans ?_
        simp
      | _ :: _ :: _ => exact iff_of_false nofun (by rintro ⟨r, hr, -⟩; cases hr) }

end Decoding

/-! ### The count of a hit -/

/-- The replies to the commands of a transaction, whatever follows them, grant the count `c`. -/
def Granted (replies : List Reply) (c : Nat) : Prop :=
  ∃ acks removed added size expiry later, replies = acks ++ .array [removed, added, size, expiry] :: later
    ∧ acks.length = 5 ∧ (∀ r ∈ acks, ¬r.isError) ∧ (∀ r ∈ [removed, added, size, expiry], ¬r.isError) ∧ size.Tells c

/-- What stands in the place of the size is one, if it is a number. -/
def Sensible (replies : List Reply) : Prop :=
  ∀ items size, replies[5]? = some (.array items) → items[2]? = some size → size.Sized

namespace Decoding.Lawful

variable [Decoding] {h : Hit} {start : Int} {c : Nat}

/-- Of the four commands of a hit the third is the one whose result is not ignored. -/
theorem results?_queue (hd : Lawful) {last : Reply} {results : List Reply} :
    results? ((Command.queue h start).map Queued.ignored) last = some results
      ↔ ∃ removed added size expiry, last = .array [removed, added, size, expiry]
        ∧ (∀ r ∈ [removed, added, size, expiry], ¬r.isError) ∧ results = [size] := by
  rw [hd.results_iff]
  constructor
  · rintro ⟨items, rfl, hlen, hnone, rfl⟩
    match items, hlen with
    | [removed, added, size, expiry], _ => exact ⟨removed, added, size, expiry, rfl, hnone, rfl⟩
  · rintro ⟨removed, added, size, expiry, rfl, hnone, rfl⟩
    exact ⟨_, rfl, rfl, hnone, rfl⟩

/-- A reply with results is no error itself. -/
theorem executed?_concat (hd : Lawful) {acks items : List Reply} :
    executed? (acks ++ [.array items]) = some (.array items) ↔ ∀ r ∈ acks, ¬r.isError := by
  rw [hd.executed_iff, List.getLast?_concat, and_iff_right rfl, List.forall_mem_append, List.forall_mem_singleton]
  exact and_iff_left Bool.false_ne_true

theorem count?_concat (hd : Lawful) {acks : List Reply} {last : Reply}
    (hs : ∀ items size, last = .array items → items[2]? = some size → size.Sized) :
    count? (Command.queue h start) (acks ++ [last]) = some c
      ↔ (∀ r ∈ acks, ¬r.isError) ∧ ∃ removed added size expiry, last = .array [removed, added, size, expiry]
        ∧ (∀ r ∈ [removed, added, size, expiry], ¬r.isError) ∧ size.Tells c := by
  have hnumber : ∀ removed added size expiry, last = .array [removed, added, size, expiry] →
      (number? [size] = some c ↔ size.Tells c) := by
    intro removed added size expiry harray
    have hsized : ∀ r ∈ [size], r.Sized := List.forall_mem_singleton.2 (hs _ size harray rfl)
    rw [hd.number_iff hsized]
    simp
  simp only [count?, Option.bind_eq_bind, Option.bind_eq_some_iff, hd.results?_queue]
  constructor
  · rintro ⟨last', hexecuted, _, ⟨removed, added, size, expiry, rfl, hnone, rfl⟩, hcount⟩
    have hlast := (hd.executed_iff.1 hexecuted).1
    rw [List.getLast?_concat] at hlast
    obtain rfl := Option.some.inj hlast
    exact ⟨hd.executed?_concat.1 hexecuted, removed, added, size, expiry, rfl, hnone, (hnumber _ _ _ _ rfl).1 hcount⟩
  · rintro ⟨hacks, removed, added, size, expiry, rfl, hnone, htells⟩
    exact ⟨_, hd.executed?_concat.2 hacks, _, ⟨_, _, _, _, rfl, hnone, rfl⟩, (hnumber _ _ _ _ rfl).2 htells⟩

theorem count?_take (hd : Lawful) {replies : List Reply} (hs : Sensible replies) :
    6 ≤ replies.length ∧ count? (Command.queue h start) (replies.take 6) = some c ↔ Granted replies c := by
  constructor
  · rintro ⟨hlen, hcount⟩
    have hfive : replies[5]? = some replies[5] := List.getElem?_eq_getElem hlen
    have htake : replies.take 6 = replies.take 5 ++ [replies[5]] := List.take_succ_eq_append_getElem hlen
    have hsplit : replies = replies.take 5 ++ replies[5] :: replies.drop 6 := by
      rw [← List.drop_eq_getElem_cons hlen, List.take_append_drop]
    rw [htake, hd.count?_concat fun items size harray => hs items size (hfive.trans (congrArg some harray))] at hcount
    obtain ⟨hacks, removed, added, size, expiry, harray, hnone, htells⟩ := hcount
    rw [harray] at hsplit
    refine ⟨_, removed, added, size, expiry, _, hsplit, ?_, hacks, hnone, htells⟩
    rw [List.length_take]
    omega
  · rintro ⟨acks, removed, added, size, expiry, later, rfl, hlen, hacks, hnone, htells⟩
    refine ⟨?_, ?_⟩
    · rw [List.length_append, List.length_cons]
      omega
    · have htake : (acks ++ Reply.array [removed, added, size, expiry] :: later).take 6
          = acks ++ [.array [removed, added, size, expiry]] := by
        rw [List.take_append, hlen, List.take_of_length_le (by omega)]
        rfl
      rw [htake, hd.count?_concat]
      · exact ⟨hacks, removed, added, size, expiry, rfl, hnone, htells⟩
      · intro items x hitems hx
        refine hs items x ?_ hx
        rw [List.getElem?_append_right (by omega), hlen, ← hitems]
        rfl

end Decoding.Lawful

end QuotaGate.Redis
