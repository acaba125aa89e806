/-
Header fields.

A header list is a multimap in the order in which its fields came.  Names are compared
without regard to the case of ASCII letters, which `HeaderName.ofText?` settles once by
writing them small; values are bytes.

* `first?` — the first value of a name, the only one that counts;
* `set` — replaces every value of a name by one, and touches no other name
  (`all_set_self`, `all_set_of_ne`).
-/
namespace QuotaGate

/-- A header name, in small letters. -/
structure HeaderName where
  text : String
  deriving DecidableEq, Repr

/-- The bytes of a header value. -/
abbrev HeaderValue := List UInt8

namespace HeaderName

/-- The characters of a name in small letters: those of a token (RFC 9110). -/
def isTokenChar (c : Char) : Bool :=
  c.isDigit || c.isLower || "!#$%&'*+-.^_|~".toList.contains c || c = '\x60'

/-- Reads a header name: one to 65535 token characters, large letters standing for small
ones. -/
def ofText? (s : String) : Option HeaderName :=
  let cs := s.toList.map Char.toLower
  if !cs.isEmpty && decide (cs.length < 65536) && cs.all isTokenChar then some ⟨String.ofList cs⟩
  else none

end HeaderName

namespace HeaderValue

/-- A value of ASCII characters. -/
def ofAscii (s : String) : HeaderValue :=
  s.toList.map fun c => c.toNat.toUInt8

/-- Bytes that may be read as text: the printable ones of ASCII and the tab. -/
def isReadable (b : UInt8) : Bool :=
  (0x20 ≤ b && b ≤ 0x7e) || b == 0x09

/-- The text of a value, if all its bytes may be read. -/
def text? (v : HeaderValue) : Option String :=
  if v.all isReadable then some (String.ofList (v.map fun b => Char.ofNat b.toNat)) else none

end HeaderValue

/-- Header fields, in the order in which they came. -/
abbrev Headers := List (HeaderName × HeaderValue)

namespace Headers

/-- The values of a name, in order. -/
def all (hs : Headers) (n : HeaderName) : List HeaderValue :=
  (hs.filter fun h => h.1 = n).map Prod.snd

/-- The first value of a name. -/
def first? (hs : Headers) (n : HeaderName) : Option HeaderValue :=
  (hs.all n).head?

/-- The first value of a name as text, if it may be read. -/
def firstText? (hs : Headers) (n : HeaderName) : Option String :=
  (hs.first? n).bind HeaderValue.text?

/-- The fields with `v` as the only value of `n`. -/
def set (hs : Headers) (n : HeaderName) (v : HeaderValue) : Headers :=
  (hs.filter fun h => h.1 ≠ n) ++ [(n, v)]

@[simp] theorem all_set_self (hs : Headers) (n : HeaderName) (v : HeaderValue) :
    (hs.set n v).all n = [v] := by
  simp [set, all, List.filter_filter]

theorem all_set_of_ne (hs : Headers) {n m : HeaderName} (v : HeaderValue) (h : m ≠ n) :
    (hs.set n v).all m = hs.all m := by
  have hn : ¬n = m := fun e => h e.symm
  simp only [set, all, List.filter_append, List.filter_filter]
  congr 1
  simp only [List.filter_cons, hn, decide_false, Bool.false_eq_true, if_false, List.filter_nil,
    List.append_nil]
  refine List.filter_congr fun x _ => ?_
  by_cases hx : x.1 = m
  · simp [hx, h]
  · simp [hx]

end Headers

end QuotaGate
