/-
Bytes and texts.

Texts are bytes in UTF-8.  `ofUtf8?` refuses other bytes, `ofUtf8Lossy` puts the replacement character in their place.
Where a text may hold few characters as they are, the others stand as percent triplets (`percentDecode`).
-/
import QuotaGate.Text.Numeral

namespace QuotaGate.Text

/-- The text of bytes in UTF-8. -/
def ofUtf8? (bytes : List UInt8) : Option String :=
  String.fromUTF8? ⟨bytes.toArray⟩

/-- The bytes of a text in UTF-8. -/
def toUtf8 (s : String) : List UInt8 :=
  s.toUTF8.toList

/-- The byte of two hexadecimal digits. -/
def hexByte? (a b : Char) : Option UInt8 := do
  return (16 * (← Numeral.hexDigit? a) + (← Numeral.hexDigit? b)).toUInt8

/-- The bytes of a text with every percent triplet replaced by its byte; a percent sign without two digits after it
stays. -/
def percentDecode : List Char → List UInt8
  | [] => []
  | '%' :: a :: b :: rest =>
    match hexByte? a b with
    | some x => x :: percentDecode rest
    | none => toUtf8 "%" ++ percentDecode (a :: b :: rest)
  | c :: rest => toUtf8 (String.singleton c) ++ percentDecode rest
termination_by cs => cs.length

/-- The number of bytes at the front that are one character. -/
def wholeLength? (bytes : List UInt8) : Option Nat :=
  [1, 2, 3, 4].find? fun n => decide (n ≤ bytes.length) && (ofUtf8? (bytes.take n)).isSome

/-- Whether a character may start with these two bytes and need more than two. -/
def startsLong (a b : UInt8) : Bool :=
  (a = 0xe0 && 0xa0 ≤ b && b ≤ 0xbf) || (a = 0xed && 0x80 ≤ b && b ≤ 0x9f)
    || (0xe1 ≤ a && a ≤ 0xef && a ≠ 0xed && 0x80 ≤ b && b ≤ 0xbf)
    || (a = 0xf0 && 0x90 ≤ b && b ≤ 0xbf) || (a = 0xf4 && 0x80 ≤ b && b ≤ 0x8f)
    || (0xf1 ≤ a && a ≤ 0xf3 && 0x80 ≤ b && b ≤ 0xbf)

/-- The number of bytes at the front that only start a character, at least one. -/
def brokenLength : List UInt8 → Nat
  | a :: b :: c :: _ =>
    if startsLong a b then if 0xf0 ≤ a && 0x80 ≤ c && c ≤ 0xbf then 3 else 2 else 1
  | [a, b] => if startsLong a b then 2 else 1
  | _ => 1

/-- The characters of at most `fuel` stretches, with the replacement character for a broken one. -/
def lossyChars : (fuel : Nat) → List UInt8 → List Char
  | 0, _ => []
  | _, [] => []
  | fuel + 1, bytes =>
    match wholeLength? bytes with
    | some n => ((ofUtf8? (bytes.take n)).getD "").toList ++ lossyChars fuel (bytes.drop n)
    | none => '\ufffd' :: lossyChars fuel (bytes.drop (brokenLength bytes))

/-- The text of bytes, with the replacement character for every stretch that is not UTF-8. -/
def ofUtf8Lossy (bytes : List UInt8) : String :=
  String.ofList (lossyChars bytes.length bytes)

end QuotaGate.Text
