/-
Quoted texts.

A text stands between double quotes; inside, the quote and the backslash are escaped, the common
controls have short names, and every other character without a glyph of its own is spelled out by its
code point in hexadecimal.
-/
import QuotaGate.Text.Unprintable

namespace QuotaGate.Text

/-- How one character is written inside a quoted text. -/
def quoteChar (c : Char) : List Char :=
  if c = '"' || c = '\\' then ['\\', c]
  else if c = '\n' then ['\\', 'n']
  else if c = '\r' then ['\\', 'r']
  else if c = '\t' then ['\\', 't']
  else if c = '\x00' then ['\\', '0']
  else if isUnprintable c then ['\\', 'u', '\x7b'] ++ Nat.toDigits 16 c.toNat ++ ['\x7d']
  else [c]

/-- A text between double quotes, with escapes. -/
def quote (s : String) : String :=
  String.ofList (['"'] ++ s.toList.flatMap quoteChar ++ ['"'])

end QuotaGate.Text
