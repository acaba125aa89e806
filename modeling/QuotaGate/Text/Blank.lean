/-
Blank characters and trimming.

`trim` cuts the blank characters at both ends of a text and nothing else.  The set is the Unicode
property `White_Space`, not the ASCII blanks alone.
-/
import QuotaGate.Text.CaseTable

namespace QuotaGate.Text

/-- Blank characters (property `White_Space`). -/
def isBlank (c : Char) : Bool :=
  inRanges
    [(0x9, 0xd), (0x20, 0x20), (0x85, 0x85), (0xa0, 0xa0), (0x1680, 0x1680), (0x2000, 0x200a),
      (0x2028, 0x2029), (0x202f, 0x202f), (0x205f, 0x205f), (0x3000, 0x3000)]
    c.toNat

/-- The characters from the first that is not blank on. -/
def dropBlank (cs : List Char) : List Char :=
  cs.dropWhile isBlank

/-- The characters up to the last that is not blank. -/
def dropBlankEnd (cs : List Char) : List Char :=
  (dropBlank cs.reverse).reverse

/-- A text without the blank characters at its ends. -/
def trim (s : String) : String :=
  String.ofList (dropBlankEnd (dropBlank s.toList))

end QuotaGate.Text
