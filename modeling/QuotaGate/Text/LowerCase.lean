/-
Full lower-casing of a text.

Every capital is replaced by its lower-case form.  Two letters need more than a table row: the dotted
capital i becomes two characters, and a capital sigma at the end of a word takes its final form.
-/
import QuotaGate.Text.CaseTable

namespace QuotaGate.Text

/-- Letters with case. -/
def isCased (c : Char) : Bool :=
  inRanges CaseTable.cased c.toNat

/-- Marks that case rules look through. -/
def isCaseIgnorable (c : Char) : Bool :=
  inRanges CaseTable.ignorable c.toNat

/-- The lower-case form of a character, whatever stands around it. -/
def lowerChar (c : Char) : List Char :=
  if c = '\u0130' then ['i', '\u0307']
  else
    let row := CaseTable.lowering.find? fun (first, last, step, _) =>
      decide (first ≤ c.toNat) && decide (c.toNat ≤ last) && (c.toNat - first) % step == 0
    match row with
    | some (_, _, _, shift) => [Char.ofNat (c.toNat + shift).toNat]
    | none => [c]

/-- Whether the next character that case rules do not look through is a letter with case. -/
def leadsToCased (cs : List Char) : Bool :=
  match cs.dropWhile isCaseIgnorable with
  | [] => false
  | c :: _ => isCased c

/-- The form of a capital sigma between `before` (nearest character first) and `after`: final at the
end of a word, that is after a letter and before none. -/
def lowerSigma (before after : List Char) : Char :=
  if leadsToCased before && !leadsToCased after then '\u03c2' else '\u03c3'

/-- Lower-cases `cs`, which follows the characters `before` (nearest first). -/
def lowerAfter (before : List Char) : List Char → List Char
  | [] => []
  | c :: rest =>
    (if c = '\u03a3' then [lowerSigma before rest] else lowerChar c) ++ lowerAfter (c :: before) rest

/-- A text in lower case. -/
def lower (s : String) : String :=
  String.ofList (lowerAfter [] s.toList)

end QuotaGate.Text
