/-
What trimming leaves.

A text falls into blanks, a part that neither begins nor ends with one, and blanks again; the
part in the middle is what trimming leaves, and no other part will do (`trim_eq_iff`).

* `Tight`, `Trims` — texts without blanks at their ends, and what one falls into.
-/
import Mathlib.Data.List.TakeWhile
import QuotaGate.Text.Blank

namespace QuotaGate.Text

/-- A text that neither begins nor ends with a blank. -/
structure Tight (cs : List Char) : Prop where
  head : ∀ c, cs.head? = some c → ¬isBlank c
  last : ∀ c, cs.getLast? = some c → ¬isBlank c

/-- Between blanks, `cs` is the tight text `t`. -/
def Trims (cs t : List Char) : Prop :=
  ∃ front back, cs = front ++ t ++ back ∧ (∀ c ∈ front, isBlank c) ∧ (∀ c ∈ back, isBlank c) ∧ Tight t

theorem not_isBlank_head_dropBlank (cs : List Char) {c : Char} (hc : (dropBlank cs).head? = some c) : ¬isBlank c := by
  have hfirst := List.head?_dropWhile_not isBlank cs
  rw [← dropBlank, hc] at hfirst
  exact Bool.eq_false_iff.1 hfirst

/-- Blanks in front are dropped, up to a character that is none. -/
theorem dropBlank_append {front t : List Char} (hfront : ∀ c ∈ front, isBlank c)
    (ht : ∀ c, t.head? = some c → ¬isBlank c) : dropBlank (front ++ t) = t := by
  rw [dropBlank, List.dropWhile_append_of_pos hfront]
  cases t with
  | nil => rfl
  | cons c t => exact List.dropWhile_cons_of_neg (ht c rfl)

theorem dropBlankEnd_append {t back : List Char} (hback : ∀ c ∈ back, isBlank c)
    (ht : ∀ c, t.getLast? = some c → ¬isBlank c) : dropBlankEnd (t ++ back) = t := by
  have hback' : ∀ c ∈ back.reverse, isBlank c := fun c hc => hback c (List.mem_reverse.1 hc)
  have ht' : ∀ c, t.reverse.head? = some c → ¬isBlank c := by
    intro c hc
    exact ht c (List.head?_reverse ▸ hc)
  rw [dropBlankEnd, List.reverse_append, dropBlank_append hback' ht', List.reverse_reverse]

/-- What is dropped, and what is left. -/
theorem exists_dropBlank (cs : List Char) : ∃ front, cs = front ++ dropBlank cs ∧ ∀ c ∈ front, isBlank c :=
  ⟨cs.takeWhile isBlank, List.takeWhile_append_dropWhile.symm, fun _ hc => List.mem_takeWhile_imp hc⟩

theorem exists_dropBlankEnd (cs : List Char) : ∃ back, cs = dropBlankEnd cs ++ back ∧ ∀ c ∈ back, isBlank c := by
  obtain ⟨front, hsplit, hfront⟩ := exists_dropBlank cs.reverse
  refine ⟨front.reverse, ?_, fun c hc => hfront c (List.mem_reverse.1 hc)⟩
  rw [dropBlankEnd, ← List.reverse_append, ← hsplit, List.reverse_reverse]

theorem trims_dropBlank (cs : List Char) : Trims cs (dropBlankEnd (dropBlank cs)) := by
  obtain ⟨front, hsplit, hfront⟩ := exists_dropBlank cs
  obtain ⟨back, hsplit', hback⟩ := exists_dropBlankEnd (dropBlank cs)
  refine ⟨front, back, ?_, hfront, hback, fun c hc => ?_, fun c hc => ?_⟩
  · rw [List.append_assoc, ← hsplit', ← hsplit]
  · -- What is left begins as what was left before the end was cut.
    refine not_isBlank_head_dropBlank cs ?_
    rw [hsplit', List.head?_append, hc]
    rfl
  · refine not_isBlank_head_dropBlank (dropBlank cs).reverse ?_
    rw [← List.getLast?_reverse]
    exact hc

theorem dropBlank_of_trims {cs t : List Char} (h : Trims cs t) : dropBlankEnd (dropBlank cs) = t := by
  obtain ⟨front, back, rfl, hfront, hback, ht⟩ := h
  rw [List.append_assoc]
  cases t with
  | nil =>
    -- All is blank.
    have hdrop : dropBlank (front ++ back) = [] :=
      List.dropWhile_eq_nil_iff.2 fun c hc => (List.mem_append.1 hc).elim (hfront c) (hback c)
    rw [List.nil_append, hdrop]
    rfl
  | cons d t =>
    have hhead : ∀ c, (d :: t ++ back).head? = some c → ¬isBlank c := fun c hc => ht.head c hc
    rw [dropBlank_append hfront hhead, dropBlankEnd_append hback ht.last]

theorem trim_eq_iff {s t : String} : trim s = t ↔ Trims s.toList t.toList := by
  rw [trim]
  constructor
  · rintro rfl
    rw [String.toList_ofList]
    exact trims_dropBlank _
  · intro h
    rw [dropBlank_of_trims h, String.ofList_toList]

end QuotaGate.Text
