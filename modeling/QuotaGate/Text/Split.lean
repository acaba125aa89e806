/-
Cutting a text at a mark.

* `splitAll` — all pieces between the marks; joining them again with the mark gives the text back
  (`joinWith_splitAll`), and splitting what was joined gives the pieces back (`splitAll_joinWith`);
* `splitLast?` — the two parts around the last mark.
-/
namespace QuotaGate.Text

/-- The pieces of `cs` between the characters `mark`; there is always at least one. -/
def splitAll (mark : Char) : List Char → List (List Char)
  | [] => [[]]
  | c :: rest =>
    if c = mark then [] :: splitAll mark rest
    else match splitAll mark rest with
      | [] => [[c]]
      | piece :: pieces => (c :: piece) :: pieces

/-- The pieces with `sep` between each two. -/
def joinWith (sep : List Char) : List (List Char) → List Char
  | [] => []
  | [piece] => piece
  | piece :: next :: pieces => piece ++ sep ++ joinWith sep (next :: pieces)

/-- The parts before and after the last `mark`. -/
def splitLast? (mark : Char) (cs : List Char) : Option (List Char × List Char) :=
  if mark ∈ cs then
    let after := (cs.reverse.takeWhile (· ≠ mark)).reverse
    some (cs.take (cs.length - after.length - 1), after)
  else none

theorem splitAll_ne_nil (mark : Char) (cs : List Char) : splitAll mark cs ≠ [] := by
  cases cs with
  | nil => simp [splitAll]
  | cons c rest =>
    rw [splitAll]
    split
    · simp
    · split <;> simp

theorem joinWith_splitAll (mark : Char) (cs : List Char) :
    joinWith [mark] (splitAll mark cs) = cs := by
  induction cs with
  | nil => rfl
  | cons c rest ih =>
    rw [splitAll]
    split
    · rename_i h
      subst h
      cases hs : splitAll c rest with
      | nil => exact absurd hs (splitAll_ne_nil c rest)
      | cons p ps => simp [joinWith, ← hs, ih]
    · cases hs : splitAll mark rest with
      | nil => exact absurd hs (splitAll_ne_nil mark rest)
      | cons p ps =>
        rw [hs] at ih
        cases ps with
        | nil => simpa [joinWith] using ih
        | cons q qs =>
          rw [joinWith] at ih ⊢
          rw [← ih]
          simp

theorem splitAll_append_mark {mark : Char} {xs : List Char} (hx : mark ∉ xs) (ys : List Char) :
    splitAll mark (xs ++ mark :: ys) = xs :: splitAll mark ys := by
  induction xs with
  | nil => simp [splitAll]
  | cons x xs ih =>
    obtain ⟨hne, hxs⟩ : mark ≠ x ∧ mark ∉ xs := by simpa using hx
    rw [List.cons_append, splitAll, if_neg (Ne.symm hne), ih hxs]

theorem splitAll_of_notMem {mark : Char} {xs : List Char} (hx : mark ∉ xs) : splitAll mark xs = [xs] := by
  induction xs with
  | nil => rfl
  | cons x xs ih =>
    obtain ⟨hne, hxs⟩ : mark ≠ x ∧ mark ∉ xs := by simpa using hx
    rw [splitAll, if_neg (Ne.symm hne), ih hxs]

/-- Pieces without the mark are told apart again. -/
theorem splitAll_joinWith {mark : Char} {pieces : List (List Char)} (hne : pieces ≠ []) (h : ∀ p ∈ pieces, mark ∉ p) :
    splitAll mark (joinWith [mark] pieces) = pieces := by
  induction pieces with
  | nil => exact absurd rfl hne
  | cons p pieces ih =>
    obtain ⟨hp, hpieces⟩ := List.forall_mem_cons.1 h
    cases pieces with
    | nil => exact splitAll_of_notMem hp
    | cons q pieces =>
      rw [joinWith, List.append_assoc, List.singleton_append, splitAll_append_mark hp, ih (List.cons_ne_nil _ _) hpieces]

/-- What stands in no piece and not between them stands nowhere in the joined text. -/
theorem notMem_joinWith {sep : List Char} {pieces : List (List Char)} {c : Char} (hsep : c ∉ sep)
    (h : ∀ p ∈ pieces, c ∉ p) : c ∉ joinWith sep pieces := by
  induction pieces with
  | nil => exact List.not_mem_nil
  | cons p pieces ih =>
    obtain ⟨hp, hpieces⟩ := List.forall_mem_cons.1 h
    cases pieces with
    | nil => exact hp
    | cons q pieces =>
      rw [joinWith, List.append_assoc, List.mem_append, List.mem_append]
      rintro (hc | hc | hc)
      · exact hp hc
      · exact hsep hc
      · exact ih hpieces hc

end QuotaGate.Text
