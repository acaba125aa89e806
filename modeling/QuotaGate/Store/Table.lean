/-
Finite tables: rows of a key and a value, no key twice.

A table is seen through `get?` and `size`:
* `get?_insert_self`, `get?_insert_of_ne` — a row written is the row read, the others
  stay;
* `get?_filter` — filtering acts on each row by itself;
* `size_filter_add` — the rows kept and the rows dropped are all rows.
-/
namespace QuotaGate

/-- A finite table. -/
structure Table (κ α : Type) where
  rows : List (κ × α)
  nodup : (rows.map Prod.fst).Nodup

namespace Table

variable {κ α : Type} [DecidableEq κ]

/-- The table without rows. -/
def empty : Table κ α := ⟨[], List.nodup_nil⟩

instance : Inhabited (Table κ α) := ⟨empty⟩

/-- The value under a key. -/
def get? (t : Table κ α) (k : κ) : Option α :=
  t.rows.lookup k

/-- The number of rows. -/
def size (t : Table κ α) : Nat :=
  t.rows.length

/-- Whether there is no row. -/
def isEmpty (t : Table κ α) : Bool :=
  t.rows.isEmpty

/-- The keys that have a row. -/
def keys (t : Table κ α) : List κ :=
  t.rows.map Prod.fst

/-- The rows with the value of `k` set to `v`, in a new last row if there was none. -/
def setRow (k : κ) (v : α) : List (κ × α) → List (κ × α)
  | [] => [(k, v)]
  | (k', v') :: rest => if k' = k then (k, v) :: rest else (k', v') :: setRow k v rest

theorem mem_keys_setRow {k : κ} {v : α} {rows : List (κ × α)} {x : κ} :
    x ∈ (setRow k v rows).map Prod.fst ↔ x = k ∨ x ∈ rows.map Prod.fst := by
  induction rows with
  | nil => simp [setRow]
  | cons r rows ih =>
    obtain ⟨k', v'⟩ := r
    by_cases h : k' = k
    · subst h
      simp [setRow]
    · simp only [setRow, h, if_false, List.map_cons, List.mem_cons, ih]
      grind

theorem nodup_setRow {k : κ} {v : α} {rows : List (κ × α)} (h : (rows.map Prod.fst).Nodup) :
    ((setRow k v rows).map Prod.fst).Nodup := by
  induction rows with
  | nil => simp [setRow]
  | cons r rows ih =>
    obtain ⟨k', v'⟩ := r
    obtain ⟨hk, hr⟩ := List.nodup_cons.1 h
    by_cases hkk : k' = k
    · subst hkk
      simpa [setRow] using h
    · simp only [setRow, hkk, if_false, List.map_cons, List.nodup_cons]
      refine ⟨fun hm => ?_, ih hr⟩
      rcases mem_keys_setRow.1 hm with he | he
      · exact hkk he
      · exact hk he

/-- The table with the value of `k` set to `v`. -/
def insert (t : Table κ α) (k : κ) (v : α) : Table κ α :=
  ⟨setRow k v t.rows, nodup_setRow t.nodup⟩

/-- The rows whose value passes `p`. -/
def filter (t : Table κ α) (p : α → Bool) : Table κ α :=
  ⟨t.rows.filter fun r => p r.2, t.nodup.sublist (List.filter_sublist.map _)⟩

theorem lookup_setRow_self {k : κ} {v : α} {rows : List (κ × α)} :
    (setRow k v rows).lookup k = some v := by
  induction rows with
  | nil => simp [setRow]
  | cons r rows ih =>
    obtain ⟨k', v'⟩ := r
    by_cases h : k' = k
    · simp [setRow, h]
    · have hne : (k == k') = false := by simpa using fun e => h e.symm
      simp [setRow, h, List.lookup_cons, hne, ih]

theorem lookup_setRow_of_ne {k x : κ} {v : α} (hx : x ≠ k) {rows : List (κ × α)} :
    (setRow k v rows).lookup x = rows.lookup x := by
  have hne : (x == k) = false := by simpa using hx
  induction rows with
  | nil => simp [setRow, List.lookup_cons, hne]
  | cons r rows ih =>
    obtain ⟨k', v'⟩ := r
    by_cases h : k' = k
    · subst h
      simp [setRow, List.lookup_cons, hne]
    · simp only [setRow, h, if_false, List.lookup_cons, ih]

@[simp] theorem get?_empty (k : κ) : (empty : Table κ α).get? k = none := rfl

@[simp] theorem get?_insert_self (t : Table κ α) (k : κ) (v : α) :
    (t.insert k v).get? k = some v :=
  lookup_setRow_self

theorem get?_insert_of_ne (t : Table κ α) {k x : κ} (v : α) (h : x ≠ k) :
    (t.insert k v).get? x = t.get? x :=
  lookup_setRow_of_ne h

theorem lookup_filter_rows {p : α → Bool} {k : κ} {rows : List (κ × α)}
    (h : (rows.map Prod.fst).Nodup) :
    (rows.filter fun r => p r.2).lookup k = (rows.lookup k).filter p := by
  induction rows with
  | nil => rfl
  | cons r rows ih =>
    obtain ⟨k', v'⟩ := r
    obtain ⟨hk, hr⟩ := List.nodup_cons.1 h
    have hrest := ih hr
    by_cases hkk : k = k'
    · subst hkk
      have hnone : rows.lookup k = none := by
        simp only [List.lookup_eq_none_iff]
        intro q hq
        have hqk : q.1 ∈ rows.map Prod.fst := List.mem_map_of_mem hq
        have : k ≠ q.1 := fun e => hk (e ▸ hqk)
        simpa using this
      by_cases hp : p v'
      · simp [hp, Option.filter]
      · rw [List.filter_cons_of_neg (by simpa using hp), hrest, hnone]
        simp [Option.filter, hp]
    · have hne : (k == k') = false := by simpa using hkk
      by_cases hp : p v'
      · rw [List.filter_cons_of_pos (by simpa using hp)]
        simp [List.lookup_cons, hne, hrest]
      · rw [List.filter_cons_of_neg (by simpa using hp)]
        simp [List.lookup_cons, hne, hrest]

theorem get?_filter (t : Table κ α) (p : α → Bool) (k : κ) :
    (t.filter p).get? k = (t.get? k).filter p :=
  lookup_filter_rows t.nodup

omit [DecidableEq κ] in
theorem isEmpty_iff (t : Table κ α) : t.isEmpty ↔ t.size = 0 := by
  rw [isEmpty, size, List.isEmpty_iff, List.length_eq_zero_iff]

omit [DecidableEq κ] in
theorem size_filter_add (t : Table κ α) (p : α → Bool) :
    (t.filter p).size + (t.filter fun v => !p v).size = t.size := by
  simp only [size, filter, ← List.countP_eq_length_filter]
  rw [List.length_eq_countP_add_countP fun r : κ × α => p r.2]
  simp

end Table

end QuotaGate
