/-! # Tallies

A tally gives every key a natural number, zero unless said otherwise. Only
positive numbers are stored, one row per key. Writing one number changes a sum by
the new number less the old one, and no other row matters.
-/

namespace VeiledPool

structure Tally (κ : Type) where
  rows : List (κ × Nat)
  /-- No key has two rows. -/
  distinct : (rows.map (·.1)).Nodup

namespace Tally

variable {κ : Type} [DecidableEq κ]

/-- The tally that is zero everywhere. -/
def empty : Tally κ := ⟨[], by simp⟩

/-- Rows of all other keys. -/
def without (rows : List (κ × Nat)) (key : κ) : List (κ × Nat) :=
  rows.filter fun row => row.1 ≠ key

theorem distinct_without {rows : List (κ × Nat)} (h : (rows.map (·.1)).Nodup) (key : κ) :
    ((without rows key).map (·.1)).Nodup :=
  h.sublist (List.filter_sublist.map _)

theorem not_mem_without (rows : List (κ × Nat)) (key : κ) :
    key ∉ (without rows key).map (·.1) := by
  simp [without]

def get (tally : Tally κ) (key : κ) : Nat :=
  (tally.rows.lookup key).getD 0

/-- Writes the number of a key; a zero removes its row. -/
def set (tally : Tally κ) (key : κ) (value : Nat) : Tally κ :=
  if value = 0 then ⟨without tally.rows key, distinct_without tally.distinct key⟩
  else ⟨(key, value) :: without tally.rows key, by
    simpa using ⟨by simpa using not_mem_without tally.rows key,
      distinct_without tally.distinct key⟩⟩

/-- Sum over the keys that satisfy a condition. -/
def sumOf (tally : Tally κ) (wanted : κ → Bool) : Nat :=
  tally.rows.foldr (fun row rest => if wanted row.1 then row.2 + rest else rest) 0

def sum (tally : Tally κ) : Nat :=
  tally.rows.foldr (fun row rest => row.2 + rest) 0

/-- How many keys have a row. -/
def size (tally : Tally κ) : Nat :=
  tally.rows.length

@[simp]
theorem get_empty (key : κ) : (empty : Tally κ).get key = 0 := rfl

theorem lookup_without_self (rows : List (κ × Nat)) (key : κ) :
    (without rows key).lookup key = none := by
  simp only [List.lookup_eq_none_iff, without, List.mem_filter, decide_eq_true_eq]
  rintro row ⟨_, apart⟩
  simpa using Ne.symm apart

theorem lookup_without_of_ne (rows : List (κ × Nat)) {key other : κ} (h : other ≠ key) :
    (without rows key).lookup other = rows.lookup other := by
  induction rows with
  | nil => rfl
  | cons row rest ih =>
    obtain ⟨rowKey, value⟩ := row
    by_cases same : rowKey = key
    · subst same
      have apart : (other == rowKey) = false := by simpa using h
      simpa [without, List.lookup_cons, apart] using ih
    · by_cases here : other = rowKey <;> simp_all [without, List.lookup_cons]

@[simp]
theorem get_set_self (tally : Tally κ) (key : κ) (value : Nat) :
    (tally.set key value).get key = value := by
  by_cases h : value = 0 <;> simp [get, set, h, lookup_without_self]

theorem get_set_of_ne (tally : Tally κ) {key other : κ} (h : other ≠ key) (value : Nat) :
    (tally.set key value).get other = tally.get other := by
  have apart : (other == key) = false := by simpa using h
  by_cases zero : value = 0 <;>
    simp [get, set, zero, List.lookup_cons, apart, lookup_without_of_ne tally.rows h]

/-! ## Sums -/

theorem without_eq_self {rows : List (κ × Nat)} {key : κ} (absent : key ∉ rows.map (·.1)) :
    without rows key = rows := by
  simp only [List.mem_map, not_exists, not_and] at absent
  simpa [without] using fun other value member same => absent (other, value) member same

/-- Taking out the row of a key takes its number out of the sum. -/
theorem foldr_without (wanted : κ → Bool) {rows : List (κ × Nat)} (key : κ)
    (distinct : (rows.map (·.1)).Nodup) :
    (without rows key).foldr (fun row rest => if wanted row.1 then row.2 + rest else rest) 0 +
        (if wanted key then (rows.lookup key).getD 0 else 0) =
      rows.foldr (fun row rest => if wanted row.1 then row.2 + rest else rest) 0 := by
  induction rows with
  | nil => simp [without]
  | cons row rest ih =>
    obtain ⟨other, value⟩ := row
    simp only [List.map_cons, List.nodup_cons] at distinct
    by_cases same : key = other
    · subst same
      have gone : without ((key, value) :: rest) key = rest := by
        simpa [without] using without_eq_self distinct.1
      rw [gone]
      by_cases counted : wanted key = true <;> simp [counted, Nat.add_comm]
    · have kept : without ((other, value) :: rest) key = (other, value) :: without rest key := by
        simp [without, Ne.symm same]
      have apart : (key == other) = false := by simpa using same
      have smaller := ih distinct.2
      simp only [kept, List.foldr_cons, List.lookup_cons, apart]
      split <;> split <;> simp_all
      omega

/-- A write changes a sum by the new number less the old one. -/
theorem sumOf_set (tally : Tally κ) (wanted : κ → Bool) (key : κ) (value : Nat) :
    (tally.set key value).sumOf wanted + (if wanted key then tally.get key else 0) =
      tally.sumOf wanted + (if wanted key then value else 0) := by
  have removed := foldr_without wanted key tally.distinct
  by_cases zero : value = 0
  · simpa [set, sumOf, get, zero] using removed
  · simp only [set, sumOf, get, zero, if_false, List.foldr_cons]
    split <;> simp_all
    omega

omit [DecidableEq κ] in
theorem sum_eq_sumOf (tally : Tally κ) : tally.sum = tally.sumOf fun _ => true := by
  simp [sum, sumOf]

theorem sum_set (tally : Tally κ) (key : κ) (value : Nat) :
    (tally.set key value).sum + tally.get key = tally.sum + value := by
  simpa [sum_eq_sumOf] using tally.sumOf_set (fun _ => true) key value

end Tally

end VeiledPool
