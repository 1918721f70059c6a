import Mathlib.Data.Nat.Digits.Lemmas
import Mathlib.Tactic.Ring
import VeiledPool.Text.Class

/-! # Rows of digits

A row of decimal digits denotes the sum of its digits, each times the power of ten of
its place, whatever scripts the digits are of. Reading the row from the left finds that
number, and finds none in a row that holds anything else.
-/

namespace VeiledPool.Text

variable {c : Char} {row rest : List Char} {value : Nat}

def digitValue (c : Char) : Nat := (decimalValue? c).getD 0

def rowValue (row : List Char) : Nat :=
  Nat.ofDigits 10 (row.map digitValue).reverse

theorem digitValue_lt_ten (c : Char) : digitValue c < 10 := by
  unfold digitValue
  cases decimal : decimalValue? c with
  | none => decide
  | some value => exact decimalValue?_lt_ten decimal

@[simp]
theorem rowValue_nil : rowValue [] = 0 := rfl

theorem rowValue_append (row rest : List Char) :
    rowValue (row ++ rest) = rowValue row * 10 ^ rest.length + rowValue rest := by
  simp [rowValue, Nat.ofDigits_append]
  ring

@[simp]
theorem rowValue_singleton (c : Char) : rowValue [c] = digitValue c := by
  simp [rowValue]

theorem rowValue_cons (c : Char) (row : List Char) :
    rowValue (c :: row) = digitValue c * 10 ^ row.length + rowValue row := by
  simpa using rowValue_append [c] row

@[simp]
theorem digitValue_zero : digitValue '0' = 0 := by decide

theorem rowValue_append_zeros (row : List Char) (count : Nat) :
    rowValue (row ++ List.replicate count '0') = rowValue row * 10 ^ count := by
  have zeros : rowValue (List.replicate count '0') = 0 := by simp [rowValue]
  rw [rowValue_append, zeros, List.length_replicate, Nat.add_zero]

theorem rowValue_lt (row : List Char) : rowValue row < 10 ^ row.length := by
  have digits : ∀ digit ∈ (row.map digitValue).reverse, digit < 10 := by
    simp [digitValue_lt_ten]
  simpa [rowValue] using Nat.ofDigits_lt_base_pow_length (by decide) digits

theorem decimalValue?_eq_some_iff :
    decimalValue? c = some value ↔ isDecimalDigit c = true ∧ value = digitValue c := by
  cases decimal : decimalValue? c <;> simp [isDecimalDigit, digitValue, decimal, eq_comm]

theorem positionalValue?_eq_some_iff :
    positionalValue? row = some value ↔
      (∀ c ∈ row, isDecimalDigit c = true) ∧ value = rowValue row := by
  -- What has been read already moves up by one place for each digit that follows.
  suffices onward : ∀ read, row.foldlM
      (fun value c => (decimalValue? c).map (10 * value + ·)) read = some value ↔
        (∀ c ∈ row, isDecimalDigit c = true) ∧
          value = read * 10 ^ row.length + rowValue row by
    simpa [positionalValue?] using onward 0
  induction row with
  | nil =>
    intro read
    simpa using eq_comm
  | cons c rest ih =>
    intro read
    rw [List.foldlM_cons, rowValue_cons, List.length_cons]
    cases decimal : decimalValue? c with
    | none =>
      have other : isDecimalDigit c = false := by simp [isDecimalDigit, decimal]
      simp [other]
    | some digit =>
      obtain ⟨isDigit, rfl⟩ := decimalValue?_eq_some_iff.1 decimal
      have moved : (10 * read + digitValue c) * 10 ^ rest.length + rowValue rest =
          read * 10 ^ (rest.length + 1) + (digitValue c * 10 ^ rest.length + rowValue rest) := by
        ring
      simp [isDigit, ih, moved]

end VeiledPool.Text
