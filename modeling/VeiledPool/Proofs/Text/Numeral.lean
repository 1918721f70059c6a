import VeiledPool.Proofs.Text.Row
import VeiledPool.Text.Written

/-! # Numbers in plain digits

Plain digits are those from `0` to `9`. Numbers are written in them, with as many places
as they need or with a given number of places, and the row that is written is the only
one of its kind that denotes the number.
-/

namespace VeiledPool.Text

variable {c : Char} {row : List Char}

def Plain (row : List Char) : Prop := ∀ c ∈ row, c.isDigit = true

theorem decimalValue?_of_isDigit (plain : c.isDigit = true) :
    decimalValue? c = some (c.toNat - 48) := by
  have range : 48 ≤ c.toNat ∧ c.toNat ≤ 57 := Char.isDigit_iff_toNat.1 plain
  have first : decimalZeros = 48 :: decimalZeros.drop 1 := rfl
  have found : decimalZeros.find? (fun start => start ≤ c.toNat && c.toNat < start + 10) =
      some 48 := by
    rw [first]
    exact List.find?_cons_of_pos (by simp; omega)
  rw [decimalValue?, found, Option.map_some]

theorem isDecimalDigit_of_isDigit (plain : c.isDigit = true) : isDecimalDigit c = true := by
  rw [isDecimalDigit, decimalValue?_of_isDigit plain, Option.isSome_some]

theorem digitValue_of_isDigit (plain : c.isDigit = true) : digitValue c = c.toNat - 48 := by
  rw [digitValue, decimalValue?_of_isDigit plain, Option.getD_some]

@[simp]
theorem digitValue_digitChar {digit : Nat} (small : digit < 10) :
    digitValue digit.digitChar = digit := by
  rw [digitValue_of_isDigit (by simpa using small), Nat.toNat_digitChar_sub_48_of_lt_ten small]

theorem digitChar_digitValue (plain : c.isDigit = true) : (digitValue c).digitChar = c := by
  have range : 48 ≤ c.toNat ∧ c.toNat ≤ 57 := Char.isDigit_iff_toNat.1 plain
  have small := digitValue_lt_ten c
  apply Char.toNat_inj.1
  rw [Nat.toNat_digitChar_of_lt_ten small, digitValue_of_isDigit plain]
  omega

theorem rowValue_concat (row : List Char) (c : Char) :
    rowValue (row ++ [c]) = 10 * rowValue row + digitValue c := by
  rw [rowValue_append, rowValue_singleton, List.length_singleton, Nat.pow_one, Nat.mul_comm]

@[simp]
theorem plain_append {rest : List Char} : Plain (row ++ rest) ↔ Plain row ∧ Plain rest := by
  simp [Plain, or_imp, forall_and]

@[simp]
theorem plain_singleton : Plain [c] ↔ c.isDigit = true := by
  simp [Plain]

theorem plain_replicate_zero (count : Nat) : Plain (List.replicate count '0') := by
  intro c inside
  rw [List.eq_of_mem_replicate inside]
  rfl

/-! ## As many places as it takes -/

theorem plain_toDigits (n : Nat) : Plain (Nat.toDigits 10 n) :=
  fun _ inside => Nat.isDigit_of_mem_toDigits (by decide) (by decide) inside

@[simp]
theorem rowValue_toDigits (n : Nat) : rowValue (Nat.toDigits 10 n) = n := by
  induction n using Nat.strongRecOn with
  | ind n ih =>
    rw [Nat.toDigits_eq_if (by decide)]
    split
    · rename_i small
      simp [digitValue_digitChar small]
    · rename_i large
      have last : n % 10 < 10 := Nat.mod_lt n (by decide)
      rw [rowValue_concat, ih (n / 10) (by omega), digitValue_digitChar last]
      omega

/-- A row without superfluous zeros in front is how its value is written. -/
theorem toDigits_rowValue (plain : Plain row) (written : row ≠ [])
    (leads : row.head? = some '0' → row = ['0']) : Nat.toDigits 10 (rowValue row) = row := by
  induction row using List.reverseRecOn with
  | nil => exact absurd rfl written
  | append_singleton front c ih =>
    obtain ⟨plainFront, plainLast⟩ := plain_append.1 plain
    have last : (digitValue c).digitChar = c := digitChar_digitValue (plain_singleton.1 plainLast)
    have single : Nat.toDigits 10 (digitValue c) = [c] := by
      rw [Nat.toDigits_of_lt_base (digitValue_lt_ten c), last]
    by_cases empty : front = []
    · simp [empty, single]
    -- With a digit behind it the front cannot start with a zero at all.
    have head : front.head? ≠ some '0' := by
      intro zero
      have alone := leads (by rw [List.head?_append_of_ne_nil _ empty, zero])
      simp [List.append_eq_singleton_iff, empty] at alone
    have before := ih plainFront empty fun zero => absurd zero head
    have positive : 0 < rowValue front := by
      refine Nat.pos_of_ne_zero fun zero => head ?_
      rw [← before, zero, Nat.toDigits_zero]
      rfl
    rw [rowValue_concat, ← Nat.toDigits_append_toDigits (by decide) positive (digitValue_lt_ten c),
      before, single]

theorem toDigits_of_head_zero {n : Nat} (zero : (Nat.toDigits 10 n).head? = some '0') :
    Nat.toDigits 10 n = ['0'] := by
  induction n using Nat.strongRecOn with
  | ind n ih =>
    rw [Nat.toDigits_eq_if (by decide)] at zero ⊢
    split at zero
    · rename_i small
      simp only [List.head?_cons, Option.some.injEq] at zero
      rw [if_pos small, zero]
    · rename_i large
      rw [List.head?_append_of_ne_nil _ Nat.toDigits_ne_nil] at zero
      have nothing : n / 10 = 0 := by
        simpa using congrArg rowValue (ih (n / 10) (by omega) zero)
      omega

/-! ## A given number of places -/

theorem plain_paddedDigits (width n : Nat) : Plain (paddedDigits 10 width n) := by
  induction width generalizing n with
  | zero => simp [paddedDigits, Plain]
  | succ width ih => simp [paddedDigits, ih, Nat.mod_lt]

theorem rowValue_paddedDigits (width n : Nat) :
    rowValue (paddedDigits 10 width n) = n % 10 ^ width := by
  induction width generalizing n with
  | zero => simp [paddedDigits, Nat.mod_one]
  | succ width ih =>
    have last : n % 10 < 10 := Nat.mod_lt n (by decide)
    rw [paddedDigits, rowValue_concat, ih, digitValue_digitChar last, Nat.pow_succ,
      Nat.mul_comm _ 10, Nat.mod_mul, Nat.add_comm]

theorem paddedDigits_rowValue (plain : Plain row) :
    paddedDigits 10 row.length (rowValue row) = row := by
  induction row using List.reverseRecOn with
  | nil => rfl
  | append_singleton front c ih =>
    obtain ⟨plainFront, plainLast⟩ := plain_append.1 plain
    have last : (digitValue c).digitChar = c := digitChar_digitValue (plain_singleton.1 plainLast)
    have small := digitValue_lt_ten c
    have quotient : (10 * rowValue front + digitValue c) / 10 = rowValue front := by omega
    have remainder : (10 * rowValue front + digitValue c) % 10 = digitValue c := by omega
    rw [List.length_append, List.length_singleton, paddedDigits, rowValue_concat, quotient,
      remainder, ih plainFront, last]

end VeiledPool.Text
